import StagedSql.Keyed
import StagedSql.Binary64.Basic

/-!
# Dynamic values

What a payload, a table cell or an answer of the language model may hold. Whole numbers have any
size and stay apart from binary fractions; an object keeps its fields in order.
-/

namespace StagedSql

inductive Value where
  | null
  | bool (b : Bool)
  | int (i : Int)
  | float (x : Binary64)
  | text (s : String)
  | list (items : List Value)
  | object (fields : List (String × Value))
  deriving Repr, Inhabited

abbrev Fields := Keyed Value

namespace Value

/-! ### Equality -/

mutual

def decEq (v w : Value) : Decidable (v = w) :=
  match v, w with
  | .null, .null => .isTrue rfl
  | .bool a, .bool b => decidable_of_iff (a = b) (by simp)
  | .int a, .int b => decidable_of_iff (a = b) (by simp)
  | .float a, .float b => decidable_of_iff (a = b) (by simp)
  | .text a, .text b => decidable_of_iff (a = b) (by simp)
  | .list a, .list b =>
    match decEqItems a b with
    | .isTrue h => .isTrue (by rw [h])
    | .isFalse h => .isFalse (by simpa using h)
  | .object a, .object b =>
    match decEqFields a b with
    | .isTrue h => .isTrue (by rw [h])
    | .isFalse h => .isFalse (by simpa using h)
  | .null, .bool _ | .null, .int _ | .null, .float _ | .null, .text _ | .null, .list _
  | .null, .object _ | .bool _, .null | .bool _, .int _ | .bool _, .float _ | .bool _, .text _
  | .bool _, .list _ | .bool _, .object _ | .int _, .null | .int _, .bool _ | .int _, .float _
  | .int _, .text _ | .int _, .list _ | .int _, .object _ | .float _, .null | .float _, .bool _
  | .float _, .int _ | .float _, .text _ | .float _, .list _ | .float _, .object _
  | .text _, .null | .text _, .bool _ | .text _, .int _ | .text _, .float _ | .text _, .list _
  | .text _, .object _ | .list _, .null | .list _, .bool _ | .list _, .int _ | .list _, .float _
  | .list _, .text _ | .list _, .object _ | .object _, .null | .object _, .bool _
  | .object _, .int _ | .object _, .float _ | .object _, .text _ | .object _, .list _ =>
    .isFalse (by simp)

def decEqItems (vs ws : List Value) : Decidable (vs = ws) :=
  match vs, ws with
  | [], [] => .isTrue rfl
  | [], _ :: _ => .isFalse (by simp)
  | _ :: _, [] => .isFalse (by simp)
  | v :: vs, w :: ws =>
    match decEq v w, decEqItems vs ws with
    | .isTrue h, .isTrue hs => .isTrue (by rw [h, hs])
    | .isFalse h, _ => .isFalse (by simp [h])
    | _, .isFalse hs => .isFalse (by simp [hs])

def decEqFields (vs ws : List (String × Value)) : Decidable (vs = ws) :=
  match vs, ws with
  | [], [] => .isTrue rfl
  | [], _ :: _ => .isFalse (by simp)
  | _ :: _, [] => .isFalse (by simp)
  | (j, v) :: vs, (k, w) :: ws =>
    if hk : j = k then
      match decEq v w, decEqFields vs ws with
      | .isTrue h, .isTrue hs => .isTrue (by rw [hk, h, hs])
      | .isFalse h, _ => .isFalse (by simp [h])
      | _, .isFalse hs => .isFalse (by simp [hs])
    else .isFalse (by simp [hk])

end

instance : DecidableEq Value := decEq

/-! ### Reading -/

/-- Whether the value counts as given: not null, false, zero or empty. -/
def isGiven : Value → Bool
  | .null => false
  | .bool b => b
  | .int i => i ≠ 0
  | .float x => !x.isZero
  | .text s => s ≠ ""
  | .list items => !items.isEmpty
  | .object fields => !fields.isEmpty

def text? : Value → Option String
  | .text s => some s
  | _ => none

def givenText? : Value → Option String
  | .text s => if s = "" then none else some s
  | _ => none

def object? : Value → Option Fields
  | .object fields => some fields
  | _ => none

/-- What a walk through the value visits: the items of a list, the characters of a text, the keys of
an object. Other values cannot be walked. -/
def elements? : Value → Option (List Value)
  | .list items => some items
  | .text s => some (s.toList.map fun c => .text c.toString)
  | .object fields => some (fields.map fun f => .text f.1)
  | _ => none

/-- The field `key`, with null for a field that is absent. -/
def field (fields : Fields) (key : String) : Value := (fields.lookup? key).getD .null

def ofOption (f : α → Value) : Option α → Value
  | some a => f a
  | none => .null

/-! ### Interchange -/

mutual

/-- The value as the interchange format can hold it: numbers that are not finite become null. -/
def interchange : Value → Value
  | .float x => if x.isFinite then .float x else .null
  | .list items => .list (interchangeItems items)
  | .object fields => .object (interchangeFields fields)
  | v => v

def interchangeItems : List Value → List Value
  | [] => []
  | v :: rest => interchange v :: interchangeItems rest

def interchangeFields : List (String × Value) → List (String × Value)
  | [] => []
  | (k, v) :: rest => (k, interchange v) :: interchangeFields rest

end

theorem interchangeItems_eq_map (items : List Value) :
    interchangeItems items = items.map interchange := by
  induction items with
  | nil => rfl
  | cons v rest ih => simp [interchangeItems, ih]

end Value

end StagedSql
