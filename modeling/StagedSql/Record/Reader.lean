import StagedSql.Record.WholeText
import StagedSql.Value.Basic

/-!
# Reading records

A record is read field by field. A reading that fails holds its problems; putting two readings
together keeps the problems of both, the first one's first.
-/

namespace StagedSql.Record

inductive Checked (α : Type) where
  | good (a : α)
  | bad (problems : List Problem)
  deriving DecidableEq, Repr

namespace Checked

variable {α β : Type}

def problem (c : Complaint) : Checked α := .bad [⟨[], c⟩]

def map (f : α → β) : Checked α → Checked β
  | .good a => .good (f a)
  | .bad ps => .bad ps

/-- Applies a function to an argument, both as far as they could be read. -/
def apply : Checked (α → β) → Checked α → Checked β
  | .good f, .good a => .good (f a)
  | .good _, .bad ps => .bad ps
  | .bad ps, .good _ => .bad ps
  | .bad ps, .bad qs => .bad (ps ++ qs)

instance : Functor Checked where
  map := Checked.map

instance : Applicative Checked where
  pure := .good
  seq f x := apply f (x ())

def under (step : Step) : Checked α → Checked α
  | .good a => .good a
  | .bad ps => .bad (ps.map (Problem.under step))

def report (record : String) : Checked α → Except Report α
  | .good a => .ok a
  | .bad ps => .error ⟨record, ps⟩

def problems : Checked α → List Problem
  | .good _ => []
  | .bad ps => ps

end Checked

open Checked

/-! ### Single values -/

def text : Value → Checked String
  | .text s => .good s
  | _ => problem .notText

def object : Value → Checked Fields
  | .object fields => .good fields
  | _ => problem .notObject

def any (v : Value) : Checked Value := .good v

def nonEmptyText : Value → Checked String
  | .text s => if s = "" then problem .emptyText else .good s
  | _ => problem .notText

/-- Whole numbers below this bound, and above its negative, fit into a machine word. -/
def wordBound : Nat := 0x8000000000000000

/-- A whole number, also as a text or as a fraction without remainder that fits into a word; the
truth values are the numbers one and zero. -/
def whole : Value → Checked Int
  | .int i => .good i
  | .bool b => .good (if b then 1 else 0)
  | .float x =>
    if x.isFinite then
      match x.whole? with
      | some i => if i.natAbs < wordBound then .good i else problem .longWhole
      | none => problem .fraction
    else problem .notFinite
  | .text s =>
    match WholeText.read s.toList with
    | .ok i => .good i
    | .error c => problem c
  | _ => problem .notWhole

def truthOfWhole (i : Int) : Checked Bool :=
  if i = 0 then .good false else if i = 1 then .good true else problem .unreadableTruth

/-- A truth value, also as one of the numbers zero and one or as a common word. Numbers that do not
fit into a word are no truth values at all. -/
def truth : Value → Checked Bool
  | .bool b => .good b
  | .int i =>
    if -Int.ofNat wordBound ≤ i ∧ i < Int.ofNat wordBound then truthOfWhole i
    else problem .notTruth
  | .float x =>
    match x.whole? with
    | some i => if i.natAbs < wordBound then truthOfWhole i else problem .notTruth
    | none => problem .notTruth
  | .text s =>
    let word := String.ofList (s.toList.map Char.toLower)
    if ["0", "off", "f", "false", "n", "no"].contains word then .good false
    else if ["1", "on", "t", "true", "y", "yes"].contains word then .good true
    else problem .unreadableTruth
  | _ => problem .notTruth

def itemsFrom (read : Value → Checked α) (i : Nat) : List Value → Checked (List α)
  | [] => .good []
  | v :: rest => List.cons <$> (read v).under (.index i) <*> itemsFrom read (i + 1) rest

def list (read : Value → Checked α) : Value → Checked (List α)
  | .list items => itemsFrom read 0 items
  | _ => problem .notList

def nested (record : String) (read : Fields → Checked α) : Value → Checked α
  | .object fields => read fields
  | _ => problem (.notRecord record)

/-! ### Fields -/

def required (read : Value → Checked α) (key : String) (fields : Fields) : Checked α :=
  match fields.lookup? key with
  | none => (problem .missing).under (.name key)
  | some v => (read v).under (.name key)

/-- A field that may be absent or null. -/
def optional (read : Value → Checked α) (key : String) (fields : Fields) : Checked (Option α) :=
  match fields.lookup? key with
  | none | some .null => .good none
  | some v => ((read v).map some).under (.name key)

/-- A field that may be absent, but not null. -/
def defaulted (read : Value → Checked α) (default : α) (key : String) (fields : Fields) :
    Checked α :=
  match fields.lookup? key with
  | none => .good default
  | some v => (read v).under (.name key)

def extras (declared : List String) (fields : Fields) : Fields :=
  fields.filter fun f => !declared.contains f.1

end StagedSql.Record
