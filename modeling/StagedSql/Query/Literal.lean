import StagedSql.Value.Display
import StagedSql.Text.Basic
import StagedSql.Text.Digit

/-!
# SQL literals

Numbers and truth values stand bare, a list becomes a list in parentheses, and everything else is a
text in single quotes with the quotes inside it doubled.

`literal` is the text that a value has as a literal, at any size. Whether it is written at all is told by
`render`: a whole number must not have more than `Text.longestWhole` digits, and the calls that the
containers take must have room on the stack. Statements that are put together from literals leave these
two bounds aside.
-/

namespace StagedSql.Query

def quotedLiteral (s : List Char) : List Char := '\'' :: Text.doubleQuotes s ++ ['\'']

mutual

def literalChars : Value → List Char
  | .null => "NULL".toList
  | .bool true => "true".toList
  | .bool false => "false".toList
  | .int i => Value.intChars i
  | .float x => Value.floatChars x
  | .text s => quotedLiteral s.toList
  | .list items => '(' :: literalItems items ++ [')']
  | .object fields => quotedLiteral (Value.shownChars (.object fields))

def literalItems : List Value → List Char
  | [] => []
  | [v] => literalChars v
  | v :: w :: rest => literalChars v ++ ", ".toList ++ literalItems (w :: rest)

end

/-- The text of a value as a literal, at any size. -/
def literal (v : Value) : String := String.ofList (literalChars v)

/-! ### Values without a literal -/

inductive LiteralProblem where
  | longWhole
  | tooDeep
  deriving DecidableEq, Repr

def wholeProblem? (i : Int) : Option LiteralProblem :=
  if Text.longestWhole < (Nat.toDigits 10 i.natAbs).length then some .longWhole else none

mutual

/-- Why a value cannot be shown inside an object, where each container with something in it takes one call
out of `room`. -/
def unshown? (room : Nat) : Value → Option LiteralProblem
  | .int i => wholeProblem? i
  | .list items => if items ≠ [] ∧ room = 0 then some .tooDeep else unshownItem? (room - 1) items
  | .object fields =>
    if fields ≠ [] ∧ room = 0 then some .tooDeep else unshownField? (room - 1) fields
  | .null | .bool _ | .float _ | .text _ => none

def unshownItem? (room : Nat) : List Value → Option LiteralProblem
  | [] => none
  | v :: rest => (unshown? room v).or (unshownItem? room rest)

def unshownField? (room : Nat) : List (String × Value) → Option LiteralProblem
  | [] => none
  | (_, v) :: rest => (unshown? room v).or (unshownField? room rest)

end

/-- The calls that are open at the same time for one list. -/
def callsPerList : Nat := 3

mutual

/-- Why a value has no literal, the first reason from left to right, where `room` more calls may be open. -/
def unwritten? (room : Nat) : Value → Option LiteralProblem
  | .int i => wholeProblem? i
  | .list items =>
    if room < callsPerList then some .tooDeep else unwrittenItem? (room - callsPerList) items
  | .object fields => unshown? room (.object fields)
  | .null | .bool _ | .float _ | .text _ => none

def unwrittenItem? (room : Nat) : List Value → Option LiteralProblem
  | [] => none
  | v :: rest => (unwritten? room v).or (unwrittenItem? room rest)

end

def render (room : Nat) (v : Value) : Except LiteralProblem String :=
  match unwritten? room v with
  | some p => .error p
  | none => .ok (literal v)

example : literal (.list [.int 1, .text "it's", .null]) = "(1, 'it''s', NULL)" := by decide +kernel
example : unwritten? 5 (.list [.int 1, .list []]) = some .tooDeep := by decide +kernel

end StagedSql.Query
