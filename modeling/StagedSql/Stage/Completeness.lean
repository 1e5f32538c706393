import StagedSql.Stage.Basic

/-!
# Complete stages

The fields that a stage needs before it can be compiled, and which of them its payload lacks.
-/

namespace StagedSql.Stage

def isText (v : Value) : Bool := v.givenText?.isSome

def isFilledList : Value → Bool
  | .list (_ :: _) => true
  | _ => false

/-- A text with a character that is not blank. -/
def isStatement : Value → Bool
  | .text s => !(Text.trim s.toList).isEmpty
  | _ => false

/-- Null and the empty text are no values to compare with; zero and false are. -/
def isComparable (v : Value) : Bool := v ≠ .null && v ≠ .text ""

/-- The required fields of a kind, each with the test that its value has to pass. -/
def requirements : StageKind → List (String × (Value → Bool))
  | .load | .aggregate => []
  | .join => [("leftTable", isText), ("rightTable", isText), ("leftKey", isText),
      ("rightKey", isText)]
  | .union => [("tables", isFilledList)]
  | .filter => [("table", isText), ("column", isText), ("operator", isText),
      ("value", isComparable)]
  | .group => [("groupBy", isFilledList)]
  | .select => [("columns", isFilledList)]
  | .sort => [("orderBy", isFilledList)]
  | .custom => [("sql", isStatement)]

/-- The names of the required fields that are absent or empty, in the order of the requirements. -/
def missingFields (s : Stage) : List String :=
  ((requirements s.kind).filter fun r => !r.2 (s.entry r.1)).map (·.1)

def isComplete (s : Stage) : Bool := s.missingFields.isEmpty

theorem mem_missingFields {s : Stage} {f : String} :
    f ∈ s.missingFields ↔ ∃ p, (f, p) ∈ requirements s.kind ∧ p (s.entry f) = false := by
  simp only [missingFields, List.mem_map, List.mem_filter, Bool.not_eq_true', Prod.exists,
    exists_eq_right, exists_and_right]

end StagedSql.Stage
