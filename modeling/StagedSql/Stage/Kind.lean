import StagedSql.Text.Case
import StagedSql.Text.Blank

/-!
# Kinds of stages

A stage does one of nine things. Its kind has a name, by which payloads and messages refer to it.
-/

namespace StagedSql

inductive StageKind where
  | load
  | join
  | union
  | filter
  | group
  | select
  | sort
  | aggregate
  | custom
  deriving DecidableEq, Repr, Inhabited

namespace StageKind

def all : List StageKind := [load, join, union, filter, group, select, sort, aggregate, custom]

def name : StageKind → String
  | load => "LOAD"
  | join => "JOIN"
  | union => "UNION"
  | filter => "FILTER"
  | group => "GROUP"
  | select => "SELECT"
  | sort => "SORT"
  | aggregate => "AGGREGATE"
  | custom => "CUSTOM"

def ofName? (s : String) : Option StageKind := all.find? fun k => k.name = s

/-- The kind that a text names in letters of either case, with blanks around it or not. -/
def ofLooseName? (s : String) : Option StageKind := ofName? (Text.upper (Text.stripped s))

/-- The kinds that read one table and take the input resolved for them if they name none. -/
def readsDefault : StageKind → Bool
  | filter | group | select | sort | aggregate => true
  | _ => false

theorem mem_all (k : StageKind) : k ∈ all := by
  cases k <;> decide

theorem ofName?_name (k : StageKind) : ofName? k.name = some k := by
  cases k <;> decide

theorem name_of_ofName? {s : String} {k : StageKind} (h : ofName? s = some k) : k.name = s := by
  have hp := List.find?_some h
  exact of_decide_eq_true hp

end StageKind

end StagedSql
