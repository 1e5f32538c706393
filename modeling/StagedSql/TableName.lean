import StagedSql.Fault
import StagedSql.Text.Digit

/-!
# Names of tables

Results are named by the position and the kind of their stage, so a stage that has not moved writes
to the same table again. Source tables are named by their file.
-/

namespace StagedSql

/-! ### Identifiers -/

namespace Identifier

def isStart (c : Char) : Bool := ('A' ≤ c && c ≤ 'Z') || ('a' ≤ c && c ≤ 'z') || c = '_'

def isPart (c : Char) : Bool := isStart c || Text.isAsciiDigit c

/-- The text without one line feed at its end. -/
def withoutLineEnd (s : List Char) : List Char :=
  if s.getLast? = some '\n' then s.dropLast else s

/-- A letter or an underscore, then letters, digits and underscores; one line feed at the end is
passed over. -/
def isSafe (s : String) : Bool :=
  match s.toList with
  | [] => false
  | c :: rest => isStart c && (withoutLineEnd rest).all isPart

/-- Each run of underscores becomes one; `after` tells whether one has just been kept. -/
def joinUnderscores (after : Bool) : List Char → List Char
  | [] => []
  | c :: rest =>
    if c = '_' then if after then joinUnderscores true rest else '_' :: joinUnderscores true rest
    else c :: joinUnderscores false rest

def isNameChar (c : Char) : Bool := ('a' ≤ c && c ≤ 'z') || Text.isAsciiDigit c || c = '_'

/-- The text in lower case with one underscore for every run of other characters, and none at its
ends. -/
def sanitize (s : List Char) : List Char :=
  let cleaned := (Text.lowerChars s).map fun c => if isNameChar c then c else '_'
  Text.dropTrailing (· = '_') ((joinUnderscores false cleaned).dropWhile (· = '_'))

end Identifier

/-! ### Files -/

namespace FileName

/-- The parts of a path between its slashes, without the empty ones and those that are one point. -/
def parts (path : List Char) : List (List Char) :=
  (path.splitOn '/').filter fun p => p ≠ [] && p ≠ ['.']

def base (path : List Char) : List Char := ((parts path).getLast?).getD []

/-- The name before and from its last point on. A point at either end of the name does not count. -/
def split (name : List Char) : List Char × List Char :=
  let tail := (name.reverse.takeWhile (· ≠ '.')).reverse
  let stem := name.take (name.length - tail.length - 1)
  if tail = [] ∨ stem = [] ∨ tail.length = name.length then (name, [])
  else (stem, '.' :: tail)

end FileName

/-! ### Tables -/

namespace TableName

def result (i : Nat) (kind : StageKind) : String :=
  "result_stage_" ++ toString i ++ "_" ++ Text.lower kind.name

/-- The name that `result` gives, for a position and a kind given as values. -/
def resultOf (index kind : Value) : Except Fault String :=
  let name := "result_stage_" ++ index.display ++ "_" ++ Text.lower kind.display
  match index with
  | .int i => if i < 0 then .error (.value (.negativeIndex index)) else .ok name
  | .bool _ => .ok name
  | .float (.infinite true) => .error (.value (.negativeIndex index))
  | .float (.finite true m _) =>
    if m = 0 then .ok name else .error (.value (.negativeIndex index))
  | .float _ => .ok name
  | _ => .error .wrongKind

/-- The table under which later stages find the output of a join. -/
def joined (left right : String) : String := "joined_" ++ left ++ "_" ++ right

/-- The name under which a result is built before it replaces `table`. -/
def staging (table : String) : String := table ++ "__staging"

def ofFile (file : String) : String :=
  let (stem, suffix) := FileName.split (FileName.base file.toList)
  let stem := Identifier.sanitize stem
  let stem := if stem = [] then "data".toList else stem
  let suffix := Identifier.sanitize (suffix.dropWhile (· = '.'))
  String.ofList ("table_".toList ++ stem ++ (if suffix = [] then [] else '_' :: suffix))

example : result 3 .aggregate = "result_stage_3_aggregate" := by decide +kernel
example : ofFile "Q1 Sales-2024.CSV" = "table_q1_sales_2024_csv" := by decide +kernel
example : ofFile "..csv" = "table_data_csv" := by decide +kernel

end TableName

end StagedSql
