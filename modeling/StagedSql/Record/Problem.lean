import StagedSql.Text.Basic

/-!
# What is wrong with a record

A record read from a value reports all its problems at once, each with the path to it. The report's
text names the record and lists the problems in the order of the declared fields.
-/

namespace StagedSql.Record

/-- One step on the way to a part of a value: a field or branch by name, or an item by position. -/
inductive Step where
  | name (s : String)
  | index (i : Nat)
  deriving DecidableEq, Repr

def Step.text : Step → String
  | .name s => s
  | .index i => toString i

inductive Complaint where
  | missing
  | notText
  | notList
  | notObject
  | notRecord (record : String)
  | notBody
  | notChoice (choices : List String)
  | notLiteral (choices : List String)
  | unreadableWhole
  | longWhole
  | notWhole
  | fraction
  | notFinite
  | unreadableTruth
  | notTruth
  | emptyText
  | notFile
  deriving DecidableEq, Repr

/-- Choices in quotes, the last one joined by "or". -/
def choiceText (choices : List String) : String :=
  let marked := choices.map fun c => "'" ++ c ++ "'"
  match marked.reverse with
  | [] => ""
  | [only] => only
  | last :: before => String.intercalate ", " before.reverse ++ " or " ++ last

def Complaint.message : Complaint → String
  | .missing => "Field required"
  | .notText => "Input should be a valid string"
  | .notList => "Input should be a valid list"
  | .notObject => "Input should be a valid dictionary"
  | .notRecord record => "Input should be a valid dictionary or instance of " ++ record
  | .notBody => "Input should be a valid dictionary or object to extract fields from"
  | .notChoice choices | .notLiteral choices => "Input should be " ++ choiceText choices
  | .unreadableWhole => "Input should be a valid integer, unable to parse string as an integer"
  | .longWhole => "Unable to parse input string as an integer, exceeded maximum size"
  | .notWhole => "Input should be a valid integer"
  | .fraction => "Input should be a valid integer, got a number with a fractional part"
  | .notFinite => "Input should be a finite number"
  | .unreadableTruth => "Input should be a valid boolean, unable to interpret input"
  | .notTruth => "Input should be a valid boolean"
  | .emptyText => "String should have at least 1 character"
  | .notFile => "Value error, Expected UploadFile, received: <class 'str'>"

def Complaint.code : Complaint → String
  | .missing => "missing"
  | .notText => "string_type"
  | .notList => "list_type"
  | .notObject => "dict_type"
  | .notRecord _ => "model_type"
  | .notBody => "model_attributes_type"
  | .notChoice _ => "enum"
  | .notLiteral _ => "literal_error"
  | .unreadableWhole => "int_parsing"
  | .longWhole => "int_parsing_size"
  | .notWhole => "int_type"
  | .fraction => "int_from_float"
  | .notFinite => "finite_number"
  | .unreadableTruth => "bool_parsing"
  | .notTruth => "bool_type"
  | .emptyText => "string_too_short"
  | .notFile => "value_error"

structure Problem where
  path : List Step
  complaint : Complaint
  deriving DecidableEq, Repr

namespace Problem

/-- The problem seen from one step further out. -/
def under (step : Step) (p : Problem) : Problem := { p with path := step :: p.path }

def text (p : Problem) : String :=
  String.intercalate "." (p.path.map Step.text) ++ "\n  " ++ p.complaint.message ++
    " [type=" ++ p.complaint.code ++ "]"

end Problem

structure Report where
  record : String
  problems : List Problem
  deriving DecidableEq, Repr

/-- The number of problems and the name of the record, then two lines for each problem. -/
def Report.text (r : Report) : String :=
  let count := r.problems.length
  let heading := toString count ++
    (if count = 1 then " validation error for " else " validation errors for ") ++ r.record
  String.intercalate "\n" (heading :: r.problems.map Problem.text)

end StagedSql.Record
