import StagedSql.Json.Reader
import StagedSql.Query.Literal
import StagedSql.Query.Problem
import StagedSql.Value.Display

/-!
# Failures

What can go wrong, told apart by cause. A pipeline error is a failure that the pipeline itself
reports, with a category and a status for the web; the other faults come from malformed records, from
values of the wrong kind, from the engine or from the transport to the language model.
-/

namespace StagedSql

inductive DefinitionProblem where
  | tableName (given : Value)
  | column (given : Value)
  | noColumns
  | rowWidth (found expected : Nat)
  | row (given : Value)
  deriving DecidableEq, Repr

def DefinitionProblem.message : DefinitionProblem → String
  | tableName given => "Invalid table name " ++ given.shown
  | column given => "Invalid column definition " ++ given.shown
  | noColumns => "Table definition needs at least one column"
  | rowWidth found expected =>
    "Row has " ++ toString found ++ " values, expected " ++ toString expected
  | row given => "Invalid row " ++ given.shown

inductive ResolutionProblem where
  | noInput (kind : StageKind)
  | notLoaded (table : Value)
  deriving DecidableEq, Repr

def ResolutionProblem.message : ResolutionProblem → String
  | noInput kind =>
    "No input table available for " ++ kind.name ++ " stage; load a table first"
  | notLoaded table => "Loaded table '" ++ table.display ++ "' is not in the catalogue"

inductive SuggestionProblem where
  | emptyPrompt
  | callFailed (reason : String)
  | unusable (reason : String)
  deriving DecidableEq, Repr

def SuggestionProblem.message : SuggestionProblem → String
  | emptyPrompt => "Prompt is empty"
  | callFailed reason => "LLM call failed: " ++ reason
  | unusable reason => "LLM returned an invalid response: " ++ reason

/-! ### Errors of the pipeline -/

inductive PipelineError where
  | definition (problem : DefinitionProblem)
  | importMode (mode : Value)
  | incomplete (stageId : String) (kind : StageKind) (missing : List String)
  | compile (stageId : String) (problem : Query.Problem)
  | resolution (stageId : String) (problem : ResolutionProblem)
  | execution (stageId reason description sql : String)
  | engine (reason : String)
  | stageNotFound (id : Value)
  | tableNotFound (id : Value)
  | tableInUse (name : String) (users : List String)
  | suggestionUnavailable
  | suggestion (problem : SuggestionProblem)
  deriving DecidableEq, Repr

namespace PipelineError

def message : PipelineError → String
  | definition problem => problem.message
  | importMode mode => "Unknown import mode '" ++ mode.display ++ "'"
  | incomplete _ kind missing =>
    kind.name ++ " stage is incomplete: missing " ++ String.intercalate ", " missing
  | compile _ problem => problem.message
  | resolution _ problem => problem.message
  | execution stageId reason description _ =>
    (if description = "" then "Stage " ++ stageId ++ " failed"
     else "Stage '" ++ description ++ "' failed") ++ ": " ++ reason
  | engine reason => reason
  | stageNotFound id => "Stage '" ++ id.display ++ "' not found"
  | tableNotFound id => "Table '" ++ id.display ++ "' not found"
  | tableInUse name users =>
    "Table '" ++ name ++ "' is the output of stage(s) " ++ Value.shownTexts users
  | suggestionUnavailable => "LLM suggestions are disabled or not configured"
  | suggestion problem => problem.message

def category : PipelineError → String
  | definition _ | importMode _ => "error"
  | incomplete .. => "validation"
  | compile .. => "compile"
  | resolution .. => "resolution"
  | execution .. => "execution"
  | engine _ => "engine"
  | stageNotFound _ | tableNotFound _ => "not_found"
  | tableInUse .. => "conflict"
  | suggestionUnavailable => "suggestion_unavailable"
  | suggestion _ => "suggestion"

def status : PipelineError → Nat
  | incomplete .. | compile .. => 422
  | resolution .. | tableInUse .. => 409
  | stageNotFound _ | tableNotFound _ => 404
  | suggestionUnavailable => 503
  | suggestion _ => 502
  | definition _ | importMode _ | execution .. | engine _ => 400

/-- The id of the stage that the error is about, null if it is about none. -/
def stageId : PipelineError → Value
  | incomplete id .. | compile id _ | resolution id _ | execution id .. => .text id
  | stageNotFound id => id
  | _ => .null

def toValue (e : PipelineError) : Value :=
  let base := [("detail", .text e.message), ("error", .text e.category), ("stage_id", e.stageId)]
  match e with
  | incomplete _ _ missing => .object (base ++ [("missing", .list (missing.map .text))])
  | _ => .object base

end PipelineError

/-! ### All faults -/

/-- A value that is well formed and still cannot be used. -/
inductive ValueProblem where
  | notStageKind (given : Value)
  | negativeIndex (given : Value)
  | notWhole (given : String)
  | longWhole (digits : Nat)
  | unwrittenWhole
  | notFraction (given : String)
  | wholeOfNaN
  | notAnObject
  | notFinite
  | notAbsolute (url : String)
  | other (reason : String)
  deriving DecidableEq, Repr

def ValueProblem.message : ValueProblem → String
  | notStageKind given => given.shown ++ " is not a valid StageType"
  | negativeIndex given => "stage_index must be >= 0, got " ++ given.display
  | notWhole given =>
    "invalid literal for int() with base 10: " ++
      String.ofList ((Text.quotedChars given.toList).take 200)
  | longWhole digits =>
    "Exceeds the limit (4300 digits) for integer string conversion: value has " ++
      toString digits ++ " digits; use sys.set_int_max_str_digits() to increase the limit"
  | unwrittenWhole =>
    "Exceeds the limit (4300 digits) for integer string conversion; " ++
      "use sys.set_int_max_str_digits() to increase the limit"
  | notFraction given => "could not convert string to float: " ++ Text.quoted given
  | wholeOfNaN => "cannot convert float NaN to integer"
  | notAnObject => "LLM response is not a JSON object"
  | notFinite => "Out of range float values are not JSON compliant"
  | notAbsolute url => "unknown url type: " ++ Text.quoted url
  | other reason => reason

inductive Fault where
  /-- A failure that the pipeline reports. -/
  | pipeline (e : PipelineError)
  /-- A record with problems. -/
  | report (r : Record.Report)
  | value (p : ValueProblem)
  /-- A setting outside its range. -/
  | setting (reason : String)
  /-- A text that is no JSON. -/
  | syntaxError
  /-- Too many containers inside one another. -/
  | tooDeep
  /-- A value of a kind that the operation has no meaning for. -/
  | wrongKind
  | missingKey (key : Value)
  | missingItem (reason : String)
  /-- A value without the operation asked of it. -/
  | missingOperation
  /-- A whole number asked of an infinity. -/
  | overflow
  /-- An engine failure that nobody has taken charge of. -/
  | engineFailure (reason : String)
  /-- A text that is no address. -/
  | malformedUrl
  /-- A text with characters that its place in a request cannot hold. -/
  | notEncodable
  /-- Bytes that are no text. -/
  | notDecodable
  /-- A web answer other than success. -/
  | webStatus (status : Int)
  | unreachable (reason : String)
  | timedOut (reason : String)
  deriving DecidableEq, Repr

namespace Fault

/-- The fault as a sentence of another message mentions it. -/
def message : Fault → String
  | pipeline e => e.message
  | report r => r.text
  | value p => p.message
  | setting reason => reason
  | syntaxError => "<json error>"
  | missingKey key => key.shown
  | missingItem reason => reason
  | webStatus status => "status " ++ toString status
  | engineFailure reason | unreachable reason | timedOut reason => reason
  | tooDeep => "maximum recursion depth exceeded"
  | malformedUrl => "malformed address"
  | notEncodable => "text cannot be encoded"
  | notDecodable => "text cannot be decoded"
  | wrongKind => "wrong kind of value"
  | missingOperation => "operation not offered"
  | overflow => "cannot convert float infinity to integer"

def ofJson : Json.Error → Fault
  | .malformed => syntaxError
  | .longNumber digits => value (.longWhole digits)
  | .tooDeep => tooDeep

def ofLiteral : Query.LiteralProblem → Fault
  | .longWhole => value .unwrittenWhole
  | .tooDeep => tooDeep

/-- The faults that mean that a call to the language model went wrong and may be tried again. -/
def isCallFailure : Fault → Bool
  | webStatus _ | unreachable _ | timedOut _ | missingKey _ | missingItem _ | value _ | syntaxError
  | notEncodable | notDecodable | report _ => true
  | _ => false

/-- A value in which every number is finite; a body cannot hold any other one. -/
def unlessFinite (v : Value) : Except Fault Value :=
  if v.interchange = v then .ok v else .error (.value .notFinite)

end Fault

end StagedSql
