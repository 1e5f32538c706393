import StagedSql.Session.Import
import StagedSql.Session.Source
import StagedSql.Suggestion.Prompt
import StagedSql.Suggestion.Reply
import StagedSql.Suggestion.Schema

/-!
# Suggesting stages

A goal in plain words goes to the language model together with the catalogue. The tables that the
reply defines are created at once; its stages are screened like any other candidates and run only if
the caller wants them applied.
-/

namespace StagedSql

structure SuggestionReport where
  suggestion : Suggestion
  accepted : List Stage
  dropped : List Flow.Dropped
  created : List Table
  applied : Option ImportReport
  deriving DecidableEq, Repr

namespace SuggestionReport

/-- The report as a record, with `importFields` for the record of an import. -/
def toFields (importFields : ImportReport → Fields) (r : SuggestionReport) : Fields :=
  [("sql", .ofOption .text r.suggestion.sql),
    ("explanation", .ofOption .text r.suggestion.explanation),
    ("chart", .ofOption Chart.toValue r.suggestion.chart),
    ("accepted", .list (r.accepted.map Stage.toValue)),
    ("dropped", .list (r.dropped.map Flow.Dropped.toValue)),
    ("tables_created", .list (r.created.map Table.toValue)),
    ("applied", .ofOption (fun a => .object (importFields a)) r.applied)]

end SuggestionReport

def Store.suggestionPrompt (s : Store) (goal : String) : List Chat.Message :=
  Suggestion.prompt (Text.stripped goal)
    (Suggestion.schemaText (some Suggestion.schemaLength) (some Suggestion.schemaColumns)
      s.tables.values)

namespace Suggestion

private def refusal (p : SuggestionProblem) : Fault := .pipeline (.suggestion p)

/-- The reply that a call has given; a call that went wrong is reported. -/
def replyOf : Except Fault Value → Except Fault Value
  | .ok v => .ok v
  | .error f =>
    if f.isCallFailure then .error (refusal (.callFailed f.message)) else .error f

/-- The suggestion in a reply. A text without a JSON object is reported, unless it is nested too
deeply to tell. -/
def ofReply : Value → Except Fault Suggestion
  | .text reply =>
    match objectOfReply reply with
    | .ok fields => .ok (ofFields fields)
    | .error .tooDeep => .error .tooDeep
    | .error f => .error (refusal (.unusable f.message))
  | _ => .error .missingOperation

end Suggestion

namespace Action

/-- Creates the tables of a suggestion, passing over the definitions that the pipeline refuses. -/
def createTables : List Fields → Action (List Table)
  | [] => return []
  | definition :: rest => do
    match ← orPipelineError (createTable (.object definition)) with
    | .ok table => return table :: (← createTables rest)
    | .error _ => createTables rest

/-- Asks the language model through `call` for stages that reach the goal. -/
def suggest (call : List Chat.Message → Except Fault Value) (goal : String) (apply : Bool) :
    Action SuggestionReport := do
  if !(← get).chatEnabled then fail .suggestionUnavailable
  if Text.stripped goal = "" then fail (.suggestion .emptyPrompt)
  let reply ← ofExcept (Suggestion.replyOf (call ((← store).suggestionPrompt goal)))
  let suggestion ← ofExcept (Suggestion.ofReply reply)
  let created ← createTables suggestion.tables
  let screening ← screened false suggestion.stages
  let report : SuggestionReport :=
    ⟨suggestion, screening.accepted, screening.dropped, created, none⟩
  if apply ∧ screening.accepted ≠ [] then
    let items := screening.accepted.map fun s => s.toValue.interchange
    return { report with applied := some (← importFlow .append true items) }
  else return report

/-- Asks for stages that reach a goal given as a value. What is not given is the empty goal; only a
text can be a goal otherwise. -/
def suggestFor (call : List Chat.Message → Except Fault Value) (goal : Value) (apply : Bool) :
    Action SuggestionReport := do
  match goal with
  | .text goal => suggest call goal apply
  | v =>
    if (← get).chatEnabled ∧ v.isGiven then throw .missingOperation
    else suggest call "" apply

end Action

end StagedSql
