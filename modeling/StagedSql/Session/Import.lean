import StagedSql.Flow.Candidate
import StagedSql.Session.Edit

/-!
# Importing flows

A flow is a list of candidate stages. Those that pass screening run in order until one fails. When
the flow replaces the pipeline, a failure puts the earlier stages back; when it is appended, the
stages before the failure stay. Events tell how far the import has come.
-/

namespace StagedSql

inductive ImportMode where
  | replace
  | append
  deriving DecidableEq, Repr

namespace ImportMode

def name : ImportMode → String
  | replace => "replace"
  | append => "append"

def ofValue? : Value → Option ImportMode
  | .text s => if s = "replace" then some replace else if s = "append" then some append else none
  | _ => none

end ImportMode

structure ImportReport where
  mode : ImportMode
  results : List Materialization
  dropped : List Flow.Dropped
  forwardReferences : List (String × String)
  /-- The stage that failed with its error. -/
  failure : Option (String × PipelineError)
  deriving DecidableEq, Repr

namespace ImportReport

def succeeded (r : ImportReport) : Bool := r.failure.isNone

def toFields (r : ImportReport) : Fields :=
  let (stage, error) := match r.failure with
    | some (id, e) => (Value.text id, e.toValue)
    | none => (.null, .null)
  [("mode", .text r.mode.name), ("results", .list (r.results.map Materialization.toValue)),
    ("dropped", .list (r.dropped.map Flow.Dropped.toValue)),
    ("forward_references",
      .list (r.forwardReferences.map fun p => .list [.text p.1, .text p.2])),
    ("failed_stage_id", stage), ("error", error)]

end ImportReport

namespace Flow.Event

/-! ### Events of an import -/

def started (candidates : Nat) : Event :=
  ⟨"started", 0, some ("Importing " ++ toString candidates ++ " stage(s)"), none, none⟩

def dropped (d : Dropped) : Event := ⟨"dropped", 0, some d.reason.message, some d.toFields, none⟩

/-- The progress when `done` of `total` stages are done, in percent. -/
def percent (done total : Nat) : Nat := done * 100 / total

def materializing (progress : Nat) (s : Stage) : Event :=
  ⟨"materializing", progress, some (if s.description = "" then s.kind.name else s.description),
    some [("stage_id", .text s.id)], none⟩

def materialized (progress : Nat) (m : Materialization) : Event :=
  ⟨"materialized", progress, none,
    some [("stage_id", .text m.stage.id), ("table", .text m.table.name),
      ("row_count", .int m.table.rowCount)], none⟩

def failed (progress : Nat) (s : Stage) (e : PipelineError) : Event :=
  ⟨"failed", progress, none, some [("stage_id", .text s.id)], some e.message⟩

def completed : Event := ⟨"completed", 100, some "Flow imported", none, none⟩

end Flow.Event

namespace Action

open StagedSql.Flow (Event)

/-- The stage that an error is about: the one it names, else the one that ran. -/
def failedStage (stage : Stage) (e : PipelineError) : String := e.stageId.givenText?.getD stage.id

/-- The outcome of an action of which only errors of the pipeline are taken charge of. -/
def orPipelineError (action : Action α) : Action (Except PipelineError α) :=
  tryCatch (Except.ok <$> action) fun
    | .pipeline e => return .error e
    | fault => throw fault

/-- Runs stages in order, the first of them as number `i` of `total`, until one fails. A failure
puts back the stages of `before`, if there is such a store. -/
def runStages (total : Nat) (before : Option Store) (report : ImportReport) (i : Nat) :
    List Stage → Action ImportReport
  | [] => do
    emit .completed
    return report
  | stage :: rest => do
    emit (.materializing (Event.percent i total) stage)
    match ← orPipelineError (addStage stage none) with
    | .error e =>
      if let some earlier := before then change fun s => ((), s.restoreStages earlier)
      emit (.failed (Event.percent i total) stage e)
      return { report with failure := some (failedStage stage e, e) }
    | .ok result =>
      emit (.materialized (Event.percent (i + 1) total) result)
      runStages total before { report with results := report.results ++ [result] } (i + 1) rest

def screened (keepIds : Bool) (candidates : List Value) : Action Flow.Screening := fun s =>
  let screening := Flow.screen keepIds 0 s.stagesMinted candidates
  .ok screening { s with stagesMinted := screening.minted }

def importFlow (mode : ImportMode) (keepIds : Bool) (candidates : List Value) :
    Action ImportReport := do
  emit (.started candidates.length)
  let screening ← screened keepIds candidates
  screening.dropped.forM fun d => emit (.dropped d)
  let stages := screening.accepted
  let earlier ← store
  let existing := if mode = .replace then [] else earlier.stages
  let forward ← ofExcept (Graph.forwardReferences (existing ++ stages))
  if mode = .replace then
    let _ ← change fun s => s.resetStages
  let before := if mode = .replace then some earlier else none
  runStages (max 1 stages.length) before ⟨mode, [], screening.dropped, forward, none⟩ 0 stages

/-- Imports a flow given as a value with a mode given as one. The mode is looked at first. -/
def importAs (mode : Value) (keepIds : Bool) (flow : Value) : Action ImportReport :=
  match ImportMode.ofValue? mode, flow.elements? with
  | some mode, some candidates => importFlow mode keepIds candidates
  | some _, none => throw .wrongKind
  | none, _ => fail (.importMode mode)

def runAll : Action ImportReport := do
  importFlow .replace true ((← store).stages.map fun s => s.toValue.interchange)

end Action

end StagedSql
