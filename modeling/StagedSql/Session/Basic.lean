import StagedSql.Engine.Connection
import StagedSql.Flow.Event
import StagedSql.Store.Basic

/-!
# Sessions

A session has one connection to the engine, one store, the counts from which ids are minted and the
events reported so far. An action on a session may fail; what it has done before stays done.
-/

namespace StagedSql

structure Session where
  connection : Engine.Connection
  store : Store
  /-- How many stage ids have been minted. -/
  stagesMinted : Nat
  /-- How many table ids have been minted. -/
  tablesMinted : Nat
  /-- The bound on the rows of a preview. -/
  previewRows : Int
  /-- Whether the language model may be asked. -/
  chatEnabled : Bool
  events : List Flow.Event

namespace Session

def opened (responder : Engine.Responder) (previewRows : Int) (chatEnabled : Bool) : Session where
  connection := .opened responder
  store := Store.empty
  stagesMinted := 0
  tablesMinted := 0
  previewRows
  chatEnabled
  events := []

end Session

abbrev Action := EStateM Fault Session

namespace Action

def fail (e : PipelineError) : Action α := throw (.pipeline e)

def ofExcept : Except Fault α → Action α
  | .ok a => return a
  | .error f => throw f

/-- The outcome of a step that only the pipeline can refuse. -/
def ofPipeline : Except PipelineError α → Action α
  | .ok a => return a
  | .error e => fail e

def store : Action Store := return (← get).store

def engine (work : Engine.Work α) : Action α := fun s =>
  match work s.connection with
  | .ok a connection => .ok a { s with connection }
  | .error f connection => .error f { s with connection }

def change (f : Store → α × Store) : Action α := fun s =>
  let (a, store) := f s.store
  .ok a { s with store }

def changeIf (f : Store → Except PipelineError (α × Store)) : Action α := fun s =>
  match f s.store with
  | .ok (a, store) => .ok a { s with store }
  | .error e => .error (.pipeline e) s

def mintStageId : Action String := fun s =>
  let n := s.stagesMinted + 1
  .ok (Stage.mintedId n) { s with stagesMinted := n }

def mintTableId : Action String := fun s =>
  let n := s.tablesMinted + 1
  .ok (Table.mintedId n) { s with tablesMinted := n }

def emit (e : Flow.Event) : Action Unit := fun s => .ok () { s with events := s.events ++ [e] }

end Action

end StagedSql
