import StagedSql.Engine.Operations
import StagedSql.Query.Basic
import StagedSql.Session.Basic
import StagedSql.Stage.Completeness
import StagedSql.TableName

/-!
# Materializing stages

A stage is checked, given an input table and compiled before anything is sent. Its output is then
built under a staging name, read back and swapped in; the store changes only after that. A LOAD
stage sends nothing: the table it names is its output.
-/

namespace StagedSql

structure Materialization where
  stage : Stage
  table : Table
  /-- Whether the stage had an output before. -/
  remapped : Bool
  sql : Option String
  inputTable : Option String
  deriving DecidableEq, Repr

namespace Materialization

/-- The outcome as a record. No time passes in a session. -/
def toValue (m : Materialization) : Value :=
  .object [("stage", m.stage.toValue), ("table", m.table.toValue),
    ("mapping_updated", .bool m.remapped), ("sql", .ofOption .text m.sql),
    ("input_table", .ofOption .text m.inputTable), ("duration_ms", .int 0)]

/-! ### Planning -/

def ensureComplete (stage : Stage) : Except PipelineError Unit :=
  match stage.missingFields with
  | [] => .ok ()
  | missing => .error (.incomplete stage.id stage.kind missing)

/-- The place of a stage: its own if it is in the list, else the one after the last. -/
def position (store : Store) (stage : Stage) : Nat :=
  (store.stageIndex? stage.id).getD store.stages.length

def outputBefore? (store : Store) (position : Nat) : Option Table :=
  match position with
  | 0 => none
  | i + 1 => store.stages[i]?.bind fun previous => store.outputOf? previous.id

/-- The table under view: the one the caller names, else the active one, else the first one. -/
def viewedTable? (store : Store) (active : Option String) : Option Table :=
  ((active.bind store.tableAt?).or store.activeTable?).or store.firstTable?

/-- The name of the table that a stage at `position` reads if its payload is silent: the table it
names, the output before it or the table under view. -/
def inputFor (store : Store) (stage : Stage) (position : Nat) (active : Option String) :
    Except PipelineError (Option String) :=
  match stage.referencedTable? with
  | some name => .ok (some name)
  | none =>
    match (outputBefore? store position).or (viewedTable? store active) with
    | some table => .ok (some table.name)
    | none =>
      if stage.kind.readsDefault then .error (.resolution stage.id (.noInput stage.kind))
      else .ok none

def loadedTable (store : Store) (stage : Stage) : Except PipelineError Table :=
  let name := stage.entry "tableName"
  match name.givenText?.bind store.tableNamed? with
  | some table => .ok table
  | none => .error (.resolution stage.id (.notLoaded name))

def compiled (stage : Stage) (input : Option String) : Except PipelineError String :=
  (Query.compile stage input).mapError (.compile stage.id)

def plan (store : Store) (stage : Stage) (active : Option String) :
    Except PipelineError (String × Option String) := do
  let input ← inputFor store stage (position store stage) active
  return (← compiled stage input, input)

/-- The query that a stage would run and its input, without running it. -/
def preview (store : Store) (stage : Stage) (active : Option String) :
    Except PipelineError (String × Option String) := do
  ensureComplete stage
  if stage.kind = .load then
    let table ← loadedTable store stage
    return (← compiled stage (some table.name), some table.name)
  else plan store stage active

/-! ### Running -/

structure Output where
  columns : List Column
  rows : List Fields
  rowCount : Int
  deriving DecidableEq, Repr

/-- The views on the output of a stage: a join is also found under the names of its two tables. -/
def views (stage : Stage) (table : String) : List (String × String) :=
  if stage.kind = .join then
    [(TableName.joined (stage.entry "leftTable").display (stage.entry "rightTable").display,
      "SELECT * FROM " ++ table)]
  else []

open Engine (Work)

/-- Builds the output under the staging name, reads it back and puts it in place. -/
def build (stage : Stage) (table sql : String) (previewRows : Int) : Work Output := do
  let staging := TableName.staging table
  Work.createTableAs staging sql
  let columns ← Work.describe staging
  let preview ← Work.query (.preview staging previewRows)
  let rowCount ← Work.countRows staging
  Work.promote staging table (views stage table)
  return ⟨columns, preview.rows, rowCount⟩

/-- Builds the output; what is left of it after an error of the engine is dropped. -/
def run (stage : Stage) (table sql : String) (previewRows : Int) : Work Output :=
  tryCatch (build stage table sql previewRows) fun
    | .pipeline (.engine reason) => do
      Work.attempt (.dropTable (TableName.staging table))
      throw (.pipeline (.execution stage.id reason stage.description sql))
    | fault => throw fault

/-- The table whose id the output keeps: the one the stage had, else one of the same name that no
stage has. -/
def reusedTable? (store : Store) (stage : Stage) (table : String) : Option Table :=
  (store.outputOf? stage.id).or
    ((store.tableNamed? table).filter fun t => (store.stagesWithOutput t.id).isEmpty)

/-- Records the output of a stage; a table that the stage had under another name is dropped, unless
the name is in use again. -/
def recordOutput (stage : Stage) (position : Nat) (table : String) (output : Output) :
    Action (Bool × Table) := do
  let store ← Action.store
  let id ← match reusedTable? store stage table with
    | some t => pure t.id
    | none => Action.mintTableId
  let result : Table := {
    id, name := table, columns := output.columns, rows := output.rows
    rowCount := output.rowCount, stageId := some stage.id, source := Table.fromStage }
  let remapped ← Action.change fun s => s.commit stage result position
  match store.outputOf? stage.id with
  | some previous =>
    if previous.name ≠ table ∧ ((← Action.store).tableNamed? previous.name).isNone then
      Action.engine (Work.attempt (.dropTable previous.name))
  | none => pure ()
  return (remapped, result)

def recordLoad (stage : Stage) : Action Materialization := do
  let store ← Action.store
  let table ← Action.ofPipeline (loadedTable store stage)
  let remapped ← Action.change fun s => s.commit stage table (position store stage)
  return ⟨stage, table, remapped, none, some table.name⟩

end Materialization

open Materialization in
/-- Materializes a stage, one that is new or one that takes the place of the stage with its id. -/
def Action.execute (stage : Stage) (active : Option String) : Action Materialization := do
  Action.ofPipeline (ensureComplete stage)
  if stage.kind = .load then recordLoad stage
  else
    let s ← get
    let (sql, input) ← Action.ofPipeline (plan s.store stage active)
    let table := TableName.result (position s.store stage) stage.kind
    let output ← Action.engine (run stage table sql s.previewRows)
    let (remapped, result) ← recordOutput stage (position s.store stage) table output
    return ⟨stage, result, remapped, some sql, input⟩

end StagedSql
