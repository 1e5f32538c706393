import StagedSql.Session.Materialize
import StagedSql.Table.Definition

/-!
# Source tables

Tables that come from a file or from a definition. A file also gets a LOAD stage, so that the flow
knows where its data come from.
-/

namespace StagedSql.Action

open Engine (Work)

/-- Puts a table of the engine into the catalogue and makes it the active one. -/
def registerTable (name source : String) : Action Table := do
  let columns ← engine (Work.describe name)
  let preview ← engine (Work.query (.preview name (← get).previewRows))
  let id ← mintTableId
  let rowCount ← engine (Work.countRows name)
  let table : Table :=
    { id, name, columns, rows := preview.rows, rowCount, stageId := none, source }
  change fun s => s.register table true

def loadStage (id table file : String) : Stage where
  id
  kind := .load
  description := "Load " ++ file
  data := [("tableName", .text table), ("fileName", .text file)]

def loadCsv (file content : String) : Action (Table × Materialization) := do
  let name := TableName.ofFile file
  engine (Work.importCsv name (.upload content))
  let table ← registerTable name Table.fromUpload
  let id ← mintStageId
  let materialization ← execute (loadStage id name file) none
  return (table, materialization)

def createTable (definition : Value) : Action Table := do
  let d ← ofExcept (TableDefinition.read definition)
  engine (Work.createTable d.name d.columns d.rows)
  registerTable d.name Table.fromDefinition

/-- Takes a table out of the catalogue and drops it in the engine, if the engine can. -/
def deleteTable (id : String) : Action Table := do
  let table ← changeIf fun s => s.removeTable id
  engine (Work.attempt (.dropTable table.name))
  return table

end StagedSql.Action
