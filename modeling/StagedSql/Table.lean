import StagedSql.Record.Reader

/-!
# Catalogue tables

An entry for a table that lives in the engine. The name is the identifier in statements; the rows
are a bounded preview of what the engine holds.
-/

namespace StagedSql

structure Column where
  name : String
  type : String
  deriving DecidableEq, Repr, Inhabited

structure Table where
  id : String
  name : String
  columns : List Column
  rows : List Fields
  rowCount : Int
  stageId : Option String
  source : String
  deriving DecidableEq, Repr, Inhabited

def Table.fromStage : String := "stage"

def Table.fromUpload : String := "upload"

def Table.fromDefinition : String := "definition"

open Record

def Column.read (fields : Fields) : Checked Column :=
  Column.mk <$> required text "name" fields <*> required text "type" fields

def Column.toValue (c : Column) : Value :=
  .object [("name", .text c.name), ("type", .text c.type)]

namespace Table

def columnRecord : String := "ColumnSchema"

def mintedId (n : Nat) : String := "table_" ++ Text.zeroPadded 12 n

def read (fields : Fields) : Checked Table :=
  Table.mk <$> required text "id" fields <*> required text "name" fields
    <*> defaulted (list (nested columnRecord Column.read)) [] "columns" fields
    <*> defaulted (list object) [] "rows" fields
    <*> defaulted whole 0 "row_count" fields
    <*> optional text "stage_id" fields
    <*> defaulted text fromStage "source" fields

def summary (t : Table) : Fields :=
  [("id", .text t.id), ("name", .text t.name), ("columns", .list (t.columns.map Column.toValue)),
    ("row_count", .int t.rowCount), ("stage_id", .ofOption .text t.stageId), ("source", .text t.source)]

def toValue (t : Table) : Value :=
  .object (t.summary ++ [("rows", .list (t.rows.map .object))])

end Table

end StagedSql
