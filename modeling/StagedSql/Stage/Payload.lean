import StagedSql.Stage.Basic

/-!
# Typed payloads

Each kind of stage has a record of the fields that it knows. All of them may be absent or null;
fields that the record does not declare are kept beside it.
-/

namespace StagedSql

structure LoadPayload where
  tableName : Option String
  fileName : Option String
  deriving DecidableEq, Repr

structure JoinPayload where
  joinType : Option String
  leftTable : Option String
  rightTable : Option String
  leftKey : Option String
  rightKey : Option String
  deriving DecidableEq, Repr

structure UnionPayload where
  unionType : Option String
  tables : Option (List String)
  deriving DecidableEq, Repr

structure ConditionEntry where
  column : Option String
  operator : Option String
  value : Value
  logic : Option String
  extras : Fields
  deriving DecidableEq, Repr

structure FilterPayload where
  table : Option String
  column : Option String
  operator : Option String
  value : Value
  conditions : Option (List ConditionEntry)
  deriving DecidableEq, Repr

structure AggregationEntry where
  function : Option String
  column : Option String
  label : Option String
  extras : Fields
  deriving DecidableEq, Repr

structure GroupPayload where
  table : Option String
  groupBy : Option (List String)
  aggregations : Option (List AggregationEntry)
  deriving DecidableEq, Repr

structure SelectPayload where
  table : Option String
  columns : Option (List String)
  deriving DecidableEq, Repr

/-- An entry of an ordering: a record, or a column by name alone. -/
inductive OrderEntry where
  | record (column direction : Option String) (extras : Fields)
  | column (name : String)
  deriving DecidableEq, Repr

structure SortPayload where
  table : Option String
  orderBy : Option (List OrderEntry)
  deriving DecidableEq, Repr

structure AggregatePayload where
  table : Option String
  aggregations : Option (List AggregationEntry)
  deriving DecidableEq, Repr

structure CustomPayload where
  sql : Option String
  deriving DecidableEq, Repr

inductive Payload where
  | load (p : LoadPayload)
  | join (p : JoinPayload)
  | union (p : UnionPayload)
  | filter (p : FilterPayload)
  | group (p : GroupPayload)
  | select (p : SelectPayload)
  | sort (p : SortPayload)
  | aggregate (p : AggregatePayload)
  | custom (p : CustomPayload)
  deriving DecidableEq, Repr

namespace Payload

open Record

/-! ### Reading -/

private def textField (key : String) (fields : Fields) : Checked (Option String) :=
  optional text key fields

private def textsField (key : String) (fields : Fields) : Checked (Option (List String)) :=
  optional (list text) key fields

def readCondition (fields : Fields) : Checked ConditionEntry :=
  ConditionEntry.mk <$> textField "column" fields <*> textField "operator" fields
    <*> defaulted any .null "value" fields <*> textField "logic" fields
    <*> .good (extras ["column", "operator", "value", "logic"] fields)

def readAggregation (fields : Fields) : Checked AggregationEntry :=
  AggregationEntry.mk <$> textField "function" fields <*> textField "column" fields
    <*> textField "alias" fields <*> .good (extras ["function", "column", "alias"] fields)

def readOrderRecord (fields : Fields) : Checked OrderEntry :=
  OrderEntry.record <$> textField "column" fields <*> textField "direction" fields
    <*> .good (extras ["column", "direction"] fields)

/-- An entry of an ordering; one that is neither of the two forms has the problems of both. -/
def readOrder : Value → Checked OrderEntry
  | .text s => .good (.column s)
  | v =>
    match nested "OrderSpec" readOrderRecord v with
    | .good e => .good e
    | .bad ps =>
      .bad (ps.map (Problem.under (.name "OrderSpec")) ++ [⟨[.name "str"], .notText⟩])

private def aggregationsField (fields : Fields) : Checked (Option (List AggregationEntry)) :=
  optional (list (nested "Aggregation" readAggregation)) "aggregations" fields

def read (kind : StageKind) (fields : Fields) : Checked Payload :=
  match kind with
  | .load => load <$> (LoadPayload.mk <$> textField "tableName" fields
      <*> textField "fileName" fields)
  | .join => join <$> (JoinPayload.mk <$> textField "joinType" fields
      <*> textField "leftTable" fields <*> textField "rightTable" fields
      <*> textField "leftKey" fields <*> textField "rightKey" fields)
  | .union => union <$> (UnionPayload.mk <$> textField "unionType" fields
      <*> textsField "tables" fields)
  | .filter => filter <$> (FilterPayload.mk <$> textField "table" fields
      <*> textField "column" fields <*> textField "operator" fields
      <*> defaulted any .null "value" fields
      <*> optional (list (nested "FilterCondition" readCondition)) "conditions" fields)
  | .group => group <$> (GroupPayload.mk <$> textField "table" fields
      <*> textsField "groupBy" fields <*> aggregationsField fields)
  | .select => select <$> (SelectPayload.mk <$> textField "table" fields
      <*> textsField "columns" fields)
  | .sort => sort <$> (SortPayload.mk <$> textField "table" fields
      <*> optional (list readOrder) "orderBy" fields)
  | .aggregate => aggregate <$> (AggregatePayload.mk <$> textField "table" fields
      <*> aggregationsField fields)
  | .custom => custom <$> (CustomPayload.mk <$> textField "sql" fields)

def recordName : StageKind → String
  | .load => "LoadData"
  | .join => "JoinData"
  | .union => "UnionData"
  | .filter => "FilterData"
  | .group => "GroupData"
  | .select => "SelectData"
  | .sort => "SortData"
  | .aggregate => "AggregateData"
  | .custom => "CustomData"

def ofStage (s : Stage) : Except Report Payload := (read s.kind s.data).report (recordName s.kind)

/-! ### Writing -/

private def textOrNull : Option String → Value := .ofOption .text

private def listOrNull (f : α → Value) : Option (List α) → Value :=
  .ofOption fun items => .list (items.map f)

def conditionValue (c : ConditionEntry) : Value :=
  .object ([("column", textOrNull c.column), ("operator", textOrNull c.operator),
    ("value", c.value), ("logic", textOrNull c.logic)] ++ c.extras)

def aggregationValue (a : AggregationEntry) : Value :=
  .object ([("function", textOrNull a.function), ("column", textOrNull a.column),
    ("alias", textOrNull a.label)] ++ a.extras)

def orderValue : OrderEntry → Value
  | .record column direction extras =>
    .object ([("column", textOrNull column), ("direction", textOrNull direction)] ++ extras)
  | .column name => .text name

def declared : Payload → Fields
  | .load p => [("tableName", textOrNull p.tableName), ("fileName", textOrNull p.fileName)]
  | .join p => [("joinType", textOrNull p.joinType), ("leftTable", textOrNull p.leftTable),
      ("rightTable", textOrNull p.rightTable), ("leftKey", textOrNull p.leftKey),
      ("rightKey", textOrNull p.rightKey)]
  | .union p => [("unionType", textOrNull p.unionType), ("tables", listOrNull .text p.tables)]
  | .filter p => [("table", textOrNull p.table), ("column", textOrNull p.column),
      ("operator", textOrNull p.operator), ("value", p.value),
      ("conditions", listOrNull conditionValue p.conditions)]
  | .group p => [("table", textOrNull p.table), ("groupBy", listOrNull .text p.groupBy),
      ("aggregations", listOrNull aggregationValue p.aggregations)]
  | .select p => [("table", textOrNull p.table), ("columns", listOrNull .text p.columns)]
  | .sort p => [("table", textOrNull p.table), ("orderBy", listOrNull orderValue p.orderBy)]
  | .aggregate p => [("table", textOrNull p.table),
      ("aggregations", listOrNull aggregationValue p.aggregations)]
  | .custom p => [("sql", textOrNull p.sql)]

def toValue (p : Payload) (s : Stage) : Value :=
  .object (p.declared ++ extras p.declared.keys s.data)

end Payload

end StagedSql
