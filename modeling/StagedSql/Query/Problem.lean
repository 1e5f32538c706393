import StagedSql.Stage.Kind
import StagedSql.Record.Problem

/-!
# Why a stage has no query

The payload is malformed, a name is missing, or a choice is none of those that the language offers.
-/

namespace StagedSql.Query

inductive Problem where
  | malformed (kind : StageKind) (report : Record.Report)
  | required (kind : StageKind) (field : String)
  | noInput (kind : StageKind)
  | aggregationColumn (kind : StageKind) (function : String)
  | joinType (given : String)
  | fewTables
  | unionType (given : String)
  | logic (given : String)
  | noCondition
  | direction (given : String)
  | noStatement
  deriving DecidableEq, Repr

namespace Problem

def message : Problem → String
  | malformed kind report => kind.name ++ " stage payload is malformed: " ++ report.text
  | required kind field => kind.name ++ " stage requires " ++ field
  | noInput kind => kind.name ++ " stage has no input table"
  | aggregationColumn kind function =>
    kind.name ++ " aggregation " ++ function ++ " requires a column"
  | joinType given => "Unsupported joinType '" ++ given ++ "'"
  | fewTables => "UNION stage requires at least 2 tables"
  | unionType given => "Unsupported unionType '" ++ given ++ "'"
  | logic given => "Unsupported filter logic '" ++ given ++ "'"
  | noCondition => "FILTER stage requires column, operator, and value, or conditions array"
  | direction given => "Unsupported sort direction '" ++ given ++ "'"
  | noStatement => "CUSTOM stage requires sql string"

def field? : Problem → Option String
  | malformed .. => none
  | required _ field => some field
  | noInput _ => some "table"
  | aggregationColumn .. => some "aggregations.column"
  | joinType _ => some "joinType"
  | fewTables => some "tables"
  | unionType _ => some "unionType"
  | logic _ => some "conditions.logic"
  | noCondition => some "conditions"
  | direction _ => some "orderBy.direction"
  | noStatement => some "sql"

end Problem

end StagedSql.Query
