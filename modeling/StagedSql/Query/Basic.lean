import StagedSql.Query.Literal
import StagedSql.Query.Problem
import StagedSql.Stage.Payload

/-!
# Queries

What a stage asks of the engine once its payload has been read and its defaults have been filled in,
and the text of the statement that asks it. Identifiers are written as they are given; only literal
values are quoted.
-/

namespace StagedSql

namespace Query

/-! ### Choices of the language -/

inductive JoinKind where
  | inner
  | left
  | right
  | full
  deriving DecidableEq, Repr

def JoinKind.keyword : JoinKind → String
  | inner => "INNER JOIN"
  | left => "LEFT JOIN"
  | right => "RIGHT JOIN"
  | full => "FULL OUTER JOIN"

def JoinKind.ofText? (s : String) : Option JoinKind :=
  if s = "INNER" then some inner
  else if s = "LEFT" then some left
  else if s = "RIGHT" then some right
  else if s = "FULL OUTER" then some full
  else none

inductive UnionKind where
  | distinct
  | all
  deriving DecidableEq, Repr

def UnionKind.keyword : UnionKind → String
  | distinct => "UNION"
  | all => "UNION ALL"

def UnionKind.ofText? (s : String) : Option UnionKind :=
  if s = "UNION" then some distinct else if s = "UNION ALL" then some all else none

inductive Logic where
  | and
  | or
  deriving DecidableEq, Repr

def Logic.keyword : Logic → String
  | and => "AND"
  | or => "OR"

def Logic.ofText? (s : String) : Option Logic :=
  if s = "AND" then some and else if s = "OR" then some or else none

inductive Direction where
  | ascending
  | descending
  deriving DecidableEq, Repr

def Direction.keyword : Direction → String
  | ascending => "ASC"
  | descending => "DESC"

def Direction.ofText? (s : String) : Option Direction :=
  if s = "ASC" then some ascending else if s = "DESC" then some descending else none

/-! ### Parts of a query -/

structure Condition where
  column : String
  operator : String
  value : Value
  deriving DecidableEq, Repr

/-- An aggregate function over a column, under a name of its own or not. -/
structure Aggregation where
  function : String
  column : String
  label : Option String
  deriving DecidableEq, Repr

structure SortKey where
  column : String
  direction : Direction
  deriving DecidableEq, Repr

end Query

open Query in
/-- A query in its normal form. -/
inductive Query where
  | table (name : String)
  | join (kind : JoinKind) (left right leftKey rightKey : String)
  | union (kind : UnionKind) (tables : List String)
  | filter (table : String) (first : Condition) (more : List (Logic × Condition))
  | group (keys : List String) (aggregations : List Aggregation) (source : String)
  | select (columns : List String) (source : String)
  | sort (source : String) (keys : List SortKey)
  | aggregate (aggregations : List Aggregation) (source : String)
  | custom (statement : String)
  deriving DecidableEq, Repr

namespace Query

/-! ### Normalising a payload -/

/-- A text that is there and not empty. -/
def given? : Option String → Option String
  | some s => if s = "" then none else some s
  | none => none

def require (kind : StageKind) (field : String) (name : Option String) : Except Problem String :=
  match given? name with
  | some s => .ok s
  | none => .error (.required kind field)

def requireItems (kind : StageKind) (field : String) : Option (List α) → Except Problem (List α)
  | none | some [] => .error (.required kind field)
  | some items => .ok items

/-- A word in its normal form, with `default` for a word that is not given. -/
def normalWord (default : String) (word : Option String) : String :=
  Text.upper (Text.stripped ((given? word).getD default))

/-- The table that the payload names, else the one resolved for it. -/
def sourceTable (kind : StageKind) (named resolved : Option String) : Except Problem String :=
  match given? named with
  | some s => .ok s
  | none =>
    match given? resolved with
    | some s => .ok s
    | none => .error (.noInput kind)

/-- Only a count may leave its column open. -/
def aggregationOf (kind : StageKind) (a : AggregationEntry) : Except Problem Aggregation := do
  let function := Text.upper (Text.stripped (← require kind "aggregations.function" a.function))
  match given? a.column with
  | some column => .ok ⟨function, column, given? a.label⟩
  | none =>
    if function = "COUNT" then .ok ⟨function, "*", given? a.label⟩
    else .error (.aggregationColumn kind function)

def conditionOf (c : ConditionEntry) : Except Problem Condition := do
  let column ← require .filter "conditions.column" c.column
  let operator ← require .filter "conditions.operator" c.operator
  .ok ⟨column, operator, c.value⟩

/-- A condition after the first one, with the word that joins it to those before. -/
def furtherConditionOf (c : ConditionEntry) : Except Problem (Logic × Condition) := do
  let condition ← conditionOf c
  match Logic.ofText? (normalWord "AND" c.logic) with
  | some logic => .ok (logic, condition)
  | none => .error (.logic (c.logic.getD ""))

def sortKeyOf : OrderEntry → Except Problem SortKey
  | .column name => .ok ⟨name, .ascending⟩
  | .record column direction _ => do
    let column ← require .sort "orderBy.column" column
    match Direction.ofText? (normalWord "ASC" direction) with
    | some d => .ok ⟨column, d⟩
    | none => .error (.direction (direction.getD ""))

def ofJoin (p : JoinPayload) : Except Problem Query := do
  let left ← require .join "leftTable" p.leftTable
  let right ← require .join "rightTable" p.rightTable
  let leftKey ← require .join "leftKey" p.leftKey
  let rightKey ← require .join "rightKey" p.rightKey
  match JoinKind.ofText? (normalWord "INNER" p.joinType) with
  | some kind => .ok (.join kind left right leftKey rightKey)
  | none => .error (.joinType (p.joinType.getD ""))

def ofUnion (p : UnionPayload) : Except Problem Query :=
  let tables := p.tables.getD []
  if tables.length < 2 then .error .fewTables
  else
    match UnionKind.ofText? (normalWord "UNION" p.unionType) with
    | some kind => .ok (.union kind tables)
    | none => .error (.unionType (p.unionType.getD ""))

/-- A list of conditions takes precedence over the single condition of the payload itself. -/
def ofFilter (p : FilterPayload) : Except Problem Query := do
  let table ← require .filter "table" p.table
  match p.conditions with
  | some (first :: more) =>
    .ok (.filter table (← conditionOf first) (← more.mapM furtherConditionOf))
  | _ =>
    match given? p.column, given? p.operator, p.value with
    | some _, some _, .null => .error .noCondition
    | some column, some operator, value => .ok (.filter table ⟨column, operator, value⟩ [])
    | _, _, _ => .error .noCondition

def ofGroup (p : GroupPayload) (resolved : Option String) : Except Problem Query := do
  let keys ← requireItems .group "groupBy" p.groupBy
  let aggregations ← (p.aggregations.getD []).mapM (aggregationOf .group)
  .ok (.group keys aggregations (← sourceTable .group p.table resolved))

def ofSelect (p : SelectPayload) (resolved : Option String) : Except Problem Query := do
  let columns ← requireItems .select "columns" p.columns
  .ok (.select columns (← sourceTable .select p.table resolved))

def ofSort (p : SortPayload) (resolved : Option String) : Except Problem Query := do
  let keys ← (← requireItems .sort "orderBy" p.orderBy).mapM sortKeyOf
  .ok (.sort (← sourceTable .sort p.table resolved) keys)

def ofAggregate (p : AggregatePayload) (resolved : Option String) : Except Problem Query := do
  let entries ← requireItems .aggregate "aggregations" p.aggregations
  let aggregations ← entries.mapM (aggregationOf .aggregate)
  .ok (.aggregate aggregations (← sourceTable .aggregate p.table resolved))

def ofCustom (p : CustomPayload) : Except Problem Query :=
  match p.sql with
  | some sql =>
    if (Text.trim sql.toList).isEmpty then .error .noStatement else .ok (.custom sql)
  | none => .error .noStatement

/-- The query of a payload; `resolved` is the table to read from if the payload names none. -/
def ofPayload (payload : Payload) (resolved : Option String) : Except Problem Query :=
  match payload with
  | .load p => (sourceTable .load p.tableName resolved).map .table
  | .join p => ofJoin p
  | .union p => ofUnion p
  | .filter p => ofFilter p
  | .group p => ofGroup p resolved
  | .select p => ofSelect p resolved
  | .sort p => ofSort p resolved
  | .aggregate p => ofAggregate p resolved
  | .custom p => ofCustom p

/-! ### The statement -/

def commaList (items : List String) : String := String.intercalate ", " items

def Condition.text (c : Condition) : String := c.column ++ " " ++ c.operator ++ " " ++ literal c.value

def Aggregation.text (a : Aggregation) : String :=
  a.function ++ "(" ++ a.column ++ ")" ++
    (match a.label with
     | some label => " AS " ++ label
     | none => "")

def SortKey.text (o : SortKey) : String := o.column ++ " " ++ o.direction.keyword

def furtherText (c : Logic × Condition) : String := " " ++ c.1.keyword ++ " " ++ c.2.text

/-- The statement of a query, without a semicolon at its end. Joined tables are called `l` and `r`;
a key of the same name on both sides is kept once. -/
def text : Query → String
  | .table name => "SELECT * FROM " ++ name
  | .join kind left right leftKey rightKey =>
    if leftKey = rightKey then
      "SELECT l.*, r.* EXCLUDE (" ++ rightKey ++ ") FROM " ++ left ++ " l " ++ kind.keyword ++ " " ++
        right ++ " r USING (" ++ leftKey ++ ")"
    else
      "SELECT l.*, r.* FROM " ++ left ++ " l " ++ kind.keyword ++ " " ++ right ++ " r ON l." ++
        leftKey ++ " = r." ++ rightKey
  | .union kind tables =>
    String.intercalate (" " ++ kind.keyword ++ " ") (tables.map ("SELECT * FROM " ++ ·))
  | .filter source first more =>
    "SELECT * FROM " ++ source ++ " WHERE " ++ first.text ++ String.join (more.map furtherText)
  | .group keys aggregations source =>
    let keys := commaList keys
    let columns := if aggregations.isEmpty then keys
      else keys ++ ", " ++ commaList (aggregations.map Aggregation.text)
    "SELECT " ++ columns ++ " FROM " ++ source ++ " GROUP BY " ++ keys
  | .select columns source => "SELECT " ++ commaList columns ++ " FROM " ++ source
  | .sort source keys =>
    "SELECT * FROM " ++ source ++ " ORDER BY " ++ commaList (keys.map SortKey.text)
  | .aggregate aggregations source =>
    "SELECT " ++ commaList (aggregations.map Aggregation.text) ++ " FROM " ++ source
  | .custom statement => statement

def ofStage (s : Stage) (resolved : Option String) : Except Problem Query :=
  match Payload.ofStage s with
  | .error report => .error (.malformed s.kind report)
  | .ok payload => ofPayload payload resolved

def compile (s : Stage) (resolved : Option String) : Except Problem String :=
  (ofStage s resolved).map text

end Query

end StagedSql
