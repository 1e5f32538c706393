import StagedSql.Record.Reader
import StagedSql.Session.Import
import StagedSql.Stage.Basic
import StagedSql.Table
import StagedSql.Text.Percent
import StagedSql.Web.Path

/-!
# Requests

The bodies of requests and the records that the endpoints read from them.
-/

namespace StagedSql.Web

open Record

inductive RequestBody where
  | none
  | value (v : Value)
  /-- The field `file` of a form. -/
  | file (name content : String)
  deriving DecidableEq, Repr

structure Request where
  method : String
  target : String
  body : RequestBody
  deriving DecidableEq, Repr

/-- Refuses a request that cannot be sent: one whose target is not well formed or whose body JSON
cannot hold. -/
def Request.check (r : Request) : Except Fault Unit := do
  if (path? r.target.toList).isNone then throw .malformedUrl
  match r.body with
  | .value v => let _ ← Fault.unlessFinite v
  | .none | .file _ _ => pure ()

/-- A record that makes up a whole body. A body of null is no body. -/
def RequestBody.read (read : Fields → Checked α) : RequestBody → Checked α
  | .value (.object fields) => (read fields).under (.name "body")
  | .none | .value .null => (Checked.problem .missing).under (.name "body")
  | .value _ | .file _ _ => (Checked.problem .notBody).under (.name "body")

/-! ### Stages -/

/-- A stage that the user has written; without an id it gets one. -/
structure StageBody where
  id : Option String
  kind : StageKind
  description : String
  data : Fields
  active : Option String
  deriving DecidableEq, Repr

def StageBody.read (fields : Fields) : Checked StageBody :=
  StageBody.mk <$> optional text "id" fields <*> required Stage.readKind "type" fields
    <*> defaulted text "" "description" fields <*> defaulted object [] "data" fields
    <*> optional text "active_table_id" fields

structure StageEdit where
  kind : Option StageKind
  description : Option String
  data : Fields
  active : Option String
  deriving DecidableEq, Repr

def StageEdit.read (fields : Fields) : Checked StageEdit :=
  StageEdit.mk <$> optional Stage.readKind "type" fields <*> optional text "description" fields
    <*> defaulted object [] "data" fields <*> optional text "active_table_id" fields

/-! ### Tables -/

def readColumn : Value → Checked Value
  | .text s => .good (.text s)
  | v =>
    let column := match v with
      | .object fields => (Column.read fields).map Column.toValue
      | _ => .problem .notBody
    match column with
    | .good c => .good c
    | .bad problems =>
      .bad (⟨[.name "str"], .notText⟩ :: problems.map (Problem.under (.name Table.columnRecord)))

def readDefinition (fields : Fields) : Checked Value :=
  let definition (name : String) (columns rows : List Value) : Value :=
    .object [("name", .text name), ("columns", .list columns), ("rows", .list rows)]
  definition <$> required text "name" fields <*> required (list readColumn) "columns" fields
    <*> defaulted (list any) [] "rows" fields

/-! ### Flows and suggestions -/

def readMode (v : Value) : Checked ImportMode :=
  match ImportMode.ofValue? v with
  | some mode => .good mode
  | none => .problem (.notLiteral [ImportMode.name .replace, ImportMode.name .append])

structure FlowBody where
  stages : List Value
  mode : ImportMode
  deriving DecidableEq, Repr

def FlowBody.read (fields : Fields) : Checked FlowBody :=
  FlowBody.mk <$> defaulted (list any) [] "stages" fields
    <*> defaulted readMode .replace "mode" fields

structure GoalBody where
  prompt : String
  apply : Bool
  deriving DecidableEq, Repr

def GoalBody.read (fields : Fields) : Checked GoalBody :=
  GoalBody.mk <$> required nonEmptyText "prompt" fields <*> defaulted truth false "apply" fields

/-! ### Files -/

def escapedNameChar (c : Char) : List Char :=
  if c = '"' ∨ c.toNat < 0x20 ∧ c.toNat ≠ 0x1B then Text.byteEscape c.toNat else [c]

/-- The last part of a name that is a whole path of another system; other names as they are. -/
def withoutDrive (name : List Char) : List Char :=
  if (name.drop 1).take 2 = [':', '\\'] ∨ name.take 2 = ['\\', '\\'] then
    (name.reverse.takeWhile (· ≠ '\\')).reverse
  else name

/-- The file of a form. A file without a name is a plain field: it is missing if it is empty. -/
def RequestBody.readFile : RequestBody → Checked (String × String)
  | .file name content =>
    if name = "" then
      (Checked.problem (if content = "" then .missing else .notFile)).under (.name "file")
        |>.under (.name "body")
    else
      .good (String.ofList (withoutDrive (name.toList.flatMap escapedNameChar)), content)
  | .none | .value _ =>
    (Checked.problem .missing).under (.name "file") |>.under (.name "body")

end StagedSql.Web
