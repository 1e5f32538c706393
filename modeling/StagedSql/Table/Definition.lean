import StagedSql.TableName
import StagedSql.Table

/-!
# Table definitions

A table given by its name, its columns and its rows. A column is a name or a record with a name and
a type; a row is a list of cells or a record keyed by column names.
-/

namespace StagedSql

structure TableDefinition where
  name : String
  columns : List Column
  rows : List (List Value)
  deriving DecidableEq, Repr

namespace TableDefinition

private def refused (p : DefinitionProblem) : Except Fault α := .error (.pipeline (.definition p))

def usualType : String := "VARCHAR"

def readColumn (v : Value) : Except Fault Column :=
  match v with
  | .text name => .ok ⟨name, usualType⟩
  | .object fields =>
    match Value.field fields "name" with
    | .text name =>
      let type := Value.field fields "type"
      .ok ⟨name, Text.upper (if type.isGiven then type.display else usualType)⟩
    | _ => refused (.column v)
  | _ => refused (.column v)

def readRow (names : List String) : Value → Except Fault (List Value)
  | .object fields => .ok (names.map (Value.field fields))
  | .list cells =>
    if cells.length = names.length then .ok cells
    else refused (.rowWidth cells.length names.length)
  | v => refused (.row v)

/-- What a walk through a field visits, nothing for a field that is not given. -/
def readElements (fields : Fields) (key : String) : Except Fault (List Value) :=
  let v := Value.field fields key
  if v.isGiven then
    match v.elements? with
    | some items => .ok items
    | none => .error .wrongKind
  else .ok []

def readName (fields : Fields) : Except Fault String :=
  match Value.field fields "name" with
  | .text name =>
    if Identifier.isSafe name then .ok name else refused (.tableName (.text name))
  | v => refused (.tableName v)

def readColumns (fields : Fields) : Except Fault (List Column) := do
  let columns ← (← readElements fields "columns").mapM readColumn
  if columns = [] then refused .noColumns else return columns

def read : Value → Except Fault TableDefinition
  | .object fields => do
    let name ← readName fields
    let columns ← readColumns fields
    let rows ← (← readElements fields "rows").mapM (readRow (columns.map (·.name)))
    return ⟨name, columns, rows⟩
  | _ => .error .missingOperation

end TableDefinition

end StagedSql
