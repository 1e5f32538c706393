import StagedSql.Table

/-!
# The catalogue as a short text

What the language model is told about the tables: one line for each, with a bounded number of
columns, the whole text cut at a bounded length.
-/

namespace StagedSql.Suggestion

def schemaLength : Int := 4000

def schemaColumns : Int := 24

def columnText (c : Column) : String := c.name ++ ":" ++ c.type

def within (bound : Option Int) (items : List α) : List α :=
  match bound with
  | some b => Text.takeUpTo b items
  | none => items

def tableLine (columns : Option Int) (t : Table) : String :=
  let shown := (within columns t.columns).map columnText
  "- " ++ t.name ++ "(" ++ String.intercalate ", " shown ++ ") [" ++ toString t.rowCount ++ " rows]"

def schemaText (length columns : Option Int) (tables : List Table) : String :=
  match tables with
  | [] => "Available tables: (none)"
  | _ =>
    let text := "Available tables:\n" ++ String.intercalate "\n" (tables.map (tableLine columns))
    String.ofList (within length text.toList)

end StagedSql.Suggestion
