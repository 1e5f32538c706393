import StagedSql.Table

/-!
# Statements

The statements that the pipeline sends to the engine, as data and as texts. Names and queries stand
in the texts as they are; only the path of a file is quoted.
-/

namespace StagedSql.Engine

/-- A file of comma-separated values: one that the engine finds at a path, or one that came with its
content. -/
inductive CsvFile where
  | path (p : String)
  | upload (content : String)
  deriving DecidableEq, Repr

def CsvFile.location : CsvFile → String
  | path p => p
  | upload _ => "<upload>"

inductive Statement where
  | createTableAs (table query : String)
  | importCsv (table : String) (file : CsvFile)
  | createTable (table : String) (columns : List Column)
  | insertRows (table : String) (width : Nat) (rows : List (List Value))
  | dropTable (table : String)
  | renameTable (source target : String)
  | createView (view query : String)
  | describe (table : String)
  | preview (table : String) (limit : Int)
  | countRows (table : String)
  | findTable (name : String)
  | raw (sql : String)
  | beginTransaction
  | commit
  | rollback
  | close
  deriving DecidableEq, Repr

namespace Statement

def columnSql (c : Column) : String := "\"" ++ c.name ++ "\" " ++ c.type

def importSql (table location : String) : String :=
  let quoted := String.ofList (Text.doubleQuotes location.toList)
  "CREATE OR REPLACE TABLE " ++ table ++ " AS SELECT * FROM read_csv_auto('" ++ quoted ++
    "', header=true)"

def sql : Statement → String
  | createTableAs table query => "CREATE OR REPLACE TABLE " ++ table ++ " AS " ++ query
  | importCsv table file => importSql table file.location
  | createTable table columns =>
    "CREATE OR REPLACE TABLE " ++ table ++ " (" ++
      String.intercalate ", " (columns.map columnSql) ++ ")"
  | insertRows table width _ =>
    "INSERT INTO " ++ table ++ " VALUES (" ++
      String.intercalate ", " (List.replicate width "?") ++ ")"
  | dropTable table => "DROP TABLE IF EXISTS " ++ table
  | renameTable source target => "ALTER TABLE " ++ source ++ " RENAME TO " ++ target
  | createView view query => "CREATE OR REPLACE VIEW " ++ view ++ " AS " ++ query
  | describe table => "DESCRIBE " ++ table
  | preview table limit => "SELECT * FROM " ++ table ++ " LIMIT " ++ toString limit
  | countRows table => "SELECT COUNT(*) FROM " ++ table
  | findTable _ => "SELECT COUNT(*) FROM information_schema.tables WHERE table_name = ?"
  | raw sql => sql
  | beginTransaction => "BEGIN TRANSACTION"
  | commit => "COMMIT"
  | rollback => "ROLLBACK"
  | close => "<close>"

/-- The values for the placeholders of a statement that runs once. -/
def parameters? : Statement → Option (List Value)
  | findTable name => some [.text name]
  | _ => none

/-- The rows of values for a statement that runs once for each. -/
def batch? : Statement → Option (List (List Value))
  | insertRows _ _ rows => some rows
  | _ => none

def upload? : Statement → Option String
  | importCsv _ (.upload content) => some content
  | _ => none

end Statement

end StagedSql.Engine
