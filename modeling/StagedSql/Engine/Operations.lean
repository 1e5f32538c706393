import StagedSql.Engine.Connection
import StagedSql.Text.Number
import StagedSql.Value.Display

/-!
# Operations of the engine

What the pipeline asks of the engine, in statements, and how it reads the replies. A failure of the
engine is reported as an error of the pipeline, except where the existence of a table is asked.
-/

namespace StagedSql.Engine.Work

/-! ### Reading replies -/

structure Result where
  columns : List String
  rows : List Fields
  deriving DecidableEq, Repr

/-- The result in a reply. Columns and cells are paired from the left as far as both go. -/
def resultOf (r : Reply) : Result :=
  let columns := r.columns.getD []
  ⟨columns, r.rows.map fun row => Keyed.ofPairs (columns.zip row)⟩

def columnOf : List Value → Except Fault Column
  | name :: type :: _ =>
    ((Record.required Record.text "name" [("name", name)]).map
      fun name => Column.mk name type.display).report Table.columnRecord |>.mapError .report
  | _ => .error (.missingItem "tuple index out of range")

/-- The whole number that a value stands for; a fraction is cut. -/
def wholeOf : Value → Except Fault Int
  | .int i => .ok i
  | .bool b => .ok (if b then 1 else 0)
  | .float .nan => .error (.value .wholeOfNaN)
  | .float (.finite negative m e) => .ok (Binary64.truncated negative m e)
  | .float (.infinite _) => .error .overflow
  | .text s =>
    match Text.readWhole s with
    | .ok i => .ok i
    | .error .notANumber => .error (.value (.notWhole s))
    | .error (.tooLong digits) => .error (.value (.longWhole digits))
  | _ => .error .wrongKind

/-- The count in the first row of a reply, zero without one. -/
def countOf (r : Reply) : Except Fault Int :=
  match r.rows with
  | (v :: _) :: _ => wholeOf v
  | _ => .ok 0

def isFound (r : Reply) : Bool :=
  match r.rows with
  | (v :: _) :: _ => v.isGiven
  | _ => false

def reading (read : Reply → Except Fault α) (s : Statement) : Work α := do
  match read (← ask engineError s) with
  | .ok a => return a
  | .error f => throw f

/-! ### Questions -/

def query (s : Statement) : Work Result := reading (fun r => .ok (resultOf r)) s

def describe (table : String) : Work (List Column) :=
  reading (fun r => r.rows.mapM columnOf) (.describe table)

def countRows (table : String) : Work Int := reading countOf (.countRows table)

/-- Whether the engine has a table of this name. Its failure is not taken charge of. -/
def tableExists (name : String) : Work Bool := do
  return isFound (← ask .engineFailure (.findTable name))

/-! ### Changes -/

def createTableAs (table query : String) : Work Unit := run (.createTableAs table query)

def dropTable (table : String) : Work Unit := run (.dropTable table)

def importCsv (table : String) (file : CsvFile) : Work Unit := run (.importCsv table file)

def creation (table : String) (columns : List Column) (rows : List (List Value)) :
    List Statement :=
  .createTable table columns ::
    if rows = [] then [] else [.insertRows table columns.length rows]

def createTable (table : String) (columns : List Column) (rows : List (List Value)) :
    Work Unit :=
  if columns = [] then
    throw (engineError ("Table '" ++ table ++ "' needs at least one column"))
  else transaction (creation table columns rows)

/-- The statements that put a finished table in the place of another one and renew its views. -/
def promotion (staging table : String) (views : List (String × String)) : List Statement :=
  [.dropTable table, .renameTable staging table] ++ views.map fun v => .createView v.1 v.2

def promote (staging table : String) (views : List (String × String)) : Work Unit :=
  transaction (promotion staging table views)

end StagedSql.Engine.Work
