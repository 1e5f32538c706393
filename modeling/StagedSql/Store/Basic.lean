import StagedSql.Fault
import StagedSql.Stage.Basic
import StagedSql.Table

/-!
# The pipeline store

The catalogue of tables, the ordered stages, the map from stages to their output tables, the active
table and a version that every change raises by one. An operation that fails leaves the store as it
was.
-/

namespace StagedSql

structure Store where
  /-- The catalogue: table ids with their tables. -/
  tables : Keyed Table
  /-- Stage ids with the ids of their output tables. -/
  outputs : Keyed String
  stages : List Stage
  active : Option String
  version : Nat
  deriving DecidableEq, Repr, Inhabited

namespace Store

def empty : Store := ⟨[], [], [], none, 0⟩

/-! ### Reading -/

def tableNamed? (s : Store) (name : String) : Option Table :=
  s.tables.values.find? fun t => t.name = name

/-- The table under an id; the empty text is no id. -/
def tableAt? (s : Store) (id : String) : Option Table :=
  if id = "" then none else s.tables.lookup? id

def getTable (s : Store) (id : String) : Except PipelineError Table :=
  match s.tables.lookup? id with
  | some t => .ok t
  | none => .error (.tableNotFound (.text id))

def outputOf? (s : Store) (stageId : String) : Option Table :=
  (s.outputs.lookup? stageId).bind s.tableAt?

def stageIndex? (s : Store) (id : String) : Option Nat := s.stages.findIdx? fun t => t.id = id

def getStage (s : Store) (id : String) : Except PipelineError Stage :=
  match s.stages.find? fun t => t.id = id with
  | some t => .ok t
  | none => .error (.stageNotFound (.text id))

def stagesWithOutput (s : Store) (tableId : String) : List String :=
  Keyed.keys (s.outputs.filter fun e => e.2 = tableId)

def firstTable? (s : Store) : Option Table := s.tables.values.head?

def activeTable? (s : Store) : Option Table := s.active.bind s.tableAt?

/-! ### Ids given as values -/

/-- The table id that a value gives. Ids are texts, so no table is found under any other value; one
that cannot be looked up at all is refused. -/
def tableIdOf : Value → Except Fault String
  | .text id => .ok id
  | .list _ | .object _ => .error .wrongKind
  | v => .error (.pipeline (.tableNotFound v))

/-- The stage id that a value gives. No stage is found under a value that is no text. -/
def stageIdOf : Value → Except Fault String
  | .text id => .ok id
  | v => .error (.pipeline (.stageNotFound v))

/-! ### Changing -/

/-- Takes a table out of the catalogue together with the map entries that lead to it. -/
def evict (s : Store) (tableId : String) : Store :=
  { s with
    tables := s.tables.remove tableId
    outputs := s.outputs.filter fun e => e.2 ≠ tableId
    active := if s.active = some tableId then none else s.active }

/-- The ids of the other tables that hold the name of `t`. -/
def rivals (s : Store) (t : Table) : List String :=
  ((s.tables.values.filter fun u => u.name = t.name ∧ u.id ≠ t.id)).map (·.id)

/-- The stages with `stage` in the place of the one with its id, or else at `position`, which counts
from the end if it is negative. -/
def placed (stages : List Stage) (stage : Stage) (position : Int) : List Stage :=
  match stages.findIdx? fun t => t.id = stage.id with
  | some i => stages.set i stage
  | none =>
    if Int.ofNat stages.length ≤ position then stages ++ [stage]
    else stages.insertIdx (Text.sliceBound stages.length position) stage

/-- Records the output of a stage and makes it the active table. Other tables of its name are
evicted, because the engine's table now holds this output. The answer tells whether the stage had an
output before. -/
def commit (s : Store) (stage : Stage) (table : Table) (position : Int) : Bool × Store :=
  let known := (s.outputs.lookup? stage.id).isSome
  let s := (s.rivals table).foldl evict s
  (known,
    { tables := s.tables.put table.id table
      outputs := s.outputs.put stage.id table.id
      stages := placed s.stages stage position
      active := some table.id
      version := s.version + 1 })

/-- Adds a source table. A table of its name is replaced and hands on its id. -/
def register (s : Store) (table : Table) (makeActive : Bool) : Table × Store :=
  let table := match s.tableNamed? table.name with
    | some t => { table with id := t.id }
    | none => table
  (table,
    { s with
      tables := s.tables.put table.id table
      active := if makeActive || s.active.isNone then some table.id else s.active
      version := s.version + 1 })

def setActive (s : Store) (tableId : String) : Except PipelineError (Table × Store) :=
  (s.getTable tableId).map fun t => (t, { s with active := some t.id, version := s.version + 1 })

/-- Drops a stage and its map entry; its output stays in the catalogue. -/
def removeStage (s : Store) (id : String) : Except PipelineError (Stage × Store) :=
  match s.stageIndex? id, s.getStage id with
  | some i, .ok stage =>
    .ok (stage, { s with
      stages := s.stages.eraseIdx i
      outputs := s.outputs.remove id
      version := s.version + 1 })
  | _, _ => .error (.stageNotFound (.text id))

def removeTable (s : Store) (id : String) : Except PipelineError (Table × Store) :=
  match s.getTable id with
  | .error e => .error e
  | .ok table =>
    let users := s.stagesWithOutput id
    if users ≠ [] then .error (.tableInUse table.name users)
    else
      let tables := s.tables.remove id
      .ok (table, { s with
        tables
        active := if s.active = some id then tables.keys.head? else s.active
        version := s.version + 1 })

/-- Forgets all stages and the whole map; the tables stay. -/
def resetStages (s : Store) : List Stage × Store :=
  (s.stages, { s with stages := [], outputs := [], version := s.version + 1 })

/-- Puts back the stages and the map of an earlier state. Map entries whose table has left the
catalogue since are not put back, nor is an active table that has left it. -/
def restoreStages (s earlier : Store) : Store :=
  { s with
    stages := earlier.stages
    outputs := earlier.outputs.filter fun e => e.2 ∈ s.tables.keys
    active := match earlier.active with
      | some id => if id ∈ s.tables.keys then some id else s.active
      | none => s.active
    version := s.version + 1 }

end Store

end StagedSql
