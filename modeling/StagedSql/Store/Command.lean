import StagedSql.Store.Basic

/-!
# Commands to the store

The operations of the store as data, run against a store together with the states saved from it.
-/

namespace StagedSql.Store

inductive Command where
  | commit (stage : Stage) (table : Table) (position : Int)
  | register (table : Table) (makeActive : Bool)
  | setActive (tableId : String)
  | removeStage (id : String)
  | removeTable (id : String)
  | resetStages
  | snapshot (name : String)
  | restore (name : String)
  | getTable (id : String)
  | tableNamed (name : String)
  | outputOf (stageId : String)
  | getStage (id : String)
  | stageIndex (id : String)
  | stagesWithOutput (tableId : String)
  | firstTable
  | activeTable
  deriving DecidableEq, Repr

inductive Answer where
  | done
  | truth (b : Bool)
  | table (t : Option Table)
  | stage (s : Stage)
  | stages (s : List Stage)
  | index (i : Option Nat)
  | ids (ids : List String)
  | saved (s : Store)
  deriving DecidableEq, Repr

structure Archive where
  store : Store
  saved : Keyed Store
  deriving DecidableEq, Repr, Inhabited

namespace Archive

def empty : Archive := ⟨Store.empty, []⟩

def changed (a : Archive) (f : α → Answer) :
    Except PipelineError (α × Store) → Except Fault Answer × Archive
  | .ok (x, store) => (.ok (f x), { a with store })
  | .error e => (.error (.pipeline e), a)

def answered (a : Archive) (f : α → Answer) :
    Except PipelineError α → Except Fault Answer × Archive
  | .ok x => (.ok (f x), a)
  | .error e => (.error (.pipeline e), a)

/-- Runs a command. A command that fails changes nothing, and neither does a question. -/
def run (a : Archive) : Command → Except Fault Answer × Archive
  | .commit stage table position => a.changed .truth (.ok (a.store.commit stage table position))
  | .register table makeActive =>
    a.changed (.table ∘ some) (.ok (a.store.register table makeActive))
  | .setActive id => a.changed (.table ∘ some) (a.store.setActive id)
  | .removeStage id => a.changed .stage (a.store.removeStage id)
  | .removeTable id => a.changed (.table ∘ some) (a.store.removeTable id)
  | .resetStages => a.changed .stages (.ok a.store.resetStages)
  | .snapshot name => (.ok (.saved a.store), { a with saved := a.saved.put name a.store })
  | .restore name =>
    match a.saved.lookup? name with
    | some earlier => (.ok .done, { a with store := a.store.restoreStages earlier })
    | none => (.error (.missingKey (.text name)), a)
  | .getTable id => a.answered (.table ∘ some) (a.store.getTable id)
  | .tableNamed name => (.ok (.table (a.store.tableNamed? name)), a)
  | .outputOf id => (.ok (.table (a.store.outputOf? id)), a)
  | .getStage id => a.answered .stage (a.store.getStage id)
  | .stageIndex id => (.ok (.index (a.store.stageIndex? id)), a)
  | .stagesWithOutput id => (.ok (.ids (a.store.stagesWithOutput id)), a)
  | .firstTable => (.ok (.table a.store.firstTable?), a)
  | .activeTable => (.ok (.table a.store.activeTable?), a)

end Archive

end StagedSql.Store
