import StagedSql.Proofs.Session.Minting
import StagedSql.Proofs.Session.Source

/-!
# Steps of the pipeline

What the operations of the pipeline come to: a change of the store, the execution of a stage or an
import. An invariant of all runs is kept by each of these.
-/

namespace StagedSql

open Outcome

namespace Operation

def isPipelineWork : Operation → Bool
  | execute .. | suggest .. => false
  | _ => true

end Operation

/-- What an operation of the pipeline comes to. -/
inductive Step (s : Session) : Operation → Session → Prop
  | kept (op : Operation) : Step s op s
  | uploaded (file content : String) (t : Session)
      (admitted : Admitted (TableName.ofFile file) Table.fromUpload s t) :
      Step s (.loadCsv file content) t
  | loaded (file content : String) (stage : Stage) (t : Session)
      (admitted : Admitted (TableName.ofFile file) Table.fromUpload s t) (kind : stage.kind = .load)
      (new : stage.id ∉ t.store.stageIds) :
      Step s (.loadCsv file content)
        (final (Action.execute stage none) { t with stagesMinted := t.stagesMinted + 1 })
  | created (definition : Value) (d : TableDefinition) (t : Session)
      (read : TableDefinition.read definition = .ok d)
      (admitted : Admitted d.name Table.fromDefinition s t) : Step s (.createTable definition) t
  | deletedTable (id : String) (table : Table) (store : Store) (connection : Engine.Connection)
      (removed : s.store.removeTable id = .ok (table, store)) :
      Step s (.deleteTable id) { s with store, connection }
  | activated (id : String) (table : Table) (store : Store)
      (changed : s.store.setActive id = .ok (table, store)) :
      Step s (.setActive id) { s with store }
  | added (stage : Stage) (active : Option String) (id : String) (minted : Nat)
      (new : id ∉ s.store.stageIds) :
      Step s (.addStage stage active)
        (final (Action.execute { stage with id } active) { s with stagesMinted := minted })
  | updated (data : Value) (fields : Fields) (kind : Option StageKind)
      (description active : Option String) (stage : Stage)
      (found : s.store.getStage stage.id = .ok stage)
      (returns : Operation.Returns (.updateStage stage.id data kind description active) s ↔
        fault? (Action.execute (Action.edited stage fields kind description) active) s = none) :
      Step s (.updateStage stage.id data kind description active)
        (final (Action.execute (Action.edited stage fields kind description) active) s)
  | rerun (active : Option String) (stage : Stage) (found : s.store.getStage stage.id = .ok stage)
      (returns : Operation.Returns (.rerunStage stage.id active) s ↔
        fault? (Action.execute stage active) s = none) :
      Step s (.rerunStage stage.id active) (final (Action.execute stage active) s)
  | deletedStage (id : String) (stage : Stage) (store : Store)
      (removed : s.store.removeStage id = .ok (stage, store)) :
      Step s (.deleteStage id) { s with store }
  | imported (mode flow : Value) (m : ImportMode) (keepIds : Bool) (candidates : List Value)
      (flows : flow.elements? = some candidates)
      (imports : Action.importAs mode keepIds flow = Action.importFlow m keepIds candidates) :
      Step s (.importFlow mode keepIds flow) (final (Action.importFlow m keepIds candidates) s)
  | ranAll : Step s .runAll (final (Action.importFlow .replace true
      (s.store.stages.map fun stage => stage.toValue.interchange)) s)

/-- Every operation of the pipeline is such a step as long as minted ids are new. -/
theorem Operation.step {s : Session} {op : Operation} (hwork : op.isPipelineWork)
    (hnew : s.IdsNew) : Step s op (op.after s) := by
  cases op
  case execute | suggest => cases hwork
  all_goals rw [after, run, final_bind_pure]
  case loadCsv file content =>
    rcases Action.loadCsv_admitted file content s with ht | ⟨t, ht, heq⟩
    · exact .uploaded file content _ ht
    · rw [heq]
      refine .loaded file content _ t ht rfl ?_
      rw [Store.stageIds, ht.stages_eq, ht.stagesMinted_eq]
      exact hnew _ (Nat.lt_succ_self _)
  case createTable definition =>
    rcases Action.createTable_admitted definition s with heq | ⟨d, hd, ht⟩
    · rw [heq]
      exact .kept _
    · exact .created definition d _ hd ht
  case deleteTable id =>
    rcases Action.deleteTable_cases id s with heq | ⟨table, store, failure, hr, heq⟩
    · rw [heq]
      exact .kept _
    · rw [heq]
      exact .deletedTable id table store _ hr
  case setActive id =>
    rcases Action.final_changeIf (fun st => st.setActive id) s with heq | ⟨t, store, hr, heq⟩
    · rw [Action.setActive, heq]
      exact .kept _
    · rw [Action.setActive, heq]
      exact .activated id t store hr
  case addStage stage active =>
    rcases hnew.addStage_cases stage active with ⟨hid, heq⟩ | ⟨id, t, -, hid, rfl, -, heq⟩
    · rw [final_congr heq]
      exact .added stage active stage.id s.stagesMinted hid
    · rw [final_congr heq]
      exact .added stage active id _ hid
  case updateStage id data kind description active =>
    rcases Action.updateStageAs_cases id data kind description active s with
      ⟨fault, heq⟩ | ⟨stage, fields, hstage, heq⟩
    · rw [final_of_error heq]
      exact .kept _
    · obtain ⟨-, rfl⟩ := Store.mem_of_getStage hstage
      rw [final_congr heq]
      refine .updated data fields kind description active stage hstage ?_
      rw [Returns, run, fault?_bind_pure, fault?_congr heq]
  case rerunStage id active =>
    rcases Action.rerunStage_cases id active s with ⟨fault, heq⟩ | ⟨stage, hstage, heq⟩
    · rw [final_of_error heq]
      exact .kept _
    · obtain ⟨-, rfl⟩ := Store.mem_of_getStage hstage
      rw [final_congr heq]
      refine .rerun active stage hstage ?_
      rw [Returns, run, fault?_bind_pure, fault?_congr heq]
  case deleteStage id =>
    rcases Action.final_changeIf (fun st => st.removeStage id) s with heq | ⟨t, store, hr, heq⟩
    · rw [Action.deleteStage, heq]
      exact .kept _
    · rw [Action.deleteStage, heq]
      exact .deletedStage id t store hr
  case previewStage stage active =>
    rw [Action.previewStage_final]
    exact .kept _
  case importFlow mode keepIds flow =>
    rcases Action.importAs_cases mode keepIds flow with ⟨fault, heq⟩ | ⟨m, candidates, hc, heq⟩
    · rw [heq]
      exact .kept _
    · rw [heq]
      exact .imported mode flow m keepIds candidates hc heq
  case runAll =>
    rw [final_congr (Action.runAll_apply s)]
    exact .ranAll

end StagedSql
