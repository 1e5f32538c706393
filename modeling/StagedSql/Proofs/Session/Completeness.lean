import StagedSql.Proofs.Graph.Producers
import StagedSql.Proofs.Session.FlowRun
import StagedSql.Proofs.Session.Materialize
import StagedSql.Proofs.Session.Operation
import StagedSql.Proofs.Session.Source
import StagedSql.Proofs.Store.WellFormed

/-!
# Complete stages

Only complete stages get into the list of stages. The tables that a complete stage refers to can always
be told, so the references between stages can be told as well.
-/

namespace StagedSql

open Outcome Materialization

/-! ### References -/

theorem Stage.referencedTables_of_isComplete {stage : Stage} (h : stage.isComplete) :
    ∃ names, stage.referencedTables = .ok names := by
  unfold referencedTables
  split
  case h_2 hkind =>
    have hmissing : stage.missingFields = [] := List.isEmpty_iff.mp h
    have hfilled : isFilledList (stage.entry "tables") = true := by
      by_contra hnot
      have hmem : "tables" ∈ stage.missingFields := by
        refine mem_missingFields.mpr ⟨isFilledList, ?_, Bool.eq_false_iff.mpr hnot⟩
        rw [hkind]
        exact List.mem_singleton_self _
      rw [hmissing] at hmem
      cases hmem
    unfold tableNames
    cases hv : stage.entry "tables" with
    | list items =>
      rw [hv] at hfilled
      cases items with
      | nil => cases hfilled
      | cons v rest => exact ⟨_, rfl⟩
    | _ =>
      rw [hv] at hfilled
      cases hfilled
  all_goals exact ⟨_, rfl⟩

theorem Graph.forwardReferences_of_isComplete {stages : List Stage}
    (h : ∀ stage ∈ stages, stage.isComplete) :
    ∃ forward, Graph.forwardReferences stages = .ok forward := by
  have hfound : ∃ found, (stages.zipIdx.mapM fun s =>
      Graph.forwardIn (Graph.firstProducers stages) s.2 s.1) = .ok found := by
    refine exists_mapM_ok_iff.mpr fun e he => ?_
    obtain ⟨names, hnames⟩ := Stage.referencedTables_of_isComplete
      (h e.1 (List.fst_mem_of_mem_zipIdx he))
    simp only [Graph.forwardIn, hnames]
    exact ⟨_, rfl⟩
  obtain ⟨found, hfound⟩ := hfound
  unfold Graph.forwardReferences
  rw [hfound]
  exact ⟨_, rfl⟩

/-! ### The list of stages -/

theorem Materialization.isComplete_of_execute {stage : Stage} {active : Option String}
    {s t : Session} {m : Materialization} (h : Action.execute stage active s = .ok m t) :
    stage.isComplete := by
  unfold Action.execute at h
  cases hc : ensureComplete stage with
  | error e =>
    have hrefused : Action.ofPipeline (.error e : Except PipelineError Unit) s =
        .error (.pipeline e) s := rfl
    rw [hc, bind_of_error hrefused] at h
    cases h
  | ok _ =>
    unfold ensureComplete at hc
    split at hc
    · next hmissing => exact List.isEmpty_iff.mpr hmissing
    · cases hc

namespace Flow

theorem Screening.isComplete_enrol {s : Screening} (h : ∀ st ∈ s.accepted, st.isComplete)
    (index : Int) (candidate : Value) (stage : Stage) :
    ∀ st ∈ (s.enrol index candidate stage).accepted, st.isComplete := by
  have hsettle : ∀ (taken : Stage) (t : Screening) (reason : DropReason),
      t.accepted = s.accepted → ∀ st ∈ (if taken.isComplete then
        { t with accepted := t.accepted ++ [taken] } else t.drop index candidate reason).accepted,
        st.isComplete := by
    intro taken t reason haccepted st hst
    split at hst
    · next hcomplete =>
      dsimp only at hst
      rw [haccepted] at hst
      rcases List.mem_append.mp hst with hst | hst
      · exact h st hst
      · exact List.mem_singleton.mp hst ▸ hcomplete
    · exact h st (haccepted ▸ hst)
  exact hsettle _ { s with
    minted := if stage.id ∈ s.seen then s.minted + 1 else s.minted
    seen := s.seen ++ [(if stage.id ∈ s.seen then
      { stage with id := Stage.mintedId (s.minted + 1) } else stage).id] } _ rfl

theorem Screening.isComplete_takeAll {keepIds : Bool} {candidates : List Value} {s : Screening}
    (h : ∀ stage ∈ s.accepted, stage.isComplete) (index : Int) :
    ∀ stage ∈ (s.takeAll keepIds index candidates).accepted, stage.isComplete := by
  induction candidates generalizing s index with
  | nil => exact h
  | cons c rest ih =>
    refine ih ?_ (index + 1)
    unfold take
    cases stageOfCandidate keepIds s.minted c with
    | mk outcome minted =>
      cases outcome with
      | error reason => exact h
      | ok stage => exact isComplete_enrol (s := { s with minted }) h index c stage

theorem isComplete_of_screened {keepIds : Bool} {index : Int} {minted : Nat}
    {candidates : List Value} {stage : Stage}
    (h : stage ∈ (screen keepIds index minted candidates).accepted) : stage.isComplete :=
  Screening.isComplete_takeAll (fun _ hst => absurd hst List.not_mem_nil) index stage h

end Flow

namespace Session

def Complete (s : Session) : Prop := ∀ stage ∈ s.store.stages, stage.isComplete

theorem complete_opened (responder : Engine.Responder) (previewRows : Int) (chatEnabled : Bool) :
    (opened responder previewRows chatEnabled).Complete :=
  fun _ hst => absurd hst List.not_mem_nil

section

variable {s : Session} (h : s.Complete)
include h

theorem Complete.execute (stage : Stage) (active : Option String) :
    (final (Action.execute stage active) s).Complete := by
  have hcommit : ∀ {table position},
      stage.isComplete → ∀ st ∈ (s.store.commit stage table position).2.stages, st.isComplete := by
    intro table position hstage st hst
    simp only [Store.commit, Store.foldl_evict] at hst
    by_cases heq : st = stage
    · exact heq ▸ hstage
    · exact h st (Store.mem_of_mem_placed hst heq)
  have houtcome := execute_outcome stage active s
  generalize hr : Action.execute stage active s = r at houtcome
  cases houtcome with
  | refused e refusal =>
    rw [final_of_error hr]
    exact h
  | broken sql input fault c kind planned ran =>
    rw [final_of_error hr]
    exact h
  | loaded table kind found =>
    rw [final_of_ok hr]
    exact hcommit (isComplete_of_execute hr)
  | built sql input output failure kind planned =>
    rw [final_of_ok hr]
    exact hcommit (isComplete_of_execute hr)

theorem Complete.addStage (stage : Stage) (active : Option String) :
    (final (Action.addStage stage active) s).Complete :=
  Action.addStage_rule (I := Complete) (fun _ _ ht => ht)
    (fun stage active _ ht => ht.execute stage active) stage active h

theorem Complete.importFlow (mode : ImportMode) (keepIds : Bool) (candidates : List Value) :
    (final (Action.importFlow mode keepIds candidates) s).Complete := by
  have hrule := Action.importFlow_rule (I := Complete) (fun _ _ ht => ht) mode keepIds candidates
    (s := s) h (fun _ _ _ hst => absurd hst List.not_mem_nil) fun stage _ _ ht => ht.addStage stage none
  rcases hrule with ht | ⟨t, -, heq⟩
  · exact ht
  · rw [heq]
    exact h

theorem Complete.admitted {name source : String} {t : Session} (ht : Admitted name source s t) :
    t.Complete := by
  cases ht with
  | kept exchanges minted turns le => exact h
  | registered exchanges table turns id named sourced =>
    show ∀ stage ∈ (s.store.register table true).2.stages, stage.isComplete
    rw [Store.register_snd]
    exact h

theorem Complete.after (op : Operation) : (op.after s).Complete := by
  refine Operation.after_rule (I := Complete) (fun _ _ ht => ht) ?_ ?_ ?_ ?_ ?_
    (fun stage active _ ht => ht.execute stage active)
    (fun mode keepIds candidates _ ht => ht.importFlow mode keepIds candidates) h
  · intro file content t ht
    rcases Action.loadCsv_admitted file content t with hu | ⟨u, hu, heq⟩
    · exact ht.admitted hu
    · have htaken := ht.admitted hu
      have hminted : Complete { u with stagesMinted := u.stagesMinted + 1 } := htaken
      rw [heq]
      exact hminted.execute _ none
  · intro definition _ t ht
    rcases Action.createTable_admitted definition t with heq | ⟨d, -, hu⟩
    · rw [heq]
      exact ht
    · exact ht.admitted hu
  · intro id t ht
    rcases Action.deleteTable_cases id t with heq | ⟨table, store, failure, hr, heq⟩
    · rw [heq]
      exact ht
    · obtain ⟨-, -, rfl⟩ := Store.removeTable_eq_ok_iff.mp hr
      rw [heq]
      exact ht
  · intro id t table store hr ht
    obtain ⟨-, rfl⟩ := Store.setActive_eq_ok_iff.mp hr
    exact ht
  · intro id t stage store hr ht
    obtain ⟨i, -, -, rfl⟩ := Store.removeStage_eq_ok_iff.mp hr
    exact fun st hst => ht st ((List.eraseIdx_sublist ..).subset hst)

end

theorem Complete.graph_resolves {s : Session} (h : s.Complete) (hids : s.store.stageIds.Nodup) :
    ∃ nodes, Action.graph s = .ok (nodes, Graph.edges s.store.stages nodes) s ∧
      ∀ (i : Nat) (stage : Stage), s.store.stages[i]? = some stage →
        ∃ node, nodes.lookup? stage.id = some node ∧
          Graph.Resolves (s.store.stages.take i) stage node := by
  obtain ⟨nodes, hbuild, hresolves⟩ := Graph.build_resolves
    (fun stage hstage => Stage.referencedTables_of_isComplete (h stage hstage)) hids
  refine ⟨nodes, ?_, hresolves⟩
  have hnodes : Action.ofExcept (Graph.build s.store.stages) s = .ok nodes s := by rw [hbuild]; rfl
  unfold Action.graph
  rw [bind_of_ok (Action.store_apply s), bind_of_ok hnodes, pure_apply]

theorem complete_of_reachable {s : Session} (h : s.Reachable) : s.Complete := by
  obtain ⟨responder, previewRows, chatEnabled, ops, rfl⟩ := h
  exact afterAll_rule (fun op _ _ ht => ht.after op) (complete_opened responder previewRows chatEnabled)

end Session

end StagedSql
