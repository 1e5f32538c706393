import StagedSql.Proofs.Flow.Screening
import StagedSql.Proofs.Session.FlowRun
import StagedSql.Proofs.Session.Materialize
import StagedSql.Proofs.Session.Operation
import StagedSql.Proofs.Store.WellFormed

/-!
# Stage ids that are yet to be minted

Minted ids are new as long as nobody has used one before its time. What an operation adds to the
list of stages has an id that the operation was given, or one that was minted for it.
-/

namespace StagedSql

open Outcome Materialization

namespace Operation

/-- The ids that an operation may bring for stages that it adds to others. -/
def keptIds : Operation → List String
  | importFlow _ keepIds flow => Flow.keptIds keepIds (flow.elements?.getD [])
  | _ => []

end Operation

namespace Session

/-- No stage has an id that is yet to be minted. -/
def IdsNew (s : Session) : Prop :=
  ∀ n, s.stagesMinted < n → Stage.mintedId n ∉ s.store.stageIds

theorem idsNew_opened (responder : Engine.Responder) (previewRows : Int) (chatEnabled : Bool) :
    (opened responder previewRows chatEnabled).IdsNew := fun _ _ => List.not_mem_nil

/-- Neither a stage of the list nor one that the operation brings has an id that is yet to be
minted. -/
def MintsNew (s : Session) (op : Operation) : Prop :=
  s.IdsNew ∧ ∀ n, s.stagesMinted < n → Stage.mintedId n ∉ op.keptIds

end Session

theorem Store.mem_stageIds_commit {s : Store} {stage : Stage} {table : Table} {position : Int}
    {id : String} (hid : id ∈ (s.commit stage table position).2.stageIds) :
    id = stage.id ∨ id ∈ s.stageIds := by
  simp only [stageIds, Store.commit, foldl_evict] at hid
  exact mem_ids_placed.mp hid

namespace Session

theorem ids_execute (stage : Stage) (active : Option String) (s : Session) :
    (final (Action.execute stage active) s).stagesMinted = s.stagesMinted ∧
      ∀ id ∈ (final (Action.execute stage active) s).store.stageIds,
        id = stage.id ∨ id ∈ s.store.stageIds := by
  have houtcome := execute_outcome stage active s
  generalize hr : Action.execute stage active s = r at houtcome
  cases houtcome with
  | refused e refusal =>
    rw [final_of_error hr]
    exact ⟨rfl, fun id hid => .inr hid⟩
  | broken sql input fault c kind planned ran =>
    rw [final_of_error hr]
    exact ⟨rfl, fun id hid => .inr hid⟩
  | loaded table kind found =>
    rw [final_of_ok hr]
    exact ⟨rfl, fun id hid => Store.mem_stageIds_commit hid⟩
  | built sql input output failure kind planned =>
    rw [final_of_ok hr]
    exact ⟨rfl, fun id hid => Store.mem_stageIds_commit hid⟩

theorem IdsNew.execute {s : Session} (h : s.IdsNew) {stage : Stage}
    (hid : ∀ n, s.stagesMinted < n → Stage.mintedId n ≠ stage.id) (active : Option String) :
    (final (Action.execute stage active) s).IdsNew := by
  obtain ⟨hminted, hids⟩ := ids_execute stage active s
  intro n hn hmem
  rw [hminted] at hn
  rcases hids _ hmem with heq | hmem
  · exact hid n hn heq
  · exact h n hn hmem

theorem IdsNew.addStage_cases {s : Session} (h : s.IdsNew) (stage : Stage)
    (active : Option String) :
    (stage.id ∉ s.store.stageIds ∧
      Action.addStage stage active s = Action.execute stage active s) ∨
    ∃ id t, id = Stage.mintedId (s.stagesMinted + 1) ∧ id ∉ s.store.stageIds ∧
      t = { s with stagesMinted := s.stagesMinted + 1 } ∧ t.IdsNew ∧
      Action.addStage stage active s = Action.execute { stage with id } active t := by
  cases hi : (s.store.stageIndex? stage.id).isSome with
  | false =>
    refine .inl ⟨?_, Action.addStage_of_new active hi⟩
    exact Store.stageIndex?_eq_none_iff.mp (Option.not_isSome_iff_eq_none.mp (by simp [hi]))
  | true =>
    refine .inr ⟨_, _, rfl, h _ (Nat.lt_succ_self _), rfl, ?_, Action.addStage_of_taken active hi⟩
    exact fun n hn => h n (Nat.lt_of_succ_lt hn)

theorem IdsNew.addStage_rule {I : Session → Prop} {active : Option String}
    (hminted : ∀ s n, I s → I { s with stagesMinted := n })
    (hexecute : ∀ stage s, stage.id ∉ s.store.stageIds → I s →
      I (final (Action.execute stage active) s))
    {s : Session} (h : s.IdsNew) (stage : Stage) (hs : I s) :
    I (final (Action.addStage stage active) s) := by
  rcases h.addStage_cases stage active with ⟨hid, heq⟩ | ⟨id, t, -, hid, rfl, -, heq⟩
  · rw [final_congr heq]
    exact hexecute stage s hid hs
  · rw [final_congr heq]
    exact hexecute _ _ hid (hminted s _ hs)

theorem IdsNew.addStage {s : Session} (h : s.IdsNew) {stage : Stage}
    (hid : ∀ n, s.stagesMinted < n → Stage.mintedId n ≠ stage.id) (active : Option String) :
    (final (Action.addStage stage active) s).IdsNew ∧
      s.stagesMinted ≤ (final (Action.addStage stage active) s).stagesMinted := by
  rcases h.addStage_cases stage active with ⟨-, heq⟩ | ⟨id, t, rfl, -, rfl, ht, heq⟩
  · rw [final_congr heq, (ids_execute stage active s).1]
    exact ⟨h.execute hid active, Nat.le_refl _⟩
  · rw [final_congr heq, (ids_execute _ active _).1]
    refine ⟨ht.execute ?_ active, Nat.le_succ _⟩
    intro n hn heq
    have := Stage.mintedId_injective heq
    dsimp only at hn
    omega

theorem IdsNew.after_addStage {s : Session} (h : s.IdsNew) {stage : Stage}
    (hid : ∀ n, Stage.mintedId n ≠ stage.id) (active : Option String) :
    ((Operation.addStage stage active).after s).IdsNew := by
  rw [Operation.after, Operation.run, final_bind_pure]
  exact (h.addStage (fun n _ => hid n) active).1

/-- What adding a stage keeps as long as minted ids are new is kept by an import, or up to putting
the earlier stages back. -/
theorem IdsNew.importFlow_rule {I : Session → Prop}
    (hevents : ∀ s events, I s → I { s with events })
    (hminted : ∀ s n, I s → I { s with stagesMinted := n })
    (hreset : ∀ s, I s → I { s with store := s.store.resetStages.2 })
    (hadd : ∀ s stage, s.IdsNew → I s → I (final (Action.addStage stage none) s))
    (mode : ImportMode) {keepIds : Bool} {candidates : List Value} {s : Session} (h : s.IdsNew)
    (hkept : ∀ n, s.stagesMinted < n → Stage.mintedId n ∉ Flow.keptIds keepIds candidates)
    (hs : I s) :
    I (final (Action.importFlow mode keepIds candidates) s) ∨
      ∃ t, I t ∧ final (Action.importFlow mode keepIds candidates) s =
        { t with store := t.store.restoreStages s.store } := by
  have hle := (Flow.screen_traced keepIds 0 s.stagesMinted candidates).le
  -- An id that an accepted stage has is not minted any more, so it does no harm in the list.
  have hrule := Action.importFlow_rule (I := fun t => I t ∧ t.IdsNew ∧
      (Flow.screen keepIds 0 s.stagesMinted candidates).minted ≤ t.stagesMinted)
    (fun t _ ht => ⟨hevents t _ ht.1, ht.2⟩) mode keepIds candidates (s := s)
    ⟨hminted s _ hs, fun n hn => h n (Nat.lt_of_le_of_lt hle hn), Nat.le_refl _⟩
    (fun t ht => ⟨hreset t ht.1, fun n _ => List.not_mem_nil, ht.2.2⟩) ?_
  · rcases hrule with ht | ⟨t, ht, heq⟩
    · exact .inl ht.1
    · exact .inr ⟨t, ht.1, heq⟩
  · rintro stage hstage t ⟨ht, hnew, hle⟩
    have hid : ∀ n, t.stagesMinted < n → Stage.mintedId n ≠ stage.id := fun n hn =>
      Flow.mintedId_ne_of_screened hkept hstage (Nat.lt_of_le_of_lt hle hn)
    obtain ⟨hnew', hle'⟩ := hnew.addStage hid none
    exact ⟨hadd t stage hnew ht, hnew', Nat.le_trans hle hle'⟩

/-! ### Flows of new stages -/

/-- Neither a stage of the list nor one of `stages` has an id that is yet to be minted. -/
def AddsNew (s : Session) (stages : List Stage) : Prop :=
  s.IdsNew ∧ ∀ stage ∈ stages, ∀ n, s.stagesMinted < n → Stage.mintedId n ≠ stage.id

theorem AddsNew.addStage {s : Session} {stages : List Stage} (h : s.AddsNew stages) {stage : Stage}
    (hstage : stage ∈ stages) (active : Option String) :
    (final (Action.addStage stage active) s).AddsNew stages := by
  obtain ⟨hnew, hle⟩ := h.1.addStage (h.2 stage hstage) active
  exact ⟨hnew, fun st hst n hn => h.2 st hst n (Nat.lt_of_le_of_lt hle hn)⟩

theorem addsNew_flowStart {s : Session} {mode : ImportMode} {keepIds : Bool}
    {candidates : List Value} (hnew : mode = .replace ∨ s.IdsNew)
    (hkept : ∀ n, s.stagesMinted < n → Stage.mintedId n ∉ Flow.keptIds keepIds candidates) :
    (s.flowStart mode keepIds candidates).AddsNew
      (Flow.screen keepIds 0 s.stagesMinted candidates).accepted := by
  have hle := (Flow.screen_traced keepIds 0 s.stagesMinted candidates).le
  refine ⟨fun n hn => ?_, fun stage hstage n hn => Flow.mintedId_ne_of_screened hkept hstage hn⟩
  unfold flowStart
  by_cases hm : mode = .replace
  · simp only [if_pos hm]
    exact List.not_mem_nil
  · simp only [if_neg hm]
    exact hnew.resolve_left hm n (Nat.lt_of_le_of_lt hle hn)

/-- What executing stages with new ids keeps is kept along a flow. Failures and events do not matter,
as they leave the store alone. -/
theorem flowInvariant_of_new {stages : List Stage} {I : List Materialization → Session → Prop}
    (hsame : ∀ {results s t}, t.store = s.store → t.tablesMinted = s.tablesMinted →
      I results s → I results t)
    (hadd : ∀ {results s stage m t}, stage.id ∉ s.store.stageIds → I results s →
      Action.execute stage none s = .ok m t → I (results ++ [m]) t) :
    FlowInvariant stages fun _ results s => I results s ∧ s.AddsNew stages where
  reported := fun {_ _ t} _ ht => ⟨hsame (s := t) rfl rfl ht.1, ht.2⟩
  added := by
    intro done stage rest results t m u split ht hr
    have hstage : stage ∈ stages := split ▸ List.mem_append_right done (List.mem_cons_self ..)
    refine ⟨?_, final_of_ok hr ▸ ht.2.addStage hstage none⟩
    rcases ht.2.1.addStage_cases stage none with ⟨hid, heq⟩ | ⟨id, v, -, hid, rfl, -, heq⟩
    · exact hadd hid ht.1 (heq.symm.trans hr)
    · have hminted : I results { t with stagesMinted := t.stagesMinted + 1 } :=
        hsame (s := t) rfl rfl ht.1
      exact hadd hid hminted (heq.symm.trans hr)
  refused := by
    intro done stage rest results t fault u split ht hr
    have hstage : stage ∈ stages := split ▸ List.mem_append_right done (List.mem_cons_self ..)
    refine ⟨?_, final_of_error hr ▸ ht.2.addStage hstage none⟩
    rcases ht.2.1.addStage_cases stage none with ⟨-, heq⟩ | ⟨id, v, -, -, rfl, -, heq⟩
    · obtain ⟨c, rfl⟩ := execute_error (heq.symm.trans hr)
      exact hsame (s := t) rfl rfl ht.1
    · obtain ⟨c, rfl⟩ := execute_error (heq.symm.trans hr)
      exact hsame (s := t) rfl rfl ht.1

end Session

end StagedSql
