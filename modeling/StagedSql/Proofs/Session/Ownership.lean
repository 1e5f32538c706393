import StagedSql.Proofs.Session.Recording
import StagedSql.Proofs.Session.Restoring
import StagedSql.Proofs.Session.Step
import StagedSql.Proofs.TableName

/-!
# Whose output a table is

As long as no LOAD stage becomes a stage of another kind and no pipeline is put back after a failed
import, the output of a stage other than LOAD is a table that this stage has built, so no two such
stages have the same output.
-/

namespace StagedSql

open Outcome Materialization

namespace Operation

def DefinesResult : Operation → Prop
  | createTable definition =>
    ∃ d, TableDefinition.read definition = .ok d ∧ TableName.IsResult d.name
  | _ => False

def ConvertsLoad (s : Session) : Operation → Prop
  | updateStage id _ (some kind) _ _ =>
    kind ≠ .load ∧ ∃ stage, s.store.getStage id = .ok stage ∧ stage.kind = .load
  | _ => False

/-- The operation is an import that replaces the pipeline and reports a failure. -/
def FailsToReplace (s : Session) : Operation → Prop
  | importFlow mode keepIds flow => ∃ report t,
    Action.importAs mode keepIds flow s = .ok report t ∧ report.mode = .replace ∧
      report.succeeded = false
  | runAll => ∃ report t, Action.runAll s = .ok report t ∧ report.succeeded = false
  | _ => False

/-- What may be asked of a session if outputs are to stay with the stages that build them. -/
structure Orderly (s : Session) (op : Operation) : Prop where
  work : op.isPipelineWork
  ids : s.MintsNew op
  names : ¬ op.DefinesResult
  kinds : ¬ (op.ConvertsLoad s ∧ op.Returns s)
  imports : ¬ op.FailsToReplace s

end Operation

namespace Session

/-- A stage other than LOAD has built its output. -/
def OutputsOwned (s : Session) : Prop :=
  ∀ stage ∈ s.store.stages, stage.kind ≠ .load → ∀ id t, (stage.id, id) ∈ s.store.outputs →
    (id, t) ∈ s.store.tables → t.stageId = some stage.id

theorem OutputsOwned.of_mem {s t : Session} (h : s.OutputsOwned)
    (hstages : ∀ stage ∈ t.store.stages, stage ∈ s.store.stages)
    (houtputs : ∀ e ∈ t.store.outputs, e ∈ s.store.outputs)
    (htables : ∀ e ∈ t.store.tables, e ∈ s.store.tables) : t.OutputsOwned :=
  fun stage hstage hkind _ _ hout hmem =>
    h stage (hstages stage hstage) hkind _ _ (houtputs _ hout) (htables _ hmem)

section

variable {s : Session} (h : s.Consistent) (howned : s.OutputsOwned)
include h howned

/-- Executing a stage keeps outputs with their stages, unless it succeeds in the place of a LOAD stage
with a stage of another kind. -/
theorem OutputsOwned.execute {stage : Stage} {active : Option String}
    (hplace : stage.kind ≠ .load → fault? (Action.execute stage active) s = none →
      ∀ st ∈ s.store.stages, st.id = stage.id → st.kind ≠ .load) :
    (final (Action.execute stage active) s).OutputsOwned := by
  have houtcome := execute_outcome stage active s
  generalize hr : Action.execute stage active s = r at houtcome
  cases houtcome with
  | refused e refusal =>
    rw [final_of_error hr]
    exact howned
  | broken sql input fault c kind planned ran =>
    rw [final_of_error hr]
    exact howned
  | loaded table kind found =>
    have hmem := Store.Consistent.mem_of_loadedTable h found
    rw [final_of_ok hr]
    intro st hst hkind id t hout ht
    rcases h.wellFormed.output_commit hst hout ht with
      ⟨rfl, -⟩ | ⟨hold, -, hout', ⟨rfl, rfl⟩ | ht'⟩
    · exact absurd kind hkind
    · exact howned st hold hkind _ _ hout' hmem
    · exact howned st hold hkind id t hout' ht'
  | built sql input output failure kind planned =>
    have hplace := hplace kind (by simp only [fault?, hr])
    rw [final_of_ok hr]
    intro st hst hkind id t hout ht
    rcases h.wellFormed.output_commit hst hout ht with
      ⟨rfl, rfl⟩ | ⟨hst', hid, hout', ⟨rfl, -⟩ | ht'⟩
    · rfl
    · -- The two stages would have had the same output before.
      obtain ⟨own, hown, hkey⟩ := h.entryId_other (h.entryId stage _ output) hout'
      obtain ⟨hshared, hmem⟩ := (Store.Consistent.outputOf?_eq_some_iff h).mp hown
      obtain ⟨old, hold, hoid⟩ := List.mem_map.mp (h.wellFormed.owner_mem _ hshared)
      have hmine := howned old hold (hplace old hold hoid) own.id own (hoid ▸ hshared) hmem
      have hother := howned st hst' hkind own.id own (hkey ▸ hout') hmem
      have hsame : some st.id = some old.id := hother.symm.trans hmine
      exact absurd ((Option.some.inj hsame).trans hoid) hid
    · exact howned st hst' hkind id t hout' ht'

theorem OutputsOwned.admitted {name source : String} {t : Session}
    (hname : ¬ TableName.IsResult name) (ht : Admitted name source s t) : t.OutputsOwned := by
  cases ht with
  | kept exchanges minted turns le => exact howned
  | registered exchanges table turns id named sourced =>
    intro st hst hkind tid t hout ht
    rcases h.wellFormed.mem_tables_register.mp ht with heq | ⟨ht, -⟩
    · obtain ⟨rfl, rfl⟩ := Prod.mk.inj heq
      rcases Store.Consistent.register_cases h table true with ⟨e, he, hkey, hsame⟩ | heq
      · -- A result would hand on its name.
        have hresult := Store.Consistent.named h st hst hkind e.1 e.2 (hkey ▸ hout) he
        rw [hsame, named] at hresult
        exact absurd hresult hname
      · have hmem := h.wellFormed.output_mem _ hout
        rw [heq, id] at hmem
        exact absurd hmem (Store.Consistent.fresh h)
    · exact howned st hst hkind tid t hout ht

theorem OutputsOwned.importFlow {mode : ImportMode} {keepIds : Bool} {candidates : List Value}
    (hnew : s.IdsNew)
    (hkept : ∀ n, s.stagesMinted < n → Stage.mintedId n ∉ Flow.keptIds keepIds candidates)
    (hdone : ∀ report t, Action.importFlow mode keepIds candidates s = .ok report t →
      report.mode = .replace → report.succeeded = true) :
    (final (Action.importFlow mode keepIds candidates) s).OutputsOwned := by
  have hI : ∀ stages, FlowInvariant stages
      (fun _ _ t => (t.Consistent ∧ t.OutputsOwned) ∧ t.AddsNew stages) := by
    intro stages
    refine flowInvariant_of_new (I := fun _ t => t.Consistent ∧ t.OutputsOwned) ?_ ?_
    · intro _ t u hstore hminted ht
      refine ⟨ht.1.of_same hstore hminted, ht.2.of_mem ?_ ?_ ?_⟩ <;>
      · rw [hstore]
        exact fun _ h => h
    · intro _ t stage m u hid ht hr
      have hplace : ∀ st ∈ t.store.stages, st.id = stage.id → st.kind ≠ .load :=
        fun st hst heq => absurd (heq ▸ List.mem_map_of_mem hst) hid
      rw [← final_of_ok hr]
      exact ⟨(ht.1.execute stage none).1, ht.2.execute ht.1 fun _ _ => hplace⟩
  have hstart : (s.flowStart mode keepIds candidates).Consistent ∧
      (s.flowStart mode keepIds candidates).OutputsOwned := by
    unfold flowStart
    split
    · exact ⟨h.resetStages, fun _ hst => absurd hst List.not_mem_nil⟩
    · exact ⟨h, howned⟩
  rcases importFlow_flowRun mode (hI _).progress ⟨hstart, addsNew_flowStart (.inr hnew) hkept⟩ with
    ⟨fault, events, -, hr⟩ | ⟨forward, hrun⟩
  · rw [final_of_error hr]
    exact howned
  · generalize hr : Action.importFlow mode keepIds candidates s = r at hrun hdone
    cases hrun with
    | completed results t kept =>
      rw [final_of_ok hr]
      exact kept.1.2
    | broken done rest stage results fault u t split other started raised left =>
      rw [final_of_error hr]
      exact left.1.2
    | stopped done rest stage results e t split left =>
      rw [final_of_ok hr]
      unfold flowBefore
      split
      · next hm =>
        have hsucceeded : false = true := hdone _ _ rfl hm
        cases hsucceeded
      · exact left.1.2

end

theorem OutputsOwned.after {s : Session} (h : s.Consistent) (howned : s.OutputsOwned)
    {op : Operation} (hop : op.Orderly s) : (op.after s).OutputsOwned := by
  obtain ⟨hwork, ⟨hnew, hkept⟩, hnames, hkinds, himports⟩ := hop
  have hstep := Operation.step hwork hnew
  generalize op.after s = t at hstep
  cases hstep with
  | kept => exact howned
  | uploaded file content t admitted =>
    exact howned.admitted h (TableName.not_isResult_ofFile file) admitted
  | loaded file content stage t admitted kind =>
    have htaken := howned.admitted h (TableName.not_isResult_ofFile file) admitted
    have hconsistent := h.admitted admitted
    have hminted : Consistent { t with stagesMinted := t.stagesMinted + 1 } := hconsistent
    exact OutputsOwned.execute hminted htaken fun hkind => absurd kind hkind
  | created definition d t read admitted =>
    exact howned.admitted h (fun hresult => hnames ⟨d, read, hresult⟩) admitted
  | deletedTable id table store connection removed =>
    obtain ⟨-, -, rfl⟩ := Store.removeTable_eq_ok_iff.mp removed
    exact howned.of_mem (fun _ h => h) (fun _ h => h) fun _ h => List.mem_of_mem_filter h
  | activated id table store changed =>
    obtain ⟨-, rfl⟩ := Store.setActive_eq_ok_iff.mp changed
    exact howned
  | added stage active id minted new =>
    have hminted : Consistent { s with stagesMinted := minted } := h
    refine OutputsOwned.execute hminted howned fun _ _ st hst hid => ?_
    have hid : st.id = id := hid
    exact absurd (hid ▸ List.mem_map_of_mem hst) new
  | updated data fields kind description active stage found returns =>
    refine howned.execute h fun hkind hreturns st hst hid hload => ?_
    obtain rfl := h.wellFormed.eq_of_getStage found hst hid
    cases kind with
    | none => exact hkind hload
    | some kind => exact hkinds ⟨⟨hkind, st, found, hload⟩, returns.mpr hreturns⟩
  | rerun active stage found returns =>
    refine howned.execute h fun hkind _ st hst hid => ?_
    obtain rfl := h.wellFormed.eq_of_getStage found hst hid
    exact hkind
  | deletedStage id stage store removed =>
    obtain ⟨i, -, -, rfl⟩ := Store.removeStage_eq_ok_iff.mp removed
    exact howned.of_mem (fun _ h => (List.eraseIdx_sublist ..).subset h)
      (fun _ h => List.mem_of_mem_filter h) fun _ h => h
  | imported mode flow m keepIds candidates flows imports =>
    refine howned.importFlow h hnew ?_ fun report t hr hm => ?_
    · simpa only [Operation.keptIds, flows, Option.getD_some] using hkept
    · by_contra hfailed
      exact himports ⟨report, t, imports ▸ hr, hm, Bool.eq_false_iff.mpr hfailed⟩
  | ranAll =>
    refine howned.importFlow h hnew (fun n hn hmem => ?_) fun report t hr _ => ?_
    · exact hnew n hn (Flow.mem_ids_of_mem_keptIds (fun _ => rfl) hmem)
    · by_contra hfailed
      exact himports ⟨report, t, (Action.runAll_apply s).trans hr, Bool.eq_false_iff.mpr hfailed⟩

theorem ReachableBy.outputsOwned {s : Session} (h : s.ReachableBy Operation.Orderly) :
    s.OutputsOwned :=
  h.rule (fun _ _ _ _ hst => absurd hst List.not_mem_nil) fun ht howned hop => howned.after ht hop

/-- In every session that orderly operations lead to, the output of a stage other than LOAD is a
result that this stage has built, and no other such stage has it. -/
theorem outputs_owned {s : Session} (h : s.ReachableBy Operation.Orderly) :
    (∀ stage ∈ s.store.stages, stage.kind ≠ .load → ∀ id, s.store.outputs.lookup? stage.id = some id →
      ∃ t, s.store.tables.lookup? id = some t ∧ t.stageId = some stage.id ∧
        TableName.IsResult t.name) ∧
    ∀ stage ∈ s.store.stages, stage.kind ≠ .load → ∀ other ∈ s.store.stages, other.kind ≠ .load →
      ∀ id, s.store.outputs.lookup? stage.id = some id →
        s.store.outputs.lookup? other.id = some id → stage = other := by
  have hconsistent := h.consistent
  have howner : ∀ stage ∈ s.store.stages, stage.kind ≠ .load → ∀ id,
      s.store.outputs.lookup? stage.id = some id → ∃ t, s.store.tables.lookup? id = some t ∧
        t.stageId = some stage.id ∧ TableName.IsResult t.name := by
    intro stage hstage hkind id hl
    have hout := Keyed.mem_of_lookup? hl
    obtain ⟨t, ht⟩ := hconsistent.wellFormed.exists_table hout
    exact ⟨t, Keyed.lookup?_of_mem hconsistent.wellFormed.tables_nodup ht,
      h.outputsOwned stage hstage hkind id t hout ht,
      Store.Consistent.named hconsistent stage hstage hkind id t hout ht⟩
  refine ⟨howner, fun stage hstage hkind other hother hkind' id hl hl' => ?_⟩
  obtain ⟨t, ht, hmine, -⟩ := howner stage hstage hkind id hl
  obtain ⟨u, hu, htheirs, -⟩ := howner other hother hkind' id hl'
  obtain rfl : t = u := Option.some.inj (ht.symm.trans hu)
  have hid : stage.id = other.id := Option.some.inj (hmine.symm.trans htheirs)
  exact List.inj_on_of_nodup_map hconsistent.wellFormed.stages_nodup hstage hother hid

theorem orderly_addStage {s : Session} (stage : Stage) (hnew : s.IdsNew) :
    (Operation.addStage stage none).Orderly s where
  work := rfl
  ids := ⟨hnew, fun _ _ => List.not_mem_nil⟩
  names := fun h => h
  kinds := fun h => h.1
  imports := fun h => h

/-- Two stages that are added one after the other have built their outputs. -/
theorem paired_owned : paired.ReachableBy Operation.Orderly ∧
    ∃ t, paired.store.tables.lookup? (Table.mintedId 2) = some t ∧ t.stageId = some "b" := by
  have hpaired : paired.ReachableBy Operation.Orderly :=
    .after (.after (.opened _ _ _) (orderly_addStage _ (idsNew_opened _ _ _)))
      (orderly_addStage _ idsNew_single)
  have hstage : ⟨"b", .custom, "", [("sql", .text "SELECT 2")]⟩ ∈ paired.store.stages := by
    decide +kernel
  have hout : paired.store.outputs.lookup? "b" = some (Table.mintedId 2) := by decide +kernel
  obtain ⟨t, ht, hmine, -⟩ := (outputs_owned hpaired).1 _ hstage (by decide) _ hout
  exact ⟨hpaired, t, ht, hmine⟩

end Session

end StagedSql
