import StagedSql.Proofs.Session.Recording
import StagedSql.Proofs.Session.Restoring
import StagedSql.Proofs.Session.Step

/-!
# The tables that LOAD stages name

A LOAD stage has the table that it names as its output. That table gets another name only if a stage
of another kind has it as well and is executed again, at another position or as another kind: the
name is changed in place then, and the LOAD stage keeps the table.
-/

namespace StagedSql

open Outcome Materialization

theorem Value.eq_text_of_givenText? {v : Value} {s : String} (h : v.givenText? = some s) :
    v = .text s := by
  cases v with
  | text t =>
    simp only [givenText?] at h
    split at h
    · cases h
    · rw [Option.some.inj h]
  | _ => cases h

namespace Session

/-- The LOAD stage with the id, if there is one that has an output, has the table that it names. -/
def LoadNamed (loadId : String) (s : Session) : Prop :=
  ∀ stage ∈ s.store.stages, stage.id = loadId → stage.kind = .load → ∀ id,
    s.store.outputs.lookup? loadId = some id →
      ∃ t, s.store.tables.lookup? id = some t ∧ stage.entry "tableName" = .text t.name

def Renames (loadId : String) (s : Session) (stage : Stage) : Prop :=
  stage.kind ≠ .load ∧ stage.id ≠ loadId ∧
    (∃ load ∈ s.store.stages, load.id = loadId ∧ load.kind = .load) ∧
    ∃ t, s.store.outputOf? stage.id = some t ∧ s.store.outputOf? loadId = some t ∧
      t.name ≠ outputName s stage

section

variable {loadId : String} {s : Session} (h : s.Consistent)
include h

theorem Consistent.loadNamed_iff :
    s.LoadNamed loadId ↔ ∀ stage ∈ s.store.stages, stage.id = loadId → stage.kind = .load →
      ∀ id t, (loadId, id) ∈ s.store.outputs → (id, t) ∈ s.store.tables →
        stage.entry "tableName" = .text t.name := by
  constructor
  · intro hn stage hstage hid hkind id t hout ht
    obtain ⟨u, hu, hname⟩ :=
      hn stage hstage hid hkind id (Keyed.lookup?_of_mem h.wellFormed.outputs_nodup hout)
    have heq := h.wellFormed.eq_of_key_eq (Keyed.mem_of_lookup? hu) ht rfl
    rw [hname, (Prod.mk.inj heq).2]
  · intro hn stage hstage hid hkind id hl
    have hout := Keyed.mem_of_lookup? hl
    obtain ⟨t, ht⟩ := h.wellFormed.exists_table hout
    exact ⟨t, Keyed.lookup?_of_mem h.wellFormed.tables_nodup ht,
      hn stage hstage hid hkind id t hout ht⟩

theorem Consistent.givenText?_of_loadedTable {stage : Stage} {t : Table}
    (ht : loadedTable s.store stage = .ok t) :
    (stage.entry "tableName").givenText? = some t.name := by
  simp only [loadedTable] at ht
  split at ht
  · next u hu =>
    obtain rfl : u = t := Except.ok.inj ht
    obtain ⟨name, hgiven, hnamed⟩ := Option.bind_eq_some_iff.mp hu
    rwa [(h.wellFormed.tableNamed?_eq_some_iff.mp hnamed).2]
  · cases ht

theorem Consistent.entry_of_loadedTable {stage : Stage} {t : Table}
    (ht : loadedTable s.store stage = .ok t) : stage.entry "tableName" = .text t.name :=
  Value.eq_text_of_givenText? (h.givenText?_of_loadedTable ht)

theorem LoadNamed.of_namesKept (hn : s.LoadNamed loadId) {t : Session} (ht : t.Consistent)
    (hk : s.NamesKept t) (hstages : ∀ stage ∈ t.store.stages, stage ∈ s.store.stages)
    (houtputs : ∀ e ∈ t.store.outputs, e ∈ s.store.outputs) : t.LoadNamed loadId := by
  refine ht.loadNamed_iff.mpr fun stage hstage hid hkind id new hout hnew => ?_
  have hout := houtputs _ hout
  obtain ⟨old, hold⟩ := h.wellFormed.exists_table hout
  rw [h.name_eq hk hold hnew]
  exact h.loadNamed_iff.mp hn stage (hstages stage hstage) hid hkind id old hout hold

/-- Executing a stage keeps the names, unless it succeeds in renaming the output that it shares with
the LOAD stage. -/
theorem LoadNamed.execute (hn : s.LoadNamed loadId) {stage : Stage} {active : Option String}
    (hspared : fault? (Action.execute stage active) s = none → ¬ Renames loadId s stage) :
    (final (Action.execute stage active) s).LoadNamed loadId := by
  have hafter := (h.execute stage active).1
  have hnamed := h.loadNamed_iff.mp hn
  have houtcome := execute_outcome stage active s
  generalize hr : Action.execute stage active s = r at houtcome
  cases houtcome with
  | refused e refusal =>
    rw [final_of_error hr]
    exact hn
  | broken sql input fault c kind planned ran =>
    rw [final_of_error hr]
    exact hn
  | loaded table kind found =>
    have hmem := Store.Consistent.mem_of_loadedTable h found
    rw [final_of_ok hr] at hafter ⊢
    refine hafter.loadNamed_iff.mpr fun st hst hid hload id t hout ht => ?_
    rcases h.wellFormed.output_commit hst (hid ▸ hout) ht with
      ⟨rfl, rfl⟩ | ⟨hold, -, hout', ⟨rfl, rfl⟩ | ht'⟩
    · exact h.entry_of_loadedTable found
    · exact hnamed st hold hid hload _ _ (hid ▸ hout') hmem
    · exact hnamed st hold hid hload id t (hid ▸ hout') ht'
  | built sql input output failure kind planned =>
    have hspared := hspared (by simp only [fault?, hr])
    rw [final_of_ok hr] at hafter ⊢
    refine hafter.loadNamed_iff.mpr fun st hst hid hload id t hout ht => ?_
    rcases h.wellFormed.output_commit hst (hid ▸ hout) ht with
      ⟨rfl, -⟩ | ⟨hst', hother, hout', ⟨rfl, rfl⟩ | ht'⟩
    · exact absurd hload kind
    · -- The two stages have had the same output before, so it has kept its name.
      obtain ⟨own, hown, hkey⟩ := h.entryId_other (h.entryId stage _ output) hout'
      have hmem := ((Store.Consistent.outputOf?_eq_some_iff h).mp hown).2
      have hload' : (loadId, own.id) ∈ s.store.outputs := hid ▸ hkey ▸ hout'
      have hshared := (Store.Consistent.outputOf?_eq_some_iff h).mpr ⟨hload', hmem⟩
      have hne : stage.id ≠ loadId := fun heq => hother (hid.trans heq.symm)
      have hsame : own.name = outputName s stage := by
        by_contra hname
        exact hspared ⟨kind, hne, ⟨st, hst', hid, hload⟩, own, hown, hshared, hname⟩
      rw [hnamed st hst' hid hload own.id own hload' hmem, hsame]
      rfl
    · exact hnamed st hst' hid hload id t (hid ▸ hout') ht'

theorem LoadNamed.admitted (hn : s.LoadNamed loadId) {name source : String} {t : Session}
    (ht : Admitted name source s t) : t.LoadNamed loadId := by
  have hafter := h.admitted ht
  have hk := h.namesKept_admitted ht
  refine hn.of_namesKept h hafter hk ?_ ?_
  · cases ht <;> exact fun _ hst => hst
  · cases ht <;> exact fun _ hout => hout

theorem Consistent.not_renames {stage : Stage} (hid : stage.id ∉ s.store.stageIds) :
    ¬ Renames loadId s stage := by
  rintro ⟨-, -, -, own, hown, -⟩
  rw [Store.Consistent.outputOf?_eq_none h hid] at hown
  cases hown

/-- An import has stages with new ids only, so it renames nothing, also not when it puts the earlier
stages back. -/
theorem LoadNamed.importFlow (hn : s.LoadNamed loadId) (mode : ImportMode) {keepIds : Bool}
    {candidates : List Value} (hnew : s.IdsNew)
    (hkept : ∀ n, s.stagesMinted < n → Stage.mintedId n ∉ Flow.keptIds keepIds candidates) :
    (final (Action.importFlow mode keepIds candidates) s).LoadNamed loadId := by
  have hafter := h.importFlow mode keepIds candidates
  have hexecute : ∀ stage t, stage.id ∉ t.store.stageIds →
      t.Consistent ∧ t.LoadNamed loadId ∧ s.NamesKept t →
      (final (Action.execute stage none) t).Consistent ∧
        (final (Action.execute stage none) t).LoadNamed loadId ∧
          s.NamesKept (final (Action.execute stage none) t) := by
    rintro stage t hid ⟨ht, hnamed, hk⟩
    have hnone := Store.Consistent.outputOf?_eq_none ht hid
    refine ⟨(ht.execute stage none).1, hnamed.execute ht fun _ => ht.not_renames hid,
      hk.trans (ht.namesKept_execute fun _ own hown => ?_)⟩
    rw [hnone] at hown
    cases hown
  have hminted : ∀ t n, t.Consistent ∧ t.LoadNamed loadId ∧ s.NamesKept t →
      Consistent { t with stagesMinted := n } ∧ LoadNamed loadId { t with stagesMinted := n } ∧
        s.NamesKept { t with stagesMinted := n } :=
    fun _ _ ⟨ht, hnamed, hk⟩ => ⟨ht, hnamed, ⟨hk.le, hk.entries⟩⟩
  have hrule := hnew.importFlow_rule
    (I := fun t => t.Consistent ∧ t.LoadNamed loadId ∧ s.NamesKept t)
    (fun _ _ ⟨ht, hnamed, hk⟩ => ⟨ht, hnamed, ⟨hk.le, hk.entries⟩⟩) hminted
    (fun t ⟨ht, _, hk⟩ => ⟨ht.resetStages, fun _ hst => absurd hst List.not_mem_nil,
      ⟨hk.le, hk.entries⟩⟩)
    (fun t stage hids ht => hids.addStage_rule hminted hexecute stage ht)
    mode hkept ⟨h, hn, .refl s⟩
  rcases hrule with ht | ⟨t, ⟨-, -, hk⟩, heq⟩
  · exact ht.2.1
  · rw [heq] at hafter ⊢
    exact hn.of_namesKept h hafter ⟨hk.le, hk.entries⟩ (fun _ hst => hst)
      fun _ hout => List.mem_of_mem_filter hout

end

end Session

namespace Operation

/-- The operation executes a stage again and renames the output that it shares with a LOAD stage. -/
def RenamesLoaded (loadId : String) (s : Session) : Operation → Prop
  | updateStage id _ kind _ _ => ∃ stage, s.store.getStage id = .ok stage ∧
    s.Renames loadId { stage with kind := kind.getD stage.kind }
  | rerunStage id _ => ∃ stage, s.store.getStage id = .ok stage ∧ s.Renames loadId stage
  | _ => False

/-- What may be asked of a session if a LOAD stage is to have the table that it names. -/
structure SparesLoaded (loadId : String) (s : Session) (op : Operation) : Prop where
  work : op.isPipelineWork
  ids : s.MintsNew op
  names : ¬ (op.RenamesLoaded loadId s ∧ op.Returns s)

end Operation

namespace Session

theorem LoadNamed.after {loadId : String} {s : Session} (h : s.Consistent)
    (hn : s.LoadNamed loadId) {op : Operation} (hop : op.SparesLoaded loadId s) :
    (op.after s).LoadNamed loadId := by
  obtain ⟨hwork, ⟨hnew, hkept⟩, hnames⟩ := hop
  have hstep := Operation.step hwork hnew
  have hafter := h.after op
  generalize op.after s = t at hstep hafter
  cases hstep with
  | kept => exact hn
  | uploaded file content t admitted => exact hn.admitted h admitted
  | loaded file content stage t admitted kind =>
    have hconsistent := h.admitted admitted
    have hminted : Consistent { t with stagesMinted := t.stagesMinted + 1 } := hconsistent
    have htaken := hn.admitted h admitted
    exact LoadNamed.execute hminted htaken fun _ hrenames => hrenames.1 kind
  | created definition d t read admitted => exact hn.admitted h admitted
  | deletedTable id table store connection removed =>
    obtain ⟨-, -, rfl⟩ := Store.removeTable_eq_ok_iff.mp removed
    exact hn.of_namesKept h hafter
      (.of_mem (Nat.le_refl _) fun _ he => List.mem_of_mem_filter he) (fun _ hst => hst)
      fun _ hout => hout
  | activated id table store changed =>
    obtain ⟨-, rfl⟩ := Store.setActive_eq_ok_iff.mp changed
    exact hn
  | added stage active id minted new =>
    have hminted : Consistent { s with stagesMinted := minted } := h
    exact LoadNamed.execute hminted hn fun _ => hminted.not_renames new
  | updated data fields kind description active stage found returns =>
    refine hn.execute h fun hreturns hrenames => ?_
    exact hnames ⟨⟨stage, found, hrenames⟩, returns.mpr hreturns⟩
  | rerun active stage found returns =>
    refine hn.execute h fun hreturns hrenames => ?_
    exact hnames ⟨⟨stage, found, hrenames⟩, returns.mpr hreturns⟩
  | deletedStage id stage store removed =>
    obtain ⟨i, -, -, rfl⟩ := Store.removeStage_eq_ok_iff.mp removed
    exact hn.of_namesKept h hafter (.of_mem (Nat.le_refl _) fun _ he => he)
      (fun _ hst => (List.eraseIdx_sublist ..).subset hst) fun _ hout => List.mem_of_mem_filter hout
  | imported mode flow m keepIds candidates flows imports =>
    refine hn.importFlow h m hnew ?_
    simpa only [Operation.keptIds, flows, Option.getD_some] using hkept
  | ranAll =>
    exact hn.importFlow h .replace hnew fun n hn hmem =>
      hnew n hn (Flow.mem_ids_of_mem_keptIds (fun _ => rfl) hmem)

/-- After every run that does not rename the table of a LOAD stage together with the output of
another stage, the LOAD stage has the table that it names. -/
theorem loadNamed_of_spared {loadId : String} {s : Session}
    (h : s.ReachableBy (Operation.SparesLoaded loadId)) : s.LoadNamed loadId :=
  h.rule (fun _ _ _ _ hst => absurd hst List.not_mem_nil) fun ht hn hop => hn.after ht hop

theorem sparesLoaded_addStage {loadId : String} {s : Session} (stage : Stage) (hnew : s.IdsNew) :
    (Operation.addStage stage none).SparesLoaded loadId s :=
  ⟨rfl, ⟨hnew, fun _ _ => List.not_mem_nil⟩, fun hc => hc.1⟩

def resultLoaded : Session :=
  (Operation.addStage ⟨"c", .load, "", [("tableName", .text "result_stage_1_custom")]⟩ none).after
    paired

theorem resultLoaded_named : resultLoaded.ReachableBy (Operation.SparesLoaded "c") ∧
    resultLoaded.store.outputs.lookup? "c" = some (Table.mintedId 2) ∧
      resultLoaded.LoadNamed "c" := by
  have hpaired : paired.ReachableBy (Operation.SparesLoaded "c") :=
    .after (.after (.opened _ _ _) (sparesLoaded_addStage _ (idsNew_opened _ _ _)))
      (sparesLoaded_addStage _ idsNew_single)
  have hloaded : resultLoaded.ReachableBy (Operation.SparesLoaded "c") :=
    .after hpaired (sparesLoaded_addStage _ idsNew_paired)
  exact ⟨hloaded, by decide +kernel, loadNamed_of_spared hloaded⟩

def resultShifted : Session :=
  (Operation.updateStage "b" (.object [("sql", .text "SELECT 3")]) none none none).after
    ((Operation.deleteStage "a").after resultLoaded)

/-- The output gets the name of the first place then, and the LOAD stage keeps it. -/
theorem resultShifted_renamed : resultShifted.Reachable ∧
    resultShifted.store.outputs.lookup? "c" = some (Table.mintedId 2) ∧
      (resultShifted.store.tables.lookup? (Table.mintedId 2)).map (·.name) =
        some "result_stage_0_custom" ∧ ¬ resultShifted.LoadNamed "c" := by
  have hreachable : resultShifted.Reachable := ((reachable_paired.after _).after _).after _
  have hstage : ⟨"c", .load, "", [("tableName", .text "result_stage_1_custom")]⟩ ∈
      resultShifted.store.stages := by decide +kernel
  have hout : resultShifted.store.outputs.lookup? "c" = some (Table.mintedId 2) := by
    decide +kernel
  have hname : (resultShifted.store.tables.lookup? (Table.mintedId 2)).map (·.name) =
      some "result_stage_0_custom" := by decide +kernel
  refine ⟨hreachable, hout, hname, fun hnamed => ?_⟩
  obtain ⟨t, ht, hentry⟩ := hnamed _ hstage rfl rfl _ hout
  rw [ht, Option.map_some] at hname
  rw [Option.some.inj hname] at hentry
  revert hentry
  decide

end Session

end StagedSql
