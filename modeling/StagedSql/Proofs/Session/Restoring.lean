import StagedSql.Proofs.Session.Recording
import StagedSql.Proofs.Store.Versions

/-!
# What a failed import puts back

An import that replaces the pipeline starts with an empty list of stages. Its stages may take over or
evict the tables of the earlier ones before one of them fails. The earlier stages come back then, with
those of their outputs that are left; what an output holds is not put back.
-/

namespace StagedSql

open Outcome Materialization

def Materialization.built (results : List Materialization) : List Table :=
  (results.filter fun m => m.stage.kind ≠ .load).map (·.table)

theorem Materialization.built_append (results : List Materialization) (m : Materialization) :
    built (results ++ [m]) =
      if m.stage.kind = .load then built results else built results ++ [m.table] := by
  by_cases hk : m.stage.kind = .load
  · simp [built, hk]
  · simp [built, hk]

def ImportReport.built (report : ImportReport) : List Table := Materialization.built report.results

namespace Session

/-- The stages and the map of `s`, as far as the catalogue still has their tables, under a higher
version. -/
structure PipelineRestored (s t : Session) : Prop where
  stages : t.store.stages = s.store.stages
  outputs : t.store.outputs = s.store.outputs.filter fun e => e.2 ∈ t.store.tables.keys
  active : ∀ id, s.store.active = some id → id ∈ t.store.tables.keys → t.store.active = some id
  version : s.store.version < t.store.version

theorem version_execute (stage : Stage) (active : Option String) (s : Session) :
    s.store.version ≤ (final (Action.execute stage active) s).store.version := by
  have houtcome := execute_outcome stage active s
  generalize hr : Action.execute stage active s = r at houtcome
  cases houtcome with
  | refused e refusal =>
    rw [final_of_error hr]
  | broken sql input fault c kind planned ran =>
    rw [final_of_error hr]
  | loaded table kind found =>
    rw [final_of_ok hr]
    exact Nat.le_of_lt (s.store.version_commit stage _ _ ▸ Nat.lt_succ_self _)
  | built sql input output failure kind planned =>
    rw [final_of_ok hr]
    exact Nat.le_of_lt (s.store.version_commit stage _ _ ▸ Nat.lt_succ_self _)

theorem version_addStage {version : Nat} (stage : Stage) (active : Option String) {s : Session}
    (h : version < s.store.version) :
    version < (final (Action.addStage stage active) s).store.version := by
  refine Action.addStage_rule (I := fun t => version < t.store.version) (fun _ _ ht => ht) ?_
    stage active h
  exact fun stage active t ht => Nat.lt_of_lt_of_le ht (version_execute stage active t)

/-- Whatever the stages of the flow have done to the catalogue, a failed import puts the pipeline
back. -/
theorem pipelineRestored_of_failed {s t : Session} {report : ImportReport}
    (h : (∃ keepIds candidates, Action.importFlow .replace keepIds candidates s = .ok report t) ∨
      Action.runAll s = .ok report t)
    (hfailed : report.succeeded = false) : s.PipelineRestored t := by
  have himport : ∃ keepIds candidates,
      Action.importFlow .replace keepIds candidates s = .ok report t := by
    rcases h with h | h
    · exact h
    · exact ⟨true, _, (Action.runAll_apply s).symm.trans h⟩
  obtain ⟨keepIds, candidates, hr⟩ := himport
  -- The version goes up once when the stages are wiped and never down.
  have hI : FlowInvariant (Flow.screen keepIds 0 s.stagesMinted candidates).accepted
      (fun _ _ u => s.store.version < u.store.version) :=
    .of_final (fun _ _ hu => hu) fun stage _ u hu => version_addStage stage none hu
  have hstart : s.store.version < (s.flowStart .replace keepIds candidates).store.version :=
    Nat.lt_succ_self _
  obtain ⟨done, u, hversion, rfl⟩ := importFlow_failed hI hstart hr hfailed
  refine ⟨rfl, rfl, fun id hid hmem => ?_, Nat.lt_succ_of_lt hversion⟩
  have hmem : id ∈ u.store.tables.keys := hmem
  simp only [Store.restoreStages, hid, if_pos hmem]

def paired : Session :=
  (Operation.addStage ⟨"b", .custom, "", [("sql", .text "SELECT 2")]⟩ none).after single

theorem idsNew_single : single.IdsNew :=
  (idsNew_opened _ _ _).after_addStage (Stage.mintedId_ne_of_short (by decide)) none

theorem idsNew_paired : paired.IdsNew :=
  idsNew_single.after_addStage (Stage.mintedId_ne_of_short (by decide)) none

theorem reachable_paired : paired.Reachable :=
  reachable_single.after _

/-- A flow of a stage that runs and one that names a table that is not there. -/
def halting : List Value :=
  [.object [("type", .text "CUSTOM"), ("data", .object [("sql", .text "SELECT 3")])],
    .object [("type", .text "LOAD"), ("data", .object [("tableName", .text "missing")])]]

theorem paired_halts : ∃ report,
    Action.importFlow .replace false halting paired =
        .ok report (final (Action.importFlow .replace false halting) paired) ∧
      report.succeeded = false ∧ report.built.map (·.name) = ["result_stage_0_custom"] := by
  have h : (result? (Action.importFlow .replace false halting) paired).map
      (fun r => (r.succeeded, r.built.map (·.name))) = some (false, ["result_stage_0_custom"]) := by
    decide +kernel
  obtain ⟨report, hr, heq⟩ := Option.map_eq_some_iff.mp h
  obtain ⟨hfailed, hbuilt⟩ := Prod.mk.inj heq
  exact ⟨report, ok_of_result? hr, hfailed, hbuilt⟩

theorem paired_restored : ∃ report t,
    Action.importFlow .replace false halting paired = .ok report t ∧ report.succeeded = false ∧
      paired.PipelineRestored t := by
  obtain ⟨report, hr, hfailed, -⟩ := paired_halts
  exact ⟨report, _, hr, hfailed, pipelineRestored_of_failed (.inl ⟨_, _, hr⟩) hfailed⟩

/-! ### The outputs that come back -/

/-- What a flow makes of the catalogue of `s`: it takes out only tables whose names its outputs
get, and adds only its outputs. -/
structure Overbuilt (s : Session) (results : List Materialization) (t : Session) : Prop where
  consistent : t.Consistent
  names : s.NamesKept t
  kept : ∀ e ∈ s.store.tables, e.2.name ∉ (built results).map (·.name) → e ∈ t.store.tables
  added : ∀ e ∈ t.store.tables, e ∈ s.store.tables ∨ e.2 ∈ built results

theorem Overbuilt.of_same {s t u : Session} {results : List Materialization}
    (h : s.Overbuilt results t) (hstore : u.store = t.store)
    (hminted : u.tablesMinted = t.tablesMinted) : s.Overbuilt results u := by
  refine ⟨h.consistent.of_same hstore hminted, h.names.of_same hstore hminted, ?_, ?_⟩
  · rw [hstore]
    exact h.kept
  · rw [hstore]
    exact h.added

theorem Overbuilt.execute {s t u : Session} {results : List Materialization} {stage : Stage}
    {m : Materialization} (h : s.Overbuilt results t) (hid : stage.id ∉ t.store.stageIds)
    (hr : Action.execute stage none t = .ok m u) : s.Overbuilt (results ++ [m]) u := by
  have hnone := Store.Consistent.outputOf?_eq_none h.consistent hid
  have hconsistent := (h.consistent.execute stage none).1
  have hnames : t.NamesKept (final (Action.execute stage none) t) :=
    h.consistent.namesKept_execute fun _ table htable => by
      rw [hnone] at htable
      cases htable
  rw [final_of_ok hr] at hconsistent hnames
  have houtcome := execute_outcome stage none t
  rw [hr] at houtcome
  cases houtcome with
  | loaded table kind found =>
    have hmem := Store.Consistent.mem_of_loadedTable h.consistent found
    refine ⟨hconsistent, h.names.trans hnames, fun e he hname => ?_, fun e he => ?_⟩
    · rw [built_append, if_pos kind] at hname
      exact (h.consistent.wellFormed.mem_tables_commit_of_mem hmem).mpr (h.kept e he hname)
    · rw [built_append, if_pos kind]
      exact h.added e ((h.consistent.wellFormed.mem_tables_commit_of_mem hmem).mp he)
  | built sql input output failure kind planned =>
    refine ⟨hconsistent, h.names.trans hnames, fun e he hname => ?_, fun e he => ?_⟩
    · rw [built_append, if_neg kind, List.map_append, List.mem_append, not_or] at hname
      obtain ⟨hold, hnew⟩ := hname
      have hother : e.2.name ≠ outputName t stage := fun heq => hnew (List.mem_singleton.mpr heq)
      exact (h.consistent.mem_tables_built hnone).mpr (.inr ⟨h.kept e he hold, hother⟩)
    · rw [built_append, if_neg kind, List.mem_append]
      rcases (h.consistent.mem_tables_built hnone).mp he with rfl | ⟨he, -⟩
      · exact .inr (.inr (List.mem_singleton_self _))
      · exact (h.added e he).imp_right .inl

theorem Overbuilt.outputs_restored {s t : Session} {results : List Materialization}
    (h : s.Overbuilt results t) (hbefore : s.Consistent)
    (hafter : (t.store.restoreStages s.store).Consistent t.tablesMinted) (stageId : String) :
    (s.store.outputOf? stageId = none →
      (t.store.restoreStages s.store).outputOf? stageId = none) ∧
    ∀ table, s.store.outputOf? stageId = some table →
      (table.name ∉ (built results).map (·.name) →
        (t.store.restoreStages s.store).outputOf? stageId = some table) ∧
      ∀ now, (t.store.restoreStages s.store).outputOf? stageId = some now →
        now.id = table.id ∧ now.name = table.name ∧ (now = table ∨ now ∈ built results) := by
  have hback : ∀ {now}, (t.store.restoreStages s.store).outputOf? stageId = some now →
      (stageId, now.id) ∈ s.store.outputs ∧ (now.id, now) ∈ t.store.tables := by
    intro now hnow
    obtain ⟨hout, hmem⟩ := hafter.outputOf?_eq_some_iff.mp hnow
    exact ⟨List.mem_of_mem_filter hout, hmem⟩
  constructor
  · intro hnone
    by_contra hsome
    obtain ⟨now, hnow⟩ := Option.ne_none_iff_exists'.mp hsome
    obtain ⟨old, hold, -⟩ := Store.Consistent.exists_outputOf? hbefore (hback hnow).1
    rw [hnone] at hold
    cases hold
  · intro table htable
    obtain ⟨hout, hmem⟩ := (Store.Consistent.outputOf?_eq_some_iff hbefore).mp htable
    refine ⟨fun hname => ?_, fun now hnow => ?_⟩
    · have hkept := h.kept _ hmem hname
      refine hafter.outputOf?_eq_some_iff.mpr ⟨?_, hkept⟩
      exact List.mem_filter.mpr ⟨hout, decide_eq_true (Keyed.mem_keys_of_mem hkept)⟩
    · obtain ⟨hout', hmem'⟩ := hback hnow
      have hid := hbefore.wellFormed.output_eq hout' hout
      rw [hid] at hmem'
      refine ⟨hid, hbefore.name_eq h.names hmem hmem', ?_⟩
      rcases h.added _ hmem' with hold | hbuilt
      · exact .inl (congrArg Prod.snd (hbefore.wellFormed.eq_of_key_eq hold hmem rfl))
      · exact .inr hbuilt

/-- After a failed import that has kept no ids, a stage of the earlier pipeline has the output that it
had, unless the import has built an output of that name: then it has that one, or none. -/
theorem outputs_of_failed {s t : Session} {report : ImportReport} {candidates : List Value}
    (hs : s.Reachable)
    (h : Action.importFlow .replace false candidates s = .ok report t)
    (hfailed : report.succeeded = false) (stageId : String) :
    (s.store.outputOf? stageId = none → t.store.outputOf? stageId = none) ∧
    ∀ table, s.store.outputOf? stageId = some table →
      (table.name ∉ report.built.map (·.name) → t.store.outputOf? stageId = some table) ∧
      ∀ now, t.store.outputOf? stageId = some now →
        now.id = table.id ∧ now.name = table.name ∧ (now = table ∨ now ∈ report.built) := by
  have hbefore := consistent_of_reachable hs
  have hafter : t.Consistent := final_of_ok h ▸ hbefore.importFlow .replace false candidates
  have hI : FlowInvariant (Flow.screen false 0 s.stagesMinted candidates).accepted
      (fun _ results u => s.Overbuilt results u ∧ u.AddsNew _) :=
    flowInvariant_of_new (fun hstore hminted hu => hu.of_same hstore hminted)
      fun hid hu hr => hu.execute hid hr
  have hstart : s.Overbuilt [] (s.flowStart .replace false candidates) :=
    ⟨hbefore.resetStages, .of_mem (Nat.le_refl _) fun _ he => he, fun _ he _ => he,
      fun _ he => .inl he⟩
  have hnew : (s.flowStart .replace false candidates).AddsNew _ :=
    addsNew_flowStart (.inl rfl) fun _ _ => List.not_mem_nil
  obtain ⟨done, u, ⟨hover, -⟩, rfl⟩ := importFlow_failed hI ⟨hstart, hnew⟩ h hfailed
  exact hover.outputs_restored hbefore hafter stageId

/-- The output of a stage comes back if the import has built none of its name. -/
theorem second_output_kept : ∃ report t table,
    Action.importFlow .replace false halting paired = .ok report t ∧ report.succeeded = false ∧
      paired.store.outputOf? "b" = some table ∧ table.name ∉ report.built.map (·.name) ∧
      t.store.outputOf? "b" = some table := by
  obtain ⟨report, hr, hfailed, hbuilt⟩ := paired_halts
  have hname : (paired.store.outputOf? "b").map (·.name) = some "result_stage_1_custom" := by
    decide +kernel
  obtain ⟨table, htable, hname⟩ := Option.map_eq_some_iff.mp hname
  have hother : table.name ∉ report.built.map (·.name) := by
    rw [hbuilt, hname]
    decide
  have hkept := ((outputs_of_failed reachable_paired hr hfailed "b").2 table htable).1 hother
  exact ⟨report, _, table, hr, hfailed, htable, hother, hkept⟩

/-- The import has built its output in the place of that of the first stage, which comes back with
it. -/
theorem first_output_overwritten : ∃ report t,
    paired.Reachable ∧ Action.importFlow .replace false halting paired = .ok report t ∧
      report.succeeded = false ∧ t.store.stageIds = ["a", "b"] ∧
      (paired.store.outputOf? "a").map (fun table => (table.id, table.stageId)) =
        some (Table.mintedId 1, some "a") ∧
      (t.store.outputOf? "a").map (fun table => (table.id, table.stageId)) =
        some (Table.mintedId 1, some (Stage.mintedId 1)) := by
  obtain ⟨report, hr, hfailed, -⟩ := paired_halts
  exact ⟨report, _, reachable_paired, hr, hfailed, by decide +kernel, by decide +kernel,
    by decide +kernel⟩

end Session

end StagedSql
