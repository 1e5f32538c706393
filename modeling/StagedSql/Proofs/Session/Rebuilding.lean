import StagedSql.Proofs.Flow.Interchange
import StagedSql.Proofs.Session.Completeness
import StagedSql.Proofs.Session.LoadedNames

/-!
# What a successful import rebuilds

An import that replaces the pipeline adds its stages one after the other to an empty list. A stage's
output has the name of the stage's position, so no later stage takes it away, whatever else the
catalogue holds.
-/

namespace StagedSql

open Outcome Materialization

/-! ### Adding a stage at the end -/

theorem Materialization.position_of_new {store : Store} {stage : Stage}
    (h : stage.id ∉ store.stageIds) : position store stage = store.stages.length := by
  rw [position, Store.stageIndex?_eq_none_iff.mpr h, Option.getD_none]

/-- What adding a stage with a new id has done. -/
structure Appended (stage : Stage) (s : Session) (m : Materialization) (t : Session) : Prop where
  stage_eq : m.stage = stage
  store_eq : t.store = (s.store.commit stage m.table s.store.stages.length).2
  /-- The output takes the place of the table of its name. -/
  mem_tables : ∀ {e}, e ∈ t.store.tables ↔
    e = (m.table.id, m.table) ∨ e ∈ s.store.tables ∧ e.2.name ≠ m.table.name
  output : stage.kind = .load ∧ (m.table.id, m.table) ∈ s.store.tables ∧
      stage.entry "tableName" = .text m.table.name ∨
    stage.kind ≠ .load ∧ m.table.name = TableName.result s.store.stages.length stage.kind ∧
      m.table.stageId = some stage.id

section

variable {s t : Session} {stage : Stage} {active : Option String} {m : Materialization}

theorem Session.Consistent.appended (h : s.Consistent) (hid : stage.id ∉ s.store.stageIds)
    (hr : Action.execute stage active s = .ok m t) : Appended stage s m t := by
  have hposition := position_of_new hid
  have houtcome := execute_outcome stage active s
  rw [hr] at houtcome
  cases houtcome with
  | loaded table kind found =>
    have hmem := Store.Consistent.mem_of_loadedTable h found
    refine ⟨rfl, by rw [hposition], fun {e} => ?_,
      .inl ⟨kind, hmem, h.entry_of_loadedTable found⟩⟩
    refine (h.wellFormed.mem_tables_commit_of_mem hmem).trans ⟨fun he => ?_, ?_⟩
    · by_cases hname : e.2.name = table.name
      · exact .inl (h.wellFormed.eq_of_name_eq he hmem hname)
      · exact .inr ⟨he, hname⟩
    · rintro (rfl | ⟨he, -⟩)
      · exact hmem
      · exact he
  | built sql input output failure kind planned =>
    have hnone := Store.Consistent.outputOf?_eq_none h hid
    refine ⟨rfl, ?_, h.mem_tables_built hnone, .inr ⟨kind, ?_, rfl⟩⟩
    · rw [hposition]
      rfl
    · rw [← hposition]
      rfl

variable (ha : Appended stage s m t)
include ha

theorem Appended.stages_eq (hid : stage.id ∉ s.store.stageIds) :
    t.store.stages = s.store.stages ++ [stage] := by
  rw [ha.store_eq]
  exact Store.stages_commit_of_new hid m.table

theorem Appended.mem_outputs_self : (stage.id, m.table.id) ∈ t.store.outputs := by
  rw [ha.store_eq]
  simp only [Store.commit, Store.foldl_evict]
  exact Keyed.mem_of_lookup? (Keyed.lookup?_put_self ..)

theorem Appended.mem_tables_of_mem (h : s.Consistent) {e : String × Table}
    (he : e ∈ s.store.tables)
    (hname : e.2.name ≠ m.table.name ∨ (m.table.id, m.table) ∈ s.store.tables) :
    e ∈ t.store.tables := by
  by_cases hsame : e.2.name = m.table.name
  · have hmem := hname.resolve_left fun hne => hne hsame
    exact ha.mem_tables.mpr (.inl (h.wellFormed.eq_of_name_eq he hmem hsame))
  · exact ha.mem_tables.mpr (.inr ⟨he, hsame⟩)

theorem Appended.mem_outputs_of_mem (h : s.Consistent) {stageId id : String} {table : Table}
    (hne : stageId ≠ stage.id) (hout : (stageId, id) ∈ s.store.outputs)
    (hmem : (id, table) ∈ s.store.tables) (hkept : (id, table) ∈ t.store.tables) :
    (stageId, id) ∈ t.store.outputs := by
  rw [ha.store_eq] at hkept ⊢
  exact h.wellFormed.mem_outputs_commit_of_kept hmem hkept hout hne

end

/-! ### Flows of stages with ids of their own -/

/-- What adding stages one after the other to an empty list has come to. -/
structure Lined (done : List Stage) (results : List Materialization) (t : Session) : Prop where
  consistent : t.Consistent
  stages_eq : t.store.stages = done
  ran : results.map (·.stage) = done
  /-- The output of a stage is named by the position of the stage. -/
  built : ∀ i (m : Materialization), results[i]? = some m → m.stage.kind ≠ .load →
    (m.stage.id, m.table.id) ∈ t.store.outputs ∧ (m.table.id, m.table) ∈ t.store.tables ∧
      m.table.name = TableName.result i m.stage.kind ∧ m.table.stageId = some m.stage.id

section

variable {done : List Stage} {results : List Materialization} {s t : Session} {stage : Stage}
  {m : Materialization}

theorem Lined.length_eq (h : Lined done results t) : t.store.stages.length = results.length := by
  rw [h.stages_eq, ← h.ran, List.length_map]

theorem Lined.execute (h : Lined done results s) (hid : stage.id ∉ s.store.stageIds)
    (hr : Action.execute stage none s = .ok m t) : Lined (done ++ [stage]) (results ++ [m]) t := by
  have ha := h.consistent.appended hid hr
  refine ⟨final_of_ok hr ▸ (h.consistent.execute stage none).1, ?_, ?_, ?_⟩
  · rw [ha.stages_eq hid, h.stages_eq]
  · rw [List.map_append, h.ran, List.map_singleton, ha.stage_eq]
  intro i n hn hkind
  rcases getElem?_concat_eq_some hn with hold | ⟨rfl, rfl⟩
  · obtain ⟨hout, hmem, hname, howner⟩ := h.built i n hold hkind
    have hother : n.stage.id ≠ stage.id := fun heq =>
      hid (heq ▸ h.consistent.wellFormed.owner_mem _ hout)
    have hkept : (n.table.id, n.table) ∈ t.store.tables := by
      refine ha.mem_tables_of_mem h.consistent hmem (ha.output.symm.imp ?_ fun hload => hload.2.1)
      rintro ⟨-, hresult, -⟩ hsame
      have hlt := (List.getElem?_eq_some_iff.mp hold).1
      have heq := TableName.result_injective (hname.symm.trans (hsame.trans hresult))
      rw [h.length_eq] at heq
      omega
    exact ⟨ha.mem_outputs_of_mem h.consistent hother hout hmem hkept, hkept, hname, howner⟩
  · rw [ha.stage_eq] at hkind ⊢
    obtain ⟨hload, -⟩ | ⟨-, hname, howner⟩ := ha.output
    · exact absurd hload hkind
    · rw [h.length_eq] at hname
      exact ⟨ha.mem_outputs_self, ha.mem_tables.mpr (.inl rfl), hname, howner⟩

end

theorem FlowProgress.of_distinct {stages : List Stage} (hnodup : (stages.map (·.id)).Nodup)
    {I : List Stage → List Materialization → Session → Prop}
    (hstages : ∀ {done results s}, I done results s → s.store.stages = done)
    (hevents : ∀ {done results s} events, I done results s → I done results { s with events })
    (hadd : ∀ {done stage rest results s m t}, stages = done ++ stage :: rest →
      stage.id ∉ s.store.stageIds → I done results s → Action.execute stage none s = .ok m t →
        I (done ++ [stage]) (results ++ [m]) t) :
    FlowProgress stages I fun _ _ _ => True where
  reported := hevents
  added := by
    intro done stage rest results s m t split hs hr
    have hid : stage.id ∉ s.store.stageIds := by
      rw [split, List.map_append, List.map_cons, List.nodup_append] at hnodup
      intro hmem
      rw [Store.stageIds, hstages hs] at hmem
      exact hnodup.2.2 _ hmem _ (List.mem_cons_self ..) rfl
    have hnew : (s.store.stageIndex? stage.id).isSome = false := by
      rw [Store.stageIndex?_eq_none_iff.mpr hid]
      rfl
    exact hadd split hid hs ((Action.addStage_of_new none hnew).symm.trans hr)
  refused := fun _ _ _ => trivial
  ended := fun _ _ => trivial

namespace Session

/-- The pipeline consists of the given stages, in order, and each but a LOAD stage has the table of its
position as its output. -/
structure Rebuilt (stages : List Stage) (results : List Materialization) (t : Session) : Prop where
  stages_eq : t.store.stages = stages
  ran : results.map (·.stage) = stages
  outputs : ∀ i (stage : Stage), stages[i]? = some stage → stage.kind ≠ .load →
    ∃ table, t.store.outputOf? stage.id = some table ∧
      table.name = TableName.result i stage.kind ∧ table.stageId = some stage.id

theorem Rebuilt.of_lined {stages : List Stage} {results : List Materialization} {t : Session}
    (h : Lined stages results t) : Rebuilt stages results t := by
  refine ⟨h.stages_eq, h.ran, fun i stage hstage hkind => ?_⟩
  rw [← h.ran, List.getElem?_map] at hstage
  obtain ⟨m, hm, rfl⟩ := Option.map_eq_some_iff.mp hstage
  obtain ⟨hout, hmem, hname, howner⟩ := h.built i m hm hkind
  exact ⟨m.table, (Store.Consistent.outputOf?_eq_some_iff h.consistent).mpr ⟨hout, hmem⟩, hname,
    howner⟩

section

variable {s t : Session} {report : ImportReport}

theorem Consistent.rebuilt (h : s.Consistent) {keepIds : Bool} {candidates : List Value}
    (hnodup : ((Flow.screen keepIds 0 s.stagesMinted candidates).accepted.map (·.id)).Nodup)
    (hr : Action.importFlow .replace keepIds candidates s = .ok report t)
    (hsucceeded : report.succeeded = true) :
    Rebuilt (Flow.screen keepIds 0 s.stagesMinted candidates).accepted report.results t ∧
      report.dropped = (Flow.screen keepIds 0 s.stagesMinted candidates).dropped := by
  have hstart : Lined [] [] (s.flowStart .replace keepIds candidates) :=
    ⟨h.resetStages, rfl, rfl, fun i m hm => by cases hm⟩
  have hprogress := FlowProgress.of_distinct hnodup (I := Lined) (fun hl => hl.stages_eq)
    (fun _ hl => ⟨hl.consistent, hl.stages_eq, hl.ran, hl.built⟩)
    (fun _ hid hl hr => hl.execute hid hr)
  obtain ⟨hlined, hdropped⟩ := importFlow_succeeded hprogress hstart hr hsucceeded
  exact ⟨.of_lined hlined, hdropped⟩

end

/-- A successful import that replaces the pipeline rebuilds exactly the stages that screening accepts, if
no item keeps an id that is yet to be minted. Running all stages again rebuilds them as they come back
through the interchange form: all of them as they were if and only if no payload holds a number that is
not finite. -/
theorem rebuilt_of_succeeded {s : Session} (hs : s.Reachable) :
    (∀ keepIds candidates report t,
      (∀ n, s.stagesMinted < n → Stage.mintedId n ∉ Flow.keptIds keepIds candidates) →
      Action.importFlow .replace keepIds candidates s = .ok report t → report.succeeded = true →
        Rebuilt (Flow.screen keepIds 0 s.stagesMinted candidates).accepted report.results t ∧
          report.dropped = (Flow.screen keepIds 0 s.stagesMinted candidates).dropped) ∧
    ((∀ stage ∈ s.store.stages, stage.id ≠ "") → ∀ report t, Action.runAll s = .ok report t →
      report.succeeded = true →
        Rebuilt (Flow.interchanged s.store.stages) report.results t ∧
          (report.dropped = [] ∧ t.store.stages = s.store.stages ↔
            ∀ stage ∈ s.store.stages, stage.interchanged = stage)) := by
  have hconsistent := consistent_of_reachable hs
  refine ⟨fun keepIds candidates report t hkept hr hsucceeded => ?_,
    fun hids report t hr hsucceeded => ?_⟩
  · exact hconsistent.rebuilt (Flow.nodup_ids_screened hkept) hr hsucceeded
  have hcomplete := complete_of_reachable hs
  have hnodup := hconsistent.wellFormed.stages_nodup
  obtain ⟨haccepted, -, hnone⟩ := Flow.screen_records hids hnodup 0 s.stagesMinted
  have hrebuilt := hconsistent.rebuilt (haccepted ▸ Flow.nodup_ids_interchanged hnodup)
    ((Action.runAll_apply s).symm.trans hr) hsucceeded
  rw [haccepted] at hrebuilt
  obtain ⟨hrebuilt, hdropped⟩ := hrebuilt
  refine ⟨hrebuilt, ?_⟩
  rw [hrebuilt.stages_eq, ← Flow.interchanged_eq_self_iff hcomplete]
  refine ⟨fun h => h.2, fun h => ⟨?_, h⟩⟩
  refine hdropped.trans (hnone fun stage hstage => ?_)
  rw [(Flow.interchanged_eq_self_iff hcomplete).mp h stage hstage]
  exact hcomplete stage hstage

/-- A flow of a stage of its own, of one that is incomplete and of one that names a result. -/
def swapping : List Value :=
  [.object [("id", .text "b"), ("type", .text "CUSTOM"), ("data", .object [("sql", .text "SELECT 3")])],
    .object [("type", .text "CUSTOM")],
    .object [("type", .text "LOAD"),
      ("data", .object [("tableName", .text "result_stage_1_custom")])]]

theorem paired_rebuilt :
    (∃ report t, Action.importFlow .replace true swapping paired = .ok report t ∧
      report.succeeded = true ∧ t.store.stageIds = ["b", Stage.mintedId 2] ∧
      Rebuilt (Flow.screen true 0 0 swapping).accepted report.results t) ∧
    ∃ report t, Action.runAll paired = .ok report t ∧ report.succeeded = true ∧
      t.store.stages = paired.store.stages := by
  have himport : (result? (Action.importFlow .replace true swapping) paired).map (·.succeeded) =
      some true := by
    decide +kernel
  have hrun : (result? Action.runAll paired).map (·.succeeded) = some true := by decide +kernel
  obtain ⟨report, hr, hsucceeded⟩ := Option.map_eq_some_iff.mp himport
  obtain ⟨again, hr', hsucceeded'⟩ := Option.map_eq_some_iff.mp hrun
  have hkept : ∀ n, paired.stagesMinted < n → Stage.mintedId n ∉ Flow.keptIds true swapping := by
    have hids : Flow.keptIds true swapping = ["b"] := by decide +kernel
    exact fun n _ => hids ▸ Stage.mintedId_not_mem_of_short (by decide) n
  have hids : ∀ stage ∈ paired.store.stages, stage.id ≠ "" := by decide +kernel
  have hfinite : ∀ stage ∈ paired.store.stages, stage.interchanged = stage := by decide +kernel
  obtain ⟨hreplaced, hreran⟩ := rebuilt_of_succeeded reachable_paired
  refine ⟨⟨report, _, ok_of_result? hr, hsucceeded, by decide +kernel, ?_⟩,
    again, _, ok_of_result? hr', hsucceeded', ?_⟩
  · exact (hreplaced true swapping report _ hkept (ok_of_result? hr) hsucceeded).1
  · exact ((hreran hids again _ (ok_of_result? hr') hsucceeded').2.mpr hfinite).2

def unbounded : Session :=
  (Operation.addStage ⟨"a", .filter, "", [("table", .text "t"), ("column", .text "c"),
    ("operator", .text "<"), ("value", .float (.infinite false))]⟩ none).after
    (silent false)

theorem reachable_unbounded : unbounded.Reachable := (reachable_silent false).after _

/-- The stage is dropped when all stages are run again. -/
theorem unbounded_dropped : ∃ report t,
    unbounded.Reachable ∧ (∀ stage ∈ unbounded.store.stages, stage.id ≠ "") ∧
      Action.runAll unbounded = .ok report t ∧ report.succeeded = true ∧
      unbounded.store.stageIds = ["a"] ∧ t.store.stages = [] ∧
      report.dropped.map (·.reason.message) = ["FILTER stage missing value"] := by
  have h : (result? Action.runAll unbounded).map
      (fun r => (r.succeeded, r.dropped.map (·.reason.message))) =
        some (true, ["FILTER stage missing value"]) := by
    decide +kernel
  obtain ⟨report, hr, heq⟩ := Option.map_eq_some_iff.mp h
  obtain ⟨hsucceeded, hdropped⟩ := Prod.mk.inj heq
  exact ⟨report, _, reachable_unbounded, by decide +kernel, ok_of_result? hr,
    hsucceeded, by decide +kernel, by decide +kernel, hdropped⟩

end Session

end StagedSql
