import StagedSql.Proofs.Session.Rebuilding

/-!
# What an appended flow adds

An import that is appended to the pipeline leaves the earlier stages as they are. The stages that it runs
stand after them in order, up to the one that fails, and their outputs have the names of these places.
-/

namespace StagedSql

open Outcome Materialization

/-! ### Ids of added stages -/

/-- A stage is added under its own id, or under a minted one if its own is among the ids taken. -/
inductive AddedAs (taken : List String) (minted : Nat) (stage : Stage) : Stage → Prop
  | same (free : stage.id ∉ taken) : AddedAs taken minted stage stage
  | renamed (n : Nat) (clash : stage.id ∈ taken) (later : minted < n) :
      AddedAs taken minted stage { stage with id := Stage.mintedId n }

theorem AddedAs.of_le {taken taken' : List String} {minted minted' : Nat} {stage added : Stage}
    (h : AddedAs taken minted stage added) (hids : stage.id ∈ taken ↔ stage.id ∈ taken')
    (hle : minted' ≤ minted) : AddedAs taken' minted' stage added := by
  cases h with
  | same free => exact .same fun hmem => free (hids.mpr hmem)
  | renamed n clash later => exact .renamed n (hids.mp clash) (Nat.lt_of_le_of_lt hle later)

/-- A stage is added with its content under an id that no stage has. -/
theorem Session.IdsNew.addStage_as {s : Session} (h : s.IdsNew) (stage : Stage)
    (active : Option String) :
    ∃ added minted, AddedAs s.store.stageIds s.stagesMinted stage added ∧
      added.id ∉ s.store.stageIds ∧ s.stagesMinted ≤ minted ∧
      Action.addStage stage active s =
        Action.execute added active { s with stagesMinted := minted } := by
  cases hi : (s.store.stageIndex? stage.id).isSome with
  | false =>
    have hfree : stage.id ∉ s.store.stageIds :=
      Store.stageIndex?_eq_none_iff.mp (Option.not_isSome_iff_eq_none.mp (by simp [hi]))
    exact ⟨stage, s.stagesMinted, .same hfree, hfree, Nat.le_refl _,
      Action.addStage_of_new active hi⟩
  | true =>
    have hclash : stage.id ∈ s.store.stageIds := by
      by_contra hfree
      rw [Store.stageIndex?_eq_none_iff.mpr hfree] at hi
      cases hi
    exact ⟨_, _, .renamed _ hclash (Nat.lt_succ_self _), h _ (Nat.lt_succ_self _), Nat.le_succ _,
      Action.addStage_of_taken active hi⟩

/-! ### Flows after other stages -/

structure RanAfter (first : Session) (i : Nat) (stage : Stage) (m : Materialization) : Prop where
  added : AddedAs first.store.stageIds first.stagesMinted stage m.stage
  /-- The output is named by the position of the stage. -/
  named : m.stage.kind ≠ .load →
    m.table.name = TableName.result (first.store.stages.length + i) m.stage.kind

/-- What adding the stages of a flow one after the other to those of a session has come to. -/
structure Appending (first : Session) (stages done : List Stage) (results : List Materialization)
    (t : Session) : Prop where
  consistent : t.Consistent
  addsNew : t.AddsNew stages
  le : first.stagesMinted ≤ t.stagesMinted
  stages_eq : t.store.stages = first.store.stages ++ results.map (·.stage)
  length_eq : results.length = done.length
  ran : ∀ i m, results[i]? = some m → ∃ stage, done[i]? = some stage ∧ RanAfter first i stage m

theorem Appending.start {first : Session} {stages : List Stage} (hfirst : first.Consistent)
    (hnew : first.AddsNew stages) : Appending first stages [] [] first :=
  ⟨hfirst, hnew, Nat.le_refl _, (List.append_nil _).symm, rfl, fun i m hm => by cases hm⟩

section

variable {first s t : Session} {stages done rest : List Stage} {results : List Materialization}
  {stage added : Stage} {m : Materialization} (h : Appending first stages done results s)
include h

theorem Appending.of_same (hstore : t.store = s.store) (htables : t.tablesMinted = s.tablesMinted)
    (hle : s.stagesMinted ≤ t.stagesMinted) : Appending first stages done results t where
  consistent := h.consistent.of_same hstore htables
  addsNew := by
    refine ⟨fun n hn => ?_, fun stage hstage n hn => ?_⟩
    · rw [hstore]
      exact h.addsNew.1 n (Nat.lt_of_le_of_lt hle hn)
    · exact h.addsNew.2 stage hstage n (Nat.lt_of_le_of_lt hle hn)
  le := Nat.le_trans h.le hle
  stages_eq := hstore ▸ h.stages_eq
  length_eq := h.length_eq
  ran := h.ran

theorem Appending.mem_stageIds_iff (hnew : first.AddsNew stages)
    (hnodup : (stages.map (·.id)).Nodup) (split : stages = done ++ stage :: rest) :
    stage.id ∈ s.store.stageIds ↔ stage.id ∈ first.store.stageIds := by
  have hstage : stage ∈ stages := split ▸ List.mem_append_right done (List.mem_cons_self ..)
  have hother : stage.id ∉ results.map (·.stage.id) := by
    intro hmem
    obtain ⟨m, hm, hid⟩ := List.mem_map.mp hmem
    obtain ⟨i, hi⟩ := List.getElem?_of_mem hm
    obtain ⟨e, he, hran, -⟩ := h.ran i m hi
    generalize m.stage = taken at hran hid
    cases hran with
    | same free =>
      rw [split, List.map_append, List.map_cons, List.nodup_append] at hnodup
      exact hnodup.2.2 _ (List.mem_map_of_mem (List.mem_of_getElem? he)) _ (List.mem_cons_self ..) hid
    | renamed n clash later => exact hnew.2 stage hstage n later hid
  have hids : s.store.stageIds = first.store.stageIds ++ results.map (·.stage.id) := by
    rw [Store.stageIds, h.stages_eq, List.map_append, List.map_map]
    rfl
  rw [hids, List.mem_append]
  exact ⟨fun hmem => hmem.resolve_right hother, .inl⟩

theorem Appending.execute (has : AddedAs first.store.stageIds first.stagesMinted stage added)
    (hid : added.id ∉ s.store.stageIds) (hnew : t.AddsNew stages)
    (hr : Action.execute added none s = .ok m t) :
    Appending first stages (done ++ [stage]) (results ++ [m]) t := by
  have ha := h.consistent.appended hid hr
  have hminted := (Session.ids_execute added none s).1
  rw [final_of_ok hr] at hminted
  refine ⟨final_of_ok hr ▸ (h.consistent.execute added none).1, hnew, hminted ▸ h.le, ?_, ?_, ?_⟩
  · rw [ha.stages_eq hid, h.stages_eq, List.map_append, List.append_assoc, List.map_singleton,
      ha.stage_eq]
  · rw [List.length_append, List.length_append, h.length_eq]
    rfl
  intro i n hn
  rcases getElem?_concat_eq_some hn with hold | ⟨rfl, rfl⟩
  · obtain ⟨e, he, hran⟩ := h.ran i n hold
    have hlt := (List.getElem?_eq_some_iff.mp he).1
    exact ⟨e, by rw [List.getElem?_append_left hlt, he], hran⟩
  · refine ⟨stage, by rw [h.length_eq, List.getElem?_concat_length], ha.stage_eq ▸ has, ?_⟩
    intro hkind
    rw [ha.stage_eq] at hkind ⊢
    obtain ⟨hload, -⟩ | ⟨-, hname, -⟩ := ha.output
    · exact absurd hload hkind
    · rw [hname, h.stages_eq, List.length_append, List.length_map]

end

/-- A flow whose stages have ids of their own is appended stage by stage. -/
theorem Appending.invariant {first : Session} {stages : List Stage} (hnew : first.AddsNew stages)
    (hnodup : (stages.map (·.id)).Nodup) :
    FlowInvariant stages (Appending first stages) where
  reported := fun _ h => h.of_same rfl rfl (Nat.le_refl _)
  added := by
    intro done stage rest results s m t split h hr
    have hstage : stage ∈ stages := split ▸ List.mem_append_right done (List.mem_cons_self ..)
    obtain ⟨added, minted, has, hid, hle, heq⟩ := h.addsNew.1.addStage_as stage none
    have hafter := final_of_ok hr ▸ h.addsNew.addStage hstage none
    have hsame : Appending first stages done results { s with stagesMinted := minted } :=
      h.of_same rfl rfl hle
    have hids := h.mem_stageIds_iff hnew hnodup split
    exact hsame.execute (has.of_le hids h.le) hid hafter (heq.symm.trans hr)
  refused := by
    intro done stage rest results s fault t split h hr
    obtain ⟨added, minted, -, -, hle, heq⟩ := h.addsNew.1.addStage_as stage none
    obtain ⟨c, rfl⟩ := execute_error (heq.symm.trans hr)
    exact h.of_same rfl rfl hle

namespace Session

/-- An import that is appended leaves the earlier stages as they are, and the stages that it has run
stand after them: the first ones that screening accepts, in order, under their own ids unless an earlier
stage has the id, and with outputs named by their places. It has run all of them if and only if none has
failed. -/
theorem importFlow_appends {s t : Session} (hs : s.Reachable) (hnew : s.IdsNew) {keepIds : Bool}
    {candidates : List Value} {report : ImportReport}
    (hkept : ∀ n, s.stagesMinted < n → Stage.mintedId n ∉ Flow.keptIds keepIds candidates)
    (hr : Action.importFlow .append keepIds candidates s = .ok report t) :
    t.store.stages = s.store.stages ++ report.results.map (·.stage) ∧
      (∀ i m, report.results[i]? = some m → ∃ stage,
        (Flow.screen keepIds 0 s.stagesMinted candidates).accepted[i]? = some stage ∧
          RanAfter s i stage m) ∧
      (report.failure = none ↔ report.results.length =
        (Flow.screen keepIds 0 s.stagesMinted candidates).accepted.length) := by
  have hle := (Flow.screen_traced keepIds 0 s.stagesMinted candidates).le
  have hadds : (s.flowStart .append keepIds candidates).AddsNew
      (Flow.screen keepIds 0 s.stagesMinted candidates).accepted :=
    addsNew_flowStart (.inr hnew) hkept
  have hfirst : (s.flowStart .append keepIds candidates).Consistent :=
    (consistent_of_reachable hs).of_same rfl rfl
  have hI := Appending.invariant hadds (Flow.nodup_ids_screened hkept)
  have hran : ∀ {i stage m}, RanAfter (s.flowStart .append keepIds candidates) i stage m →
      RanAfter s i stage m := fun hran => ⟨hran.added.of_le Iff.rfl hle, hran.named⟩
  rcases importFlow_flowRun .append hI.progress (.start hfirst hadds) with
    ⟨fault, events, -, hbroken⟩ | ⟨forward, hrun⟩
  · rw [hr] at hbroken
    cases hbroken
  rw [hr] at hrun
  cases hrun with
  | completed results _ done =>
    refine ⟨done.stages_eq, fun i m hm => ?_, iff_of_true rfl done.length_eq⟩
    obtain ⟨stage, hstage, hrun⟩ := done.ran i m hm
    exact ⟨stage, hstage, hran hrun⟩
  | stopped finished rest stage results e u split left =>
    refine ⟨left.stages_eq, fun i m hm => ?_, iff_of_false (by simp) fun hall => ?_⟩
    · obtain ⟨st, hst, hrun⟩ := left.ran i m hm
      have hlt := (List.getElem?_eq_some_iff.mp hst).1
      exact ⟨st, by rw [split, List.getElem?_append_left hlt, hst], hran hrun⟩
    · dsimp only at hall
      rw [split, left.length_eq, List.length_append, List.length_cons] at hall
      omega

/-- A flow of a stage under an id that is taken, of a source table's name that is missing, and of one that
does not get its turn. -/
def clashing : List Value :=
  [.object [("id", .text "a"), ("type", .text "CUSTOM"), ("data", .object [("sql", .text "SELECT 3")])],
    .object [("id", .text "c"), ("type", .text "LOAD"),
      ("data", .object [("tableName", .text "missing")])],
    .object [("id", .text "d"), ("type", .text "CUSTOM"),
      ("data", .object [("sql", .text "SELECT 4")])]]

theorem paired_appended : ∃ report t,
    Action.importFlow .append true clashing paired = .ok report t ∧
      report.succeeded = false ∧ t.store.stageIds = ["a", "b", Stage.mintedId 1] ∧
      t.store.stages = paired.store.stages ++ report.results.map (·.stage) ∧
      (∀ i m, report.results[i]? = some m → ∃ stage,
        (Flow.screen true 0 paired.stagesMinted clashing).accepted[i]? = some stage ∧
          RanAfter paired i stage m) ∧
      (report.failure = none ↔ report.results.length =
        (Flow.screen true 0 paired.stagesMinted clashing).accepted.length) := by
  have h : (result? (Action.importFlow .append true clashing) paired).map (·.succeeded) =
      some false := by
    decide +kernel
  obtain ⟨report, hr, hfailed⟩ := Option.map_eq_some_iff.mp h
  have hkept : ∀ n, paired.stagesMinted < n → Stage.mintedId n ∉ Flow.keptIds true clashing := by
    have hids : Flow.keptIds true clashing = ["a", "c", "d"] := by decide +kernel
    exact fun n _ => hids ▸ Stage.mintedId_not_mem_of_short (by decide) n
  exact ⟨report, _, ok_of_result? hr, hfailed, by decide +kernel,
    importFlow_appends reachable_paired idsNew_paired hkept (ok_of_result? hr)⟩

end Session

end StagedSql
