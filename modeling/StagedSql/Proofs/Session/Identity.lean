import StagedSql.Proofs.Session.Places

/-!
# What an execution replaces

The output of a stage comes under the id of the stage's earlier output, or else of a left-over table of
its name, and the stage stays at its place. Tables with another id and another name stay as they are,
and so do the outputs of the stages that have them.
-/

namespace StagedSql

open Outcome Materialization

/-! ### The id of an output -/

theorem Store.Consistent.outputOf?_eq_none_of_unmapped {s : Store} {minted : Nat}
    (h : s.Consistent minted) {stageId : String} (hnew : stageId ∉ s.outputs.keys) :
    s.outputOf? stageId = none := by
  cases ho : s.outputOf? stageId with
  | none => rfl
  | some t => exact absurd (Keyed.mem_keys_of_mem (h.outputOf?_eq_some_iff.mp ho).1) hnew

theorem Materialization.resultEntry_id_of_reused {s : Session} {stage : Stage} {name : String}
    {t : Table} (hr : reusedTable? s.store stage name = some t) (output : Output) :
    (resultEntry s stage name output).id = t.id := by
  simp only [resultEntry, hr]

namespace Session

section

variable {s : Session} (h : s.Consistent)
include h

theorem Consistent.resultEntry_id_of_mapped {stage : Stage} {id : String}
    (hout : (stage.id, id) ∈ s.store.outputs) (name : String) (output : Output) :
    (resultEntry s stage name output).id = id := by
  obtain ⟨own, hown, rfl⟩ := Store.Consistent.exists_outputOf? h hout
  refine resultEntry_id_of_reused ((Store.Consistent.reusedTable?_eq_some_iff h).mpr ⟨?_, .inl hown⟩)
    output
  exact ((Store.Consistent.outputOf?_eq_some_iff h).mp hown).2

theorem Consistent.resultEntry_id_of_orphan {stage : Stage} {e : String × Table}
    (hnew : stage.id ∉ s.store.outputs.keys) (he : e ∈ s.store.tables)
    (hfree : ∀ stageId, (stageId, e.1) ∉ s.store.outputs) (output : Output) :
    (resultEntry s stage e.2.name output).id = e.1 := by
  have hkey := h.wellFormed.id_eq e he
  have hnone := Store.Consistent.outputOf?_eq_none_of_unmapped h hnew
  rw [hkey] at hfree ⊢
  exact resultEntry_id_of_reused ((Store.Consistent.reusedTable?_eq_some_iff h).mpr
    ⟨hkey ▸ he, .inr ⟨hnone, rfl, hfree⟩⟩) output

theorem Consistent.resultEntry_id_of_new {stage : Stage} {name : String}
    (hnew : stage.id ∉ s.store.outputs.keys)
    (hused : ∀ e ∈ s.store.tables, e.2.name = name → ∃ stageId, (stageId, e.1) ∈ s.store.outputs)
    (output : Output) :
    (resultEntry s stage name output).id = Table.mintedId (s.tablesMinted + 1) := by
  have hnone : reusedTable? s.store stage name = none := by
    refine Option.eq_none_iff_forall_ne_some.mpr fun t ht => ?_
    obtain ⟨hmem, hown | ⟨-, hname, hfree⟩⟩ :=
      (Store.Consistent.reusedTable?_eq_some_iff h).mp ht
    · rw [Store.Consistent.outputOf?_eq_none_of_unmapped h hnew] at hown
      cases hown
    · obtain ⟨stageId, hout⟩ := hused _ hmem hname
      exact hfree stageId hout
  simp only [resultEntry, hnone]

end

/-! ### Executing -/

/-- How the output of a stage takes its place in the session. -/
structure Replaced (s : Session) (stage : Stage) (m : Materialization) (t : Session) : Prop where
  /-- The output has the name of the stage's position and kind. -/
  named : m.table.name = TableName.result (position s.store stage) stage.kind
  /-- A stage with an output keeps its id. -/
  kept : ∀ id, (stage.id, id) ∈ s.store.outputs → m.table.id = id ∧ m.remapped = true
  /-- A stage without an output takes over the table of its name that no stage has. -/
  adopted : stage.id ∉ s.store.outputs.keys → m.remapped = false ∧
    ∀ e ∈ s.store.tables, e.2.name = m.table.name →
      (∀ stageId, (stageId, e.1) ∉ s.store.outputs) → m.table.id = e.1
  /-- If there is no such table either, the id is new. -/
  minted : stage.id ∉ s.store.outputs.keys →
    (∀ e ∈ s.store.tables, e.2.name = m.table.name →
      ∃ stageId, (stageId, e.1) ∈ s.store.outputs) →
    m.table.id = Table.mintedId (s.tablesMinted + 1) ∧ m.table.id ∉ s.store.tables.keys
  /-- A stage of the list stays at its index. -/
  placed : ∀ (i : Nat) (st : Stage), s.store.stages[i]? = some st → st.id = stage.id →
    t.store.stages = s.store.stages.set i stage
  /-- A stage that is not in the list comes to its end. -/
  appended : stage.id ∉ s.store.stageIds → t.store.stages = s.store.stages ++ [stage]
  active : t.store.active = some m.table.id
  /-- Besides the output, the catalogue has the tables of another id and another name. -/
  tables : ∀ e, e ∈ t.store.tables ↔ e = (m.table.id, m.table) ∨
    e ∈ s.store.tables ∧ e.1 ≠ m.table.id ∧ e.2.name ≠ m.table.name
  /-- Another stage keeps its entry in the map, unless it led to another table of the output's name. -/
  outputs : ∀ e, e ∈ t.store.outputs ↔ e = (stage.id, m.table.id) ∨
    e ∈ s.store.outputs ∧ e.1 ≠ stage.id ∧
      ∀ u, (e.2, u) ∈ s.store.tables → u.name = m.table.name → e.2 = m.table.id

theorem Reachable.execute {s : Session} (h : s.Reachable) (stage : Stage) (active : Option String) :
    (final (Action.execute stage active) s).Reachable := by
  have hafter := h.after (.execute stage active)
  rwa [Operation.after, Operation.run, final_bind_pure] at hafter

/-- Executing a stage other than LOAD puts its output in its place and touches nothing else. -/
theorem execute_replaces {s t : Session} {stage : Stage} {active : Option String}
    {m : Materialization} (hs : s.Reachable) (hk : stage.kind ≠ .load)
    (hr : Action.execute stage active s = .ok m t) : s.Replaced stage m t := by
  have h := consistent_of_reachable hs
  obtain ⟨sql, output, -, -, htable, hremapped, hstore⟩ := built_of_execute hk hr
  have hname : m.table.name = outputName s stage := congrArg Table.name htable
  refine
    { named := hname
      kept := fun id hout => ⟨?_, ?_⟩
      adopted := fun hnew => ⟨?_, fun e he hsame hfree => ?_⟩
      minted := fun hnew hused => ?_
      placed := fun i st hi hid => ?_
      appended := fun hnew => ?_
      active := ?_
      tables := fun e => ?_
      outputs := fun e => ?_ }
  · rw [htable]
    exact h.resultEntry_id_of_mapped hout _ output
  · rw [hremapped, Keyed.lookup?_of_mem h.wellFormed.outputs_nodup hout, Option.isSome_some]
  · have hlookup : s.store.outputs.lookup? stage.id = none :=
      Option.eq_none_iff_forall_ne_some.mpr fun id hid =>
        hnew ((Keyed.mem_keys_iff ..).mpr ⟨id, hid⟩)
    rw [hremapped, hlookup, Option.isSome_none]
  · rw [htable, ← hname, ← hsame]
    exact h.resultEntry_id_of_orphan hnew he hfree output
  · rw [hname] at hused
    have hid := h.resultEntry_id_of_new hnew hused output
    rw [htable, hid]
    exact ⟨rfl, Store.Consistent.fresh h⟩
  · rw [hstore]
    exact h.wellFormed.stages_commit hi hid _ _
  · rw [hstore, position_of_new hnew]
    exact Store.stages_commit_of_new hnew _
  · rw [hstore]
    simp only [Store.commit, Store.foldl_evict]
  · rw [hstore]
    exact h.wellFormed.mem_tables_commit
  · rw [hstore]
    exact h.wellFormed.mem_outputs_commit_iff

def secondStage : Stage := ⟨"b", .custom, "", [("sql", .text "SELECT 2")]⟩

def thirdStage : Stage := ⟨"c", .custom, "", [("sql", .text "SELECT 3")]⟩

def movedUp : Session := final (Action.execute thirdStage none) shifted

/-- The third stage has come to the place by which the output of the second one is named, and takes the
name away from it. The second stage then takes over what the deleted first one has left. -/
theorem shifted_replaced : ∃ m n u,
    Action.execute thirdStage none shifted = .ok m movedUp ∧
    Action.execute secondStage none movedUp = .ok n u ∧
    m.table.name = "result_stage_1_custom" ∧ m.table.id = Table.mintedId 3 ∧ m.remapped = true ∧
    ("b", Table.mintedId 2) ∉ movedUp.store.outputs ∧ ("d", Table.mintedId 4) ∈ movedUp.store.outputs ∧
    n.table.name = "result_stage_0_custom" ∧ n.table.id = Table.mintedId 1 ∧ n.remapped = false ∧
    u.store.stages = movedUp.store.stages.set 0 secondStage ∧
    u.store.active = some (Table.mintedId 1) := by
  have hreachable : shifted.Reachable := ((reachable_paired.after _).after _).after _
  have hreachable' : movedUp.Reachable := hreachable.execute ..
  obtain ⟨hruns, hplace, hmapped, hold, hlast, hother⟩ :
      (result? (Action.execute thirdStage none) shifted).isSome ∧
      TableName.result (position shifted.store thirdStage) .custom = "result_stage_1_custom" ∧
      ("c", Table.mintedId 3) ∈ shifted.store.outputs ∧
      (∃ e ∈ shifted.store.tables, e.1 = Table.mintedId 2 ∧ e.2.name = "result_stage_1_custom") ∧
      ("d", Table.mintedId 4) ∈ shifted.store.outputs ∧
      ∀ e ∈ shifted.store.tables, e.1 = Table.mintedId 4 → e.2.name ≠ "result_stage_1_custom" := by
    decide +kernel
  obtain ⟨hruns', hplace', hunmapped, hleft, hunowned, hfirst⟩ :
      (result? (Action.execute secondStage none) movedUp).isSome ∧
      TableName.result (position movedUp.store secondStage) .custom = "result_stage_0_custom" ∧
      "b" ∉ movedUp.store.outputs.keys ∧
      (∃ e ∈ movedUp.store.tables, e.1 = Table.mintedId 1 ∧ e.2.name = "result_stage_0_custom") ∧
      (∀ e ∈ movedUp.store.outputs, e.2 ≠ Table.mintedId 1) ∧
      movedUp.store.stages[0]? = some secondStage := by
    decide +kernel
  obtain ⟨m, hm⟩ := Option.isSome_iff_exists.mp hruns
  obtain ⟨n, hn⟩ := Option.isSome_iff_exists.mp hruns'
  have hthird := execute_replaces hreachable (by decide) (ok_of_result? hm)
  have hsecond := execute_replaces hreachable' (by decide) (ok_of_result? hn)
  have hname : m.table.name = "result_stage_1_custom" := hthird.named.trans hplace
  have hname' : n.table.name = "result_stage_0_custom" := hsecond.named.trans hplace'
  obtain ⟨hid, hremapped⟩ := hthird.kept _ hmapped
  obtain ⟨hnew, hadopted⟩ := hsecond.adopted hunmapped
  have hid' : n.table.id = Table.mintedId 1 := by
    obtain ⟨e, he, hkey, hename⟩ := hleft
    rw [← hkey] at hunowned ⊢
    exact hadopted e he (hename.trans hname'.symm) fun stageId hout => hunowned _ hout rfl
  refine ⟨m, n, _, ok_of_result? hm, ok_of_result? hn, hname, hid, hremapped, ?_, ?_, hname', hid',
    hnew, hsecond.placed 0 secondStage hfirst rfl, hid' ▸ hsecond.active⟩
  · intro hout
    rcases (hthird.outputs _).mp hout with heq | ⟨-, -, hkept⟩
    · exact absurd (congrArg Prod.fst heq) (by decide : "b" ≠ "c")
    · obtain ⟨e, he, hkey, hename⟩ := hold
      have hmoved := hkept e.2 (hkey ▸ he) (hename.trans hname.symm)
      exact absurd (Table.mintedId_injective (hmoved.trans hid)) (by decide)
  · exact (hthird.outputs _).mpr (.inr ⟨hlast, by decide,
      fun u hu huname => absurd (huname.trans hname) (hother _ hu rfl)⟩)

end Session

end StagedSql
