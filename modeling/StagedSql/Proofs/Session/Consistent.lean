import StagedSql.Proofs.MintedId
import StagedSql.Proofs.Session.FlowRun
import StagedSql.Proofs.Session.Materialize
import StagedSql.Proofs.Session.Operation
import StagedSql.Proofs.Session.Source
import StagedSql.Proofs.Store.WellFormed

/-!
# Consistent sessions

Every session that operations lead to has a well-formed store whose table ids were minted, and an
output of a stage other than LOAD always has the name of a result.
-/

namespace StagedSql

open Outcome

namespace Store

structure Consistent (s : Store) (minted : Nat) : Prop where
  wellFormed : s.WellFormed
  /-- Every table id was minted. -/
  ids_minted : ∀ id ∈ s.tables.keys, ∃ n ≤ minted, id = Table.mintedId n
  /-- The output of a stage other than LOAD has the name of a result. -/
  named : ∀ stage ∈ s.stages, stage.kind ≠ .load → ∀ id t, (stage.id, id) ∈ s.outputs →
    (id, t) ∈ s.tables → TableName.IsResult t.name

theorem consistent_empty : empty.Consistent 0 where
  wellFormed := wellFormed_empty
  ids_minted := by simp [empty]
  named := by simp [empty]

section

variable {s : Store} {minted : Nat} (h : s.Consistent minted)
include h

theorem Consistent.mono {more : Nat} (hle : minted ≤ more) : s.Consistent more where
  wellFormed := h.wellFormed
  ids_minted := by
    intro id hid
    obtain ⟨n, hn, rfl⟩ := h.ids_minted id hid
    exact ⟨n, hn.trans hle, rfl⟩
  named := h.named

theorem Consistent.fresh : Table.mintedId (minted + 1) ∉ s.tables.keys := by
  intro hid
  obtain ⟨n, hn, heq⟩ := h.ids_minted _ hid
  have := Table.mintedId_injective heq
  omega

theorem Consistent.tableAt?_eq_some_iff {id : String} {t : Table} :
    s.tableAt? id = some t ↔ (id, t) ∈ s.tables := by
  rw [← Keyed.lookup?_eq_some_iff h.wellFormed.tables_nodup]
  unfold tableAt?
  by_cases hid : id = ""
  · rw [if_pos hid]
    constructor
    · intro hnone
      cases hnone
    · intro hl
      obtain ⟨n, -, hn⟩ := h.ids_minted id (Keyed.mem_keys_of_mem (Keyed.mem_of_lookup? hl))
      exact absurd (hn.symm.trans hid) (Table.mintedId_ne_empty n)
  · rw [if_neg hid]

theorem Consistent.outputOf?_eq_some_iff {stageId : String} {t : Table} :
    s.outputOf? stageId = some t ↔ (stageId, t.id) ∈ s.outputs ∧ (t.id, t) ∈ s.tables := by
  unfold outputOf?
  rw [Option.bind_eq_some_iff]
  constructor
  · rintro ⟨id, hl, ht⟩
    rw [h.tableAt?_eq_some_iff] at ht
    obtain rfl : id = t.id := h.wellFormed.id_eq _ ht
    exact ⟨Keyed.mem_of_lookup? hl, ht⟩
  · rintro ⟨hl, ht⟩
    exact ⟨t.id, Keyed.lookup?_of_mem h.wellFormed.outputs_nodup hl,
      h.tableAt?_eq_some_iff.mpr ht⟩

theorem Consistent.exists_outputOf? {stageId id : String} (hout : (stageId, id) ∈ s.outputs) :
    ∃ t, s.outputOf? stageId = some t ∧ t.id = id := by
  obtain ⟨t, ht⟩ := h.wellFormed.exists_table hout
  obtain rfl : id = t.id := h.wellFormed.id_eq _ ht
  exact ⟨t, h.outputOf?_eq_some_iff.mpr ⟨hout, ht⟩, rfl⟩

theorem Consistent.outputOf?_eq_none {stageId : String} (hnew : stageId ∉ s.stageIds) :
    s.outputOf? stageId = none := by
  cases ho : s.outputOf? stageId with
  | none => rfl
  | some t => exact absurd (h.wellFormed.owner_mem _ (h.outputOf?_eq_some_iff.mp ho).1) hnew

/-! ### Changes keep a store consistent -/

/-- A stage may be committed with a table of the catalogue if it is a LOAD stage, and with a table
that has the name of a result. -/
theorem Consistent.commit {stage : Stage} {table : Table} {position : Int} {more : Nat}
    (hle : minted ≤ more) (hid : ∃ n ≤ more, table.id = Table.mintedId n)
    (htable : stage.kind = .load ∧ (table.id, table) ∈ s.tables ∨ TableName.IsResult table.name) :
    (s.commit stage table position).2.Consistent more where
  wellFormed := h.wellFormed.commit stage table position
  ids_minted := by
    intro id hkey
    obtain ⟨e, he, rfl⟩ := List.mem_map.mp hkey
    rcases h.wellFormed.mem_tables_commit.mp he with rfl | ⟨he, -⟩
    · exact hid
    · exact (h.mono hle).ids_minted _ (Keyed.mem_keys_of_mem he)
  named := by
    intro st hst hkind id t hout ht
    rcases h.wellFormed.output_commit hst hout ht with
      ⟨rfl, rfl⟩ | ⟨hold, -, hout', ⟨rfl, rfl⟩ | ht'⟩
    · exact htable.resolve_left fun hload => hkind hload.1
    · rcases htable with ⟨-, hmem⟩ | hresult
      · exact h.named st hold hkind _ _ hout' hmem
      · exact hresult
    · exact h.named st hold hkind _ _ hout' ht'

/-- A table takes over the id of the one that has held its name, or keeps its own. -/
theorem Consistent.register_cases (table : Table) (makeActive : Bool) :
    (∃ e ∈ s.tables, e.1 = (s.register table makeActive).1.id ∧ e.2.name = table.name) ∨
      (s.register table makeActive).1 = table := by
  cases hn : s.tableNamed? table.name with
  | none => exact .inr (by simp only [Store.register, hn])
  | some t =>
    obtain ⟨hmem, hname⟩ := h.wellFormed.tableNamed?_eq_some_iff.mp hn
    exact .inl ⟨_, hmem, h.wellFormed.register_id makeActive hmem hname, hname⟩

theorem Consistent.mem_tables_registered {table : Table} {makeActive : Bool} {e : String × Table}
    (hid : table.id = Table.mintedId (minted + 1)) :
    e ∈ (s.register table makeActive).2.tables ↔
      e = ((s.register table makeActive).1.id, (s.register table makeActive).1) ∨
        e ∈ s.tables ∧ e.2.name ≠ table.name := by
  rw [h.wellFormed.mem_tables_register]
  refine or_congr_right (and_congr_right fun he => not_congr ⟨fun hkey => ?_, fun hname => ?_⟩)
  · rcases h.register_cases table makeActive with ⟨f, hf, hfkey, hname⟩ | heq
    · rw [h.wellFormed.eq_of_key_eq he hf (hkey.trans hfkey.symm), hname]
    · rw [heq, hid] at hkey
      exact absurd (hkey ▸ Keyed.mem_keys_of_mem he) h.fresh
  · exact h.wellFormed.register_id makeActive he hname

theorem Consistent.register {table : Table} (makeActive : Bool)
    (hid : table.id = Table.mintedId (minted + 1)) :
    (s.register table makeActive).2.Consistent (minted + 1) where
  wellFormed := h.wellFormed.register table makeActive
  ids_minted := by
    intro id hkey
    obtain ⟨e, he, rfl⟩ := List.mem_map.mp hkey
    rcases h.wellFormed.mem_tables_register.mp he with rfl | ⟨he, -⟩
    · rcases h.register_cases table makeActive with ⟨f, hf, hkey, -⟩ | heq
      · obtain ⟨n, hn, hfn⟩ := h.ids_minted _ (Keyed.mem_keys_of_mem hf)
        exact ⟨n, hn.trans (Nat.le_succ _), hkey ▸ hfn⟩
      · rw [heq]
        exact ⟨minted + 1, Nat.le_refl _, hid⟩
    · exact (h.mono (Nat.le_succ _)).ids_minted _ (Keyed.mem_keys_of_mem he)
  named := by
    intro st hst hkind id t hout ht
    have hname := register_name s table makeActive
    rcases h.wellFormed.mem_tables_register.mp ht with heq | ⟨ht, -⟩
    · obtain ⟨rfl, rfl⟩ := Prod.mk.inj heq
      rcases h.register_cases table makeActive with ⟨f, hf, hkey, hfname⟩ | heq
      · rw [hname, ← hfname]
        exact h.named st hst hkind f.1 f.2 (hkey ▸ hout) hf
      · have hmem := h.wellFormed.output_mem _ hout
        rw [heq, hid] at hmem
        exact absurd hmem h.fresh
    · exact h.named st hst hkind id t hout ht

theorem Consistent.removeStage {id : String} {t : Stage} {s' : Store}
    (hs : s.removeStage id = .ok (t, s')) : s'.Consistent minted := by
  have hwell := h.wellFormed.removeStage hs
  obtain ⟨i, -, -, rfl⟩ := removeStage_eq_ok_iff.mp hs
  refine ⟨hwell, h.ids_minted, ?_⟩
  intro st hst hkind id t hout ht
  exact h.named st ((List.eraseIdx_sublist ..).subset hst) hkind id t (List.mem_of_mem_filter hout) ht

theorem Consistent.removeTable {id : String} {t : Table} {s' : Store}
    (hs : s.removeTable id = .ok (t, s')) : s'.Consistent minted := by
  have hwell := h.wellFormed.removeTable hs
  obtain ⟨-, -, rfl⟩ := removeTable_eq_ok_iff.mp hs
  refine ⟨hwell, ?_, ?_⟩
  · intro id hid
    exact h.ids_minted id (Keyed.mem_keys_remove.mp hid).2
  · intro st hst hkind id t hout ht
    exact h.named st hst hkind id t hout (List.mem_of_mem_filter ht)

theorem Consistent.setActive {id : String} {t : Table} {s' : Store}
    (hs : s.setActive id = .ok (t, s')) : s'.Consistent minted := by
  have hwell := h.wellFormed.setActive hs
  obtain ⟨-, rfl⟩ := setActive_eq_ok_iff.mp hs
  exact ⟨hwell, h.ids_minted, h.named⟩

theorem Consistent.resetStages : s.resetStages.2.Consistent minted :=
  ⟨h.wellFormed.resetStages, h.ids_minted, by simp [Store.resetStages]⟩

/-- Stages may be put back if the catalogue has only got results since. -/
theorem Consistent.restoreStages {earlier : Store} {before : Nat}
    (he : earlier.Consistent before)
    (hgrown : ∀ e ∈ s.tables, e ∈ earlier.tables ∨ TableName.IsResult e.2.name) :
    (s.restoreStages earlier).Consistent minted where
  wellFormed := h.wellFormed.restoreStages he.wellFormed
  ids_minted := h.ids_minted
  named := by
    intro st hst hkind id t hout ht
    rcases hgrown _ ht with hold | hresult
    · exact he.named st hst hkind id t (List.mem_of_mem_filter hout) hold
    · exact hresult

/-! ### The tables of an execution -/

open Materialization

theorem Consistent.mem_of_loadedTable {stage : Stage} {t : Table}
    (ht : loadedTable s stage = .ok t) : (t.id, t) ∈ s.tables := by
  simp only [loadedTable] at ht
  split at ht
  · next u hu =>
    obtain rfl : u = t := Except.ok.inj ht
    obtain ⟨name, -, hname⟩ := Option.bind_eq_some_iff.mp hu
    exact (h.wellFormed.tableNamed?_eq_some_iff.mp hname).1
  · cases ht

/-- An id is taken over from the stage's own output, or if it has none, from a table of the output's name
that no stage has. -/
theorem Consistent.reusedTable?_eq_some_iff {stage : Stage} {name : String} {t : Table} :
    reusedTable? s stage name = some t ↔ (t.id, t) ∈ s.tables ∧ (s.outputOf? stage.id = some t ∨
      s.outputOf? stage.id = none ∧ t.name = name ∧ ∀ id, (id, t.id) ∉ s.outputs) := by
  have hfree : (s.stagesWithOutput t.id).isEmpty ↔ ∀ id, (id, t.id) ∉ s.outputs := by
    rw [List.isEmpty_iff, List.eq_nil_iff_forall_not_mem]
    simp [stagesWithOutput, Keyed.keys]
  unfold reusedTable?
  rw [Option.or_eq_some_iff, Option.filter_eq_some_iff, h.wellFormed.tableNamed?_eq_some_iff, hfree]
  constructor
  · rintro (hown | ⟨hnone, ⟨hmem, hname⟩, hunowned⟩)
    · exact ⟨(h.outputOf?_eq_some_iff.mp hown).2, .inl hown⟩
    · exact ⟨hmem, .inr ⟨hnone, hname, hunowned⟩⟩
  · rintro ⟨hmem, hown | ⟨hnone, hname, hunowned⟩⟩
    · exact .inl hown
    · exact .inr ⟨hnone, ⟨hmem, hname⟩, hunowned⟩

end

end Store

namespace Session

open Materialization

/-- The store of the session is consistent with the count of minted table ids. -/
def Consistent (s : Session) : Prop := s.store.Consistent s.tablesMinted

/-- The catalogue has only got results since `earlier`. -/
def Grown (earlier : Store) (s : Session) : Prop :=
  ∀ e ∈ s.store.tables, e ∈ earlier.tables ∨ TableName.IsResult e.2.name

theorem Consistent.resultEntry_id {s : Session} (h : s.Consistent) (stage : Stage) (table : String)
    (output : Output) (position : Nat) :
    ∃ n ≤ (recorded s stage position table output).tablesMinted,
      (resultEntry s stage table output).id = Table.mintedId n := by
  unfold recorded resultEntry
  cases hr : reusedTable? s.store stage table with
  | none => exact ⟨s.tablesMinted + 1, Nat.le_refl _, rfl⟩
  | some t => exact h.ids_minted _ (Keyed.mem_keys_of_mem (h.reusedTable?_eq_some_iff.mp hr).1)

theorem tablesMinted_le_recorded (s : Session) (stage : Stage) (position : Nat) (table : String)
    (output : Output) : s.tablesMinted ≤ (recorded s stage position table output).tablesMinted := by
  unfold recorded
  dsimp only
  split
  · exact Nat.le_refl _
  · exact Nat.le_succ _

/-- Executing a stage keeps a session consistent, and adds nothing but results to the catalogue. -/
theorem Consistent.execute {s : Session} (h : s.Consistent) (stage : Stage)
    (active : Option String) :
    (final (Action.execute stage active) s).Consistent ∧
      ∀ earlier, s.Grown earlier → (final (Action.execute stage active) s).Grown earlier := by
  have houtcome := execute_outcome stage active s
  generalize hr : Action.execute stage active s = r at houtcome
  cases houtcome with
  | refused e refusal =>
    rw [final_of_error hr]
    exact ⟨h, fun _ hg => hg⟩
  | broken sql input fault c kind planned ran =>
    rw [final_of_error hr]
    exact ⟨h, fun _ hg => hg⟩
  | loaded table kind found =>
    have hmem := Store.Consistent.mem_of_loadedTable h found
    rw [final_of_ok hr]
    refine ⟨Store.Consistent.commit h (Nat.le_refl _)
      (h.ids_minted _ (Keyed.mem_keys_of_mem hmem)) (.inl ⟨kind, hmem⟩), ?_⟩
    intro earlier hg e he
    rcases h.wellFormed.mem_tables_commit.mp he with rfl | ⟨he, -⟩
    · exact hg _ hmem
    · exact hg e he
  | built sql input output failure kind planned =>
    have hname : TableName.IsResult (resultEntry s stage (outputName s stage) output).name :=
      TableName.isResult_result _ _
    rw [final_of_ok hr]
    refine ⟨Store.Consistent.commit h
      (tablesMinted_le_recorded s stage (position s.store stage) (outputName s stage) output)
      (h.resultEntry_id stage _ output (position s.store stage)) (.inr hname), ?_⟩
    intro earlier hg e he
    rcases h.wellFormed.mem_tables_commit.mp he with rfl | ⟨he, -⟩
    · exact .inr hname
    · exact hg e he

theorem Consistent.addStage {s : Session} (h : s.Consistent) (stage : Stage)
    (active : Option String) :
    (final (Action.addStage stage active) s).Consistent ∧
      ∀ earlier, s.Grown earlier → (final (Action.addStage stage active) s).Grown earlier := by
  refine ⟨?_, fun earlier hg => ?_⟩
  · exact Action.addStage_rule (I := Consistent) (fun _ _ ht => ht)
      (fun stage active _ ht => (ht.execute stage active).1) stage active h
  · refine (Action.addStage_rule (I := fun t => t.Consistent ∧ t.Grown earlier)
      (fun _ _ ht => ht) (fun stage active t ht => ?_) stage active ⟨h, hg⟩).2
    exact ⟨(ht.1.execute stage active).1, (ht.1.execute stage active).2 earlier ht.2⟩

theorem Consistent.importFlow {s : Session} (h : s.Consistent) (mode : ImportMode) (keepIds : Bool)
    (candidates : List Value) : (final (Action.importFlow mode keepIds candidates) s).Consistent := by
  have hrule := Action.importFlow_rule (I := fun t => t.Consistent ∧ t.Grown s.store)
    (fun _ _ ht => ht) mode keepIds candidates (s := s)
    ⟨h, fun _ he => .inl he⟩ (fun t ht => ⟨ht.1.resetStages, ht.2⟩)
    (fun stage _ t ht => ⟨(ht.1.addStage stage none).1, (ht.1.addStage stage none).2 _ ht.2⟩)
  rcases hrule with ht | ⟨t, ht, heq⟩
  · exact ht.1
  · rw [heq]
    exact ht.1.restoreStages h ht.2

/-! ### Source tables -/

theorem Consistent.admitted {name source : String} {s t : Session} (h : s.Consistent)
    (ht : Admitted name source s t) : t.Consistent := by
  cases ht with
  | kept exchanges minted turns le => exact Store.Consistent.mono h le
  | registered exchanges table turns id named sourced => exact Store.Consistent.register h true id

theorem Consistent.createTable {s : Session} (h : s.Consistent) (definition : Value) :
    (final (Action.createTable definition) s).Consistent := by
  rcases Action.createTable_admitted definition s with heq | ⟨d, -, ht⟩
  · rw [heq]
    exact h
  · exact h.admitted ht

theorem Consistent.loadCsv {s : Session} (h : s.Consistent) (file content : String) :
    (final (Action.loadCsv file content) s).Consistent := by
  rcases Action.loadCsv_admitted file content s with ht | ⟨t, ht, heq⟩
  · exact h.admitted ht
  · have htaken := h.admitted ht
    have hminted : Consistent { t with stagesMinted := t.stagesMinted + 1 } := htaken
    rw [heq]
    exact (hminted.execute _ none).1

theorem Consistent.deleteTable {s : Session} (h : s.Consistent) (id : String) :
    (final (Action.deleteTable id) s).Consistent := by
  rcases Action.deleteTable_cases id s with heq | ⟨table, store, failure, hr, heq⟩
  · rw [heq]
    exact h
  · rw [heq]
    exact Store.Consistent.removeTable h hr

/-! ### Runs -/

/-- Every operation keeps a session consistent. -/
theorem Consistent.after {s : Session} (h : s.Consistent) (op : Operation) :
    (op.after s).Consistent := by
  refine Operation.after_rule (I := Consistent) (fun _ _ ht => ht)
    (fun file content _ ht => ht.loadCsv file content)
    (fun definition _ _ ht => ht.createTable definition) (fun id _ ht => ht.deleteTable id)
    ?_ ?_ (fun stage active _ ht => (ht.execute stage active).1)
    (fun mode keepIds candidates _ ht => ht.importFlow mode keepIds candidates) h
  · exact fun _ _ _ _ hr ht => Store.Consistent.setActive ht hr
  · exact fun _ _ _ _ hr ht => Store.Consistent.removeStage ht hr

section

variable {allowed : Session → Operation → Prop} {s : Session} (h : s.ReachableBy allowed)
include h

theorem ReachableBy.consistent : s.Consistent := by
  induction h with
  | opened responder previewRows chatEnabled => exact Store.consistent_empty
  | after h hop ih => exact ih.after _

theorem ReachableBy.rule {I : Session → Prop}
    (hopened : ∀ responder previewRows chatEnabled,
      I (Session.opened responder previewRows chatEnabled))
    (hafter : ∀ {s op}, s.Consistent → I s → allowed s op → I (op.after s)) : I s := by
  induction h with
  | opened responder previewRows chatEnabled => exact hopened responder previewRows chatEnabled
  | after h hop ih => exact hafter h.consistent ih hop

end

theorem consistent_of_reachable {s : Session} (h : s.Reachable) : s.Consistent := by
  obtain ⟨responder, previewRows, chatEnabled, ops, rfl⟩ := h
  have hopened : (opened responder previewRows chatEnabled).Consistent := Store.consistent_empty
  exact afterAll_rule (fun op _ _ ht => ht.after op) hopened

end Session

end StagedSql
