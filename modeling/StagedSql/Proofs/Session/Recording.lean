import StagedSql.Proofs.Session.Consistent
import StagedSql.Proofs.Session.Minting

/-!
# Ids and names of tables

An output keeps the id of the stage's earlier one or takes over that of a table of its name that no
stage has. So a table changes its name only if the stage that has it as its output is executed at
another position or as another kind.
-/

namespace StagedSql

open Outcome Materialization

/-- Where the id of an output with the given name comes from. -/
inductive EntryId (s : Session) (stage : Stage) (name : String) : String → Prop
  | kept (t : Table) (own : s.store.outputOf? stage.id = some t) : EntryId s stage name t.id
  | adopted (t : Table) (none : s.store.outputOf? stage.id = none)
      (mem : (t.id, t) ∈ s.store.tables) (named : t.name = name)
      (unowned : ∀ id, (id, t.id) ∉ s.store.outputs) : EntryId s stage name t.id
  | minted (none : s.store.outputOf? stage.id = none) :
      EntryId s stage name (Table.mintedId (s.tablesMinted + 1))

namespace Session

/-- A table of `t` has an id that was minted since `s`, or the id and the name of a table of `s`. -/
structure NamesKept (s t : Session) : Prop where
  le : s.tablesMinted ≤ t.tablesMinted
  entries : ∀ f ∈ t.store.tables,
    (∃ n, s.tablesMinted < n ∧ f.1 = Table.mintedId n) ∨
      ∃ e ∈ s.store.tables, e.1 = f.1 ∧ e.2.name = f.2.name

theorem NamesKept.of_mem {s t : Session} (hle : s.tablesMinted ≤ t.tablesMinted)
    (h : ∀ e ∈ t.store.tables, e ∈ s.store.tables) : s.NamesKept t :=
  ⟨hle, fun f hf => .inr ⟨f, h f hf, rfl, rfl⟩⟩

theorem NamesKept.refl (s : Session) : s.NamesKept s := .of_mem (Nat.le_refl _) fun _ he => he

theorem NamesKept.trans {s t u : Session} (hst : s.NamesKept t) (htu : t.NamesKept u) :
    s.NamesKept u := by
  refine ⟨Nat.le_trans hst.le htu.le, fun g hg => ?_⟩
  rcases htu.entries g hg with ⟨n, hn, hid⟩ | ⟨f, hf, hkey, hname⟩
  · exact .inl ⟨n, Nat.lt_of_le_of_lt hst.le hn, hid⟩
  · rcases hst.entries f hf with ⟨n, hn, hid⟩ | ⟨e, he, hkey', hname'⟩
    · exact .inl ⟨n, hn, hkey ▸ hid⟩
    · exact .inr ⟨e, he, hkey'.trans hkey, hname'.trans hname⟩

theorem NamesKept.of_same {s t u : Session} (h : s.NamesKept t) (hstore : u.store = t.store)
    (hminted : u.tablesMinted = t.tablesMinted) : s.NamesKept u := by
  refine ⟨hminted ▸ h.le, ?_⟩
  rw [hstore]
  exact h.entries

theorem Consistent.of_same {s t : Session} (h : s.Consistent) (hstore : t.store = s.store)
    (hminted : t.tablesMinted = s.tablesMinted) : t.Consistent := by
  unfold Consistent
  rw [hstore, hminted]
  exact h

section

variable {s : Session} (h : s.Consistent)
include h

theorem Consistent.name_eq {t : Session} (hk : s.NamesKept t) {id : String} {old new : Table}
    (hold : (id, old) ∈ s.store.tables) (hnew : (id, new) ∈ t.store.tables) :
    new.name = old.name := by
  rcases hk.entries _ hnew with ⟨n, hn, hid⟩ | ⟨e, he, hkey, hname⟩
  · obtain ⟨m, hm, hid'⟩ := h.ids_minted _ (Keyed.mem_keys_of_mem hold)
    have hmn : m = n := Table.mintedId_injective (hid'.symm.trans hid)
    omega
  · have heq := h.wellFormed.eq_of_key_eq he hold hkey
    rw [← hname, heq]

theorem Consistent.exists_outputOf?_of_namesKept {t : Session} (hafter : t.Consistent)
    (hk : s.NamesKept t) (houtputs : t.store.outputs = s.store.outputs) {id : String} {old : Table}
    (hold : s.store.outputOf? id = some old) :
    ∃ new, t.store.outputOf? id = some new ∧ new.name = old.name := by
  obtain ⟨hout, hmem⟩ := (Store.Consistent.outputOf?_eq_some_iff h).mp hold
  rw [← houtputs] at hout
  obtain ⟨new, hnew, hid⟩ := Store.Consistent.exists_outputOf? hafter hout
  have hfound := ((Store.Consistent.outputOf?_eq_some_iff hafter).mp hnew).2
  rw [hid] at hfound
  exact ⟨new, hnew, h.name_eq hk hmem hfound⟩

theorem Consistent.entryId (stage : Stage) (name : String) (output : Output) :
    EntryId s stage name (resultEntry s stage name output).id := by
  unfold resultEntry
  cases hr : reusedTable? s.store stage name with
  | none => exact .minted (Option.or_eq_none_iff.mp hr).1
  | some t =>
    obtain ⟨hmem, hown | ⟨hnone, hname, hunowned⟩⟩ := (Store.Consistent.reusedTable?_eq_some_iff h).mp hr
    · exact .kept t hown
    · exact .adopted t hnone hmem hname hunowned

theorem Consistent.entryId_other {stage : Stage} {name id other : String}
    (hid : EntryId s stage name id) (hout : (other, id) ∈ s.store.outputs) :
    ∃ t, s.store.outputOf? stage.id = some t ∧ t.id = id := by
  cases hid with
  | kept t own => exact ⟨t, own, rfl⟩
  | adopted t _ mem named unowned => exact absurd hout (unowned other)
  | minted none => exact absurd (h.wellFormed.output_mem _ hout) (Store.Consistent.fresh h)

theorem Consistent.mem_tables_built {stage : Stage} {name : String} {output : Output}
    {position : Int} (hown : s.store.outputOf? stage.id = none) {e : String × Table} :
    e ∈ (s.store.commit stage (resultEntry s stage name output) position).2.tables ↔
      e = ((resultEntry s stage name output).id, resultEntry s stage name output) ∨
        e ∈ s.store.tables ∧ e.2.name ≠ name := by
  have hname : (resultEntry s stage name output).name = name := rfl
  have hid := h.entryId stage name output
  rw [h.wellFormed.mem_tables_commit, hname]
  refine or_congr_right (and_congr_right fun he => ⟨fun hne => hne.2, fun hne => ⟨?_, hne⟩⟩)
  intro hkey
  generalize (resultEntry s stage name output).id = id at hid hkey
  cases hid with
  | kept t own =>
    rw [hown] at own
    cases own
  | adopted t _ mem named _ => exact hne (h.wellFormed.eq_of_key_eq he mem hkey ▸ named)
  | minted => exact Store.Consistent.fresh h (hkey ▸ Keyed.mem_keys_of_mem he)

/-- Executing a stage keeps the names, unless its output gets another one. -/
theorem Consistent.namesKept_execute {stage : Stage} {active : Option String}
    (hown : stage.kind ≠ .load → ∀ t, s.store.outputOf? stage.id = some t →
      t.name = outputName s stage) :
    s.NamesKept (final (Action.execute stage active) s) := by
  have houtcome := execute_outcome stage active s
  generalize hr : Action.execute stage active s = r at houtcome
  cases houtcome with
  | refused e refusal =>
    rw [final_of_error hr]
    exact .refl s
  | broken sql input fault c kind planned ran =>
    rw [final_of_error hr]
    exact .of_mem (Nat.le_refl _) fun _ he => he
  | loaded table kind found =>
    have hmem := Store.Consistent.mem_of_loadedTable h found
    rw [final_of_ok hr]
    exact .of_mem (Nat.le_refl _) fun e he => (h.wellFormed.mem_tables_commit_of_mem hmem).mp he
  | built sql input output failure kind planned =>
    have hid := h.entryId stage (outputName s stage) output
    have hle := tablesMinted_le_recorded s stage (position s.store stage) (outputName s stage) output
    rw [final_of_ok hr]
    refine ⟨hle, fun f hf => ?_⟩
    rcases h.wellFormed.mem_tables_commit.mp hf with rfl | ⟨hf, -⟩
    · dsimp only
      generalize (resultEntry s stage (outputName s stage) output).id = id at hid
      cases hid with
      | kept t own =>
        have hmem := ((Store.Consistent.outputOf?_eq_some_iff h).mp own).2
        exact .inr ⟨_, hmem, rfl, hown kind t own⟩
      | adopted t _ mem named _ => exact .inr ⟨_, mem, rfl, named⟩
      | minted => exact .inl ⟨_, Nat.lt_succ_self _, rfl⟩
    · exact .inr ⟨f, hf, rfl, rfl⟩

theorem Consistent.namesKept_admitted {name source : String} {t : Session}
    (ht : Admitted name source s t) : s.NamesKept t := by
  cases ht with
  | kept exchanges minted turns le => exact .of_mem le fun _ he => he
  | registered exchanges table turns id named sourced =>
    refine ⟨Nat.le_succ _, fun f hf => ?_⟩
    rcases h.wellFormed.mem_tables_register.mp hf with rfl | ⟨hf, -⟩
    · dsimp only
      rw [Store.register_name]
      rcases Store.Consistent.register_cases h table true with ⟨e, he, hkey, hname⟩ | heq
      · exact .inr ⟨e, he, hkey, hname⟩
      · rw [heq]
        exact .inl ⟨_, Nat.lt_succ_self _, id⟩
    · exact .inr ⟨f, hf, rfl, rfl⟩

end

end Session

end StagedSql
