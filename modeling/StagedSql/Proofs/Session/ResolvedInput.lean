import StagedSql.Proofs.Query.SourceTable
import StagedSql.Proofs.Session.CatalogueNames
import StagedSql.Proofs.Session.ReadingAgain

/-!
# The input that is resolved for a stage

The input is resolved from the entries of the payload and from the store, and the compiler decides again, from
the typed payload, what is read. The two never differ: the statement reads the input that was resolved.
-/

namespace StagedSql

open Outcome Materialization

/-! ### Tables that are found -/

namespace Store

variable {s : Store} {id : String} {active : Option String} {t : Table}

theorem mem_of_tableAt? (h : s.tableAt? id = some t) : t ∈ s.tables.values := by
  unfold tableAt? at h
  split at h
  · cases h
  · exact Keyed.mem_values_iff.mpr ⟨id, Keyed.mem_of_lookup? h⟩

theorem mem_of_outputBefore? {place : Nat} (h : outputBefore? s place = some t) :
    t ∈ s.tables.values := by
  unfold outputBefore? at h
  split at h
  · cases h
  · obtain ⟨previous, -, h⟩ := Option.bind_eq_some_iff.mp h
    obtain ⟨id, -, h⟩ := Option.bind_eq_some_iff.mp h
    exact mem_of_tableAt? h

theorem mem_of_viewedTable? (h : viewedTable? s active = some t) : t ∈ s.tables.values := by
  unfold viewedTable? at h
  rcases Option.or_eq_some_iff.mp h with h | ⟨-, h⟩
  · rcases Option.or_eq_some_iff.mp h with h | ⟨-, h⟩
    · obtain ⟨id, -, h⟩ := Option.bind_eq_some_iff.mp h
      exact mem_of_tableAt? h
    · obtain ⟨id, -, h⟩ := Option.bind_eq_some_iff.mp h
      exact mem_of_tableAt? h
  · exact List.mem_of_mem_head? h

theorem tables_eq_nil_of_viewedTable? (h : viewedTable? s active = none) : s.tables = [] := by
  unfold viewedTable? at h
  have hfirst := (Option.or_eq_none_iff.mp h).2
  exact List.map_eq_nil_iff.mp (List.head?_eq_none_iff.mp hfirst)

end Store

/-! ### The input -/

theorem Value.givenText?_ne_empty {v : Value} {name : String} (h : v.givenText? = some name) :
    name ≠ "" := by
  cases v with
  | text t =>
    simp only [givenText?] at h
    split at h
    · cases h
    · next hne =>
      obtain rfl := Option.some.inj h
      exact hne
  | _ => cases h

/-- The stage reads the table of the name, whichever way it is told to. -/
structure Stage.ReadsExactly (stage : Stage) (name : String) : Prop where
  /-- The compiler does not miss an input. -/
  provided : ∀ kind, Query.compile stage (some name) ≠ .error (.noInput kind)
  /-- The statement is the one of the stage that names the table, under any other input. -/
  named : ∀ sql, Query.compile stage (some name) = .ok sql →
    ∀ input, Query.compile (stage.naming name) input = .ok sql

namespace Session

/-- An input cannot be resolved only if the payload names none and there are no tables. The input that is
resolved has a name, which is in the catalogue unless the payload gives it, and is what the statement reads. -/
theorem inputFor_reads_exactly {s : Session} (hs : s.Reachable) {stage : Stage}
    (hreads : stage.kind.readsDefault) (place : Nat) (active : Option String) :
    (inputFor s.store stage place active = .error (.resolution stage.id (.noInput stage.kind)) ∧
      stage.referencedTable? = none ∧ s.store.tables = []) ∨
    ∃ name, inputFor s.store stage place active = .ok (some name) ∧ name ≠ "" ∧
      (stage.referencedTable? = none → ∃ t ∈ s.store.tables.values, t.name = name) ∧
      stage.ReadsExactly name := by
  have hexactly : ∀ {name}, name ≠ "" → stage.referencedTable?.getD name = name →
      stage.ReadsExactly name := fun hne hnamed =>
    ⟨fun kind hproblem => Query.hasInput_compile hne stage _ hproblem kind rfl,
      fun _ hsql input => Query.compile_naming hne hreads hnamed hsql input⟩
  unfold inputFor
  cases hname : stage.referencedTable? with
  | some name =>
    have hne : name ≠ "" := Value.givenText?_ne_empty hname
    exact .inr ⟨name, rfl, hne, nofun, hexactly hne (by rw [hname, Option.getD_some])⟩
  | none =>
    dsimp only
    cases hfound : (outputBefore? s.store place).or (viewedTable? s.store active) with
    | some t =>
      have hmem : t ∈ s.store.tables.values := by
        rcases Option.or_eq_some_iff.mp hfound with h | ⟨-, h⟩
        · exact Store.mem_of_outputBefore? h
        · exact Store.mem_of_viewedTable? h
      obtain ⟨id, hentry⟩ := Keyed.mem_values_iff.mp hmem
      have hne : t.name ≠ "" := (catalogued_of_reachable hs _ hentry).ne_empty
      exact .inr ⟨t.name, rfl, hne, fun _ => ⟨t, hmem, rfl⟩,
        hexactly hne (by rw [hname, Option.getD_none])⟩
    | none =>
      have hview := (Option.or_eq_none_iff.mp hfound).2
      refine .inl ⟨?_, rfl, Store.tables_eq_nil_of_viewedTable? hview⟩
      simp only [if_pos hreads]

theorem selecting_reads_exactly : ordersCreated.Reachable ∧ selecting.kind.readsDefault = true ∧
    inputFor ordersCreated.store selecting (position ordersCreated.store selecting) none =
      .ok (some "orders") ∧
    Query.compile selecting (some "orders") = .ok "SELECT id FROM orders" ∧
    ∀ input, Query.compile (selecting.naming "orders") input = .ok "SELECT id FROM orders" := by
  have hreads : selecting.kind.readsDefault = true := rfl
  have hinput : inputFor ordersCreated.store selecting (position ordersCreated.store selecting) none =
      .ok (some "orders") := ok_of_toOption (by decide +kernel)
  have hsql : Query.compile selecting (some "orders") = .ok "SELECT id FROM orders" :=
    ok_of_toOption (by decide +kernel)
  rcases inputFor_reads_exactly reachable_ordersCreated hreads
    (position ordersCreated.store selecting) none with ⟨herror, -⟩ | ⟨name, hname, -, -, hexactly⟩
  · rw [hinput] at herror
    cases herror
  · obtain rfl : "orders" = name := Option.some.inj (Except.ok.inj (hinput.symm.trans hname))
    exact ⟨reachable_ordersCreated, hreads, hinput, hsql, hexactly.named _ hsql⟩

end Session

end StagedSql
