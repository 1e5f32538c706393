import StagedSql.Proofs.EngineName
import StagedSql.Proofs.Session.CatalogueNames

/-!
# Entries for one table of the engine

The catalogue compares names as texts, and the engine does not. Results and the tables of files are named
as the engine reads the names, so two entries stand for one table of the engine only if a definition has
given one of them a name in another spelling.
-/

namespace StagedSql

open Engine Outcome TableName

/-- The table was defined under a name that the engine reads as another one. -/
structure Table.Respelled (t : Table) : Prop where
  source : t.source = fromDefinition
  safe : Identifier.isSafe t.name = true
  denoted_ne : denoted t.name ≠ t.name

theorem Table.HasOrigin.respelled {t : Table} (h : t.HasOrigin) (hne : denoted t.name ≠ t.name) :
    t.Respelled := by
  cases h with
  | result i kind named sourced => exact absurd (named ▸ denoted_result i kind) hne
  | ofFile file named sourced => exact absurd (named ▸ denoted_ofFile file) hne
  | defined safe sourced => exact ⟨sourced, safe, hne⟩

/-- Tables of which neither is respelled have one name if they stand for one table of the engine. -/
theorem Table.name_eq_or_respelled {t u : Table} (ht : t.HasOrigin) (hu : u.HasOrigin)
    (hsame : SameTable t.name u.name) : t.name = u.name ∨ t.Respelled ∨ u.Respelled := by
  by_cases htn : denoted t.name = t.name
  · by_cases hun : denoted u.name = u.name
    · exact .inl (htn.symm.trans (hsame.trans hun))
    · exact .inr (.inr (hu.respelled hun))
  · exact .inr (.inl (ht.respelled htn))

namespace Session

/-- No two entries of the catalogue stand for one table of the engine. -/
def DistinctTables (s : Session) : Prop :=
  ∀ e ∈ s.store.tables, ∀ f ∈ s.store.tables, SameTable e.2.name f.2.name → e = f

/-- The creation of a table keeps the entries apart exactly if no entry has its name in another
spelling. -/
theorem Consistent.distinctTables_createTable {s t : Session} (h : s.Consistent)
    (hs : s.DistinctTables) {definition : Value} {d : TableDefinition} {table : Table}
    (hread : TableDefinition.read definition = .ok d)
    (hok : Action.createTable definition s = .ok table t) :
    t.DistinctTables ↔ ∀ e ∈ s.store.tables, SameTable e.2.name d.name → e.2.name = d.name := by
  have houtcome := Action.createTable_outcome definition s
  rw [hok] at houtcome
  cases houtcome with
  | made d' exchanges table read sent turns id named sourced =>
    obtain rfl := Except.ok.inj (hread.symm.trans read)
    have hmem : ∀ e, e ∈ (s.store.register table true).2.tables ↔
        e = ((s.store.register table true).1.id, (s.store.register table true).1) ∨
          e ∈ s.store.tables ∧ e.2.name ≠ d.name := fun e =>
      named ▸ Store.Consistent.mem_tables_registered h id
    have hname : (s.store.register table true).1.name = d.name :=
      (Store.register_name s.store table true).trans named
    generalize (s.store.register table true).1 = created at hmem hname
    constructor
    · intro hdistinct e he hsame
      by_contra hne
      have heq := hdistinct e ((hmem e).mpr (.inr ⟨he, hne⟩)) (created.id, created)
        ((hmem _).mpr (.inl rfl)) (hname.symm ▸ hsame)
      exact hne (heq ▸ hname)
    · intro hspelled e he f hf hsame
      rcases (hmem e).mp he with rfl | ⟨he, hne⟩
      · rcases (hmem f).mp hf with rfl | ⟨hf, hnf⟩
        · rfl
        · exact absurd (hspelled f hf (hname ▸ hsame.symm)) hnf
      · rcases (hmem f).mp hf with rfl | ⟨hf, -⟩
        · exact absurd (hspelled e he (hname ▸ hsame)) hne
        · exact hs e he f hf hsame

/-- Of two entries that stand for one table of the engine, a definition has named one in another
spelling. So it is when an entry is deleted, which drops its table: an entry that stays and stands for
the dropped table has another spelling, or the deleted one had. Creating a table keeps the entries
apart exactly if none of them has the new name in another spelling. -/
theorem entries_distinct_unless_respelled {s : Session} (hs : s.Reachable) :
    (∀ e ∈ s.store.tables, ∀ f ∈ s.store.tables, SameTable e.2.name f.2.name →
      e = f ∨ e.2.Respelled ∨ f.2.Respelled) ∧
    (∀ id table t, Action.deleteTable id s = .ok table t →
      (∃ failure, t.connection = s.connection.after [⟨.dropTable table.name, failure⟩]) ∧
      ∀ e ∈ t.store.tables, SameTable e.2.name table.name → e.2.Respelled ∨ table.Respelled) ∧
    (∀ definition d table t, TableDefinition.read definition = .ok d →
      Action.createTable definition s = .ok table t → s.DistinctTables →
      (t.DistinctTables ↔
        ∀ e ∈ s.store.tables, SameTable e.2.name d.name → e.2.name = d.name)) := by
  have hconsistent := consistent_of_reachable hs
  have horigin := originated_of_reachable hs
  have hpair : ∀ e ∈ s.store.tables, ∀ f ∈ s.store.tables, SameTable e.2.name f.2.name →
      e = f ∨ e.2.Respelled ∨ f.2.Respelled := fun e he f hf hsame =>
    (Table.name_eq_or_respelled (horigin e he) (horigin f hf) hsame).imp_left
      (hconsistent.wellFormed.eq_of_name_eq he hf)
  refine ⟨hpair, ?_, fun definition d table t hread hok hdistinct =>
    hconsistent.distinctTables_createTable hdistinct hread hok⟩
  intro id table t hok
  rcases Action.deleteTable_outcome id s with ⟨e, heq⟩ | ⟨table', store, failure, hr, heq⟩
  · cases hok.symm.trans heq
  obtain ⟨rfl, rfl⟩ := EStateM.Result.ok.inj (hok.symm.trans heq)
  obtain ⟨hlookup, -, rfl⟩ := Store.removeTable_eq_ok_iff.mp hr
  refine ⟨⟨failure, rfl⟩, fun e he hsame => ?_⟩
  obtain ⟨hmem, hkey⟩ := List.mem_filter.mp he
  refine (hpair e hmem (id, table) (Keyed.mem_of_lookup? hlookup) hsame).resolve_left ?_
  rintro rfl
  simp at hkey

def ordersBeside (name : String) : Session :=
  (silent false).afterAll
    [.createTable (singleColumn "orders"), .createTable (singleColumn name)]

theorem reachable_ordersBeside (name : String) : (ordersBeside name).Reachable :=
  (reachable_silent false).afterAll _

/-- Names in lower case are told apart as the engine does. -/
theorem orders_beside_customers :
    (ordersBeside "customers").Reachable ∧
    (ordersBeside "customers").store.tables.values.map (·.name) = ["orders", "customers"] ∧
    (ordersBeside "customers").DistinctTables := by
  have hspelled : ∀ e ∈ (ordersBeside "customers").store.tables,
      denoted e.2.name = e.2.name := by
    decide +kernel
  refine ⟨reachable_ordersBeside _, by decide +kernel, fun e he f hf hsame => ?_⟩
  rcases (entries_distinct_unless_respelled (reachable_ordersBeside "customers")).1 e he f hf hsame
    with heq | h | h
  · exact heq
  · exact absurd (hspelled e he) h.denoted_ne
  · exact absurd (hspelled f hf) h.denoted_ne

/-- Two spellings of a name give two entries for one table, and the deletion of the second entry drops
the table of the first. -/
theorem orders_beside_capital :
    (ordersBeside "Orders").Reachable ∧
    (ordersBeside "Orders").store.tables.values.map (·.name) = ["orders", "Orders"] ∧
    SameTable "orders" "Orders" ∧ ¬ (ordersBeside "Orders").DistinctTables ∧
    ∃ t, result? (Action.deleteTable (Table.mintedId 2)) (ordersBeside "Orders") = some t ∧
      (final (Action.deleteTable (Table.mintedId 2)) (ordersBeside "Orders")).connection.log.getLast? =
        some ⟨.dropTable "Orders", none⟩ ∧
      (final (Action.deleteTable (Table.mintedId 2))
        (ordersBeside "Orders")).store.tables.values.map (·.name) = ["orders"] := by
  have hdeleted : (result? (Action.deleteTable (Table.mintedId 2)) (ordersBeside "Orders")).isSome := by
    decide +kernel
  obtain ⟨t, ht⟩ := Option.isSome_iff_exists.mp hdeleted
  have hpair : ∃ e ∈ (ordersBeside "Orders").store.tables,
      ∃ f ∈ (ordersBeside "Orders").store.tables, SameTable e.2.name f.2.name ∧ e.1 ≠ f.1 := by
    decide +kernel
  obtain ⟨e, he, f, hf, hsame, hne⟩ := hpair
  exact ⟨reachable_ordersBeside _, by decide +kernel, by decide,
    fun hdistinct => hne (congrArg Prod.fst (hdistinct e he f hf hsame)), t, ht, by decide +kernel,
    by decide +kernel⟩

end Session

end StagedSql
