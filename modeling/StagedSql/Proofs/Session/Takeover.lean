import StagedSql.Proofs.Session.Suggesting

/-!
# Definitions and the outputs of stages

A table that is created from a definition takes the place of the table of its name, whoever has made
that one. The output of a stage is overwritten if the definition has its name, and it is left alone
otherwise.
-/

namespace StagedSql

open Engine Outcome

/-- The entry under an id after a registration: the new table if it has the name of the entry. -/
theorem Store.Consistent.lookup?_register {s : Store} {minted : Nat} (h : s.Consistent minted)
    {table : Table} (hid : table.id = Table.mintedId (minted + 1)) (makeActive : Bool) {id : String}
    {entry : Table} (he : s.tables.lookup? id = some entry) :
    (s.register table makeActive).2.tables.lookup? id =
      some (if entry.name = table.name then (s.register table makeActive).1 else entry) := by
  have hmem := Keyed.mem_of_lookup? he
  have hnodup := (h.register makeActive hid).wellFormed.tables_nodup
  refine Keyed.lookup?_of_mem hnodup ((h.mem_tables_registered hid).mpr ?_)
  by_cases hname : entry.name = table.name
  · rw [if_pos hname, ← h.wellFormed.register_id makeActive hmem hname]
    exact .inl rfl
  · rw [if_neg hname]
    exact .inr ⟨hmem, hname⟩

namespace Action

theorem stageId_of_registerTable {name source : String} {s t : Session} {table : Table}
    (h : registerTable name source s = .ok table t) : table.stageId = none := by
  unfold registerTable at h
  obtain ⟨columns, s₁, -, h⟩ := exists_of_run_ok h
  obtain ⟨u, s₂, -, h⟩ := exists_of_run_ok h
  obtain ⟨preview, s₃, -, h⟩ := exists_of_run_ok h
  obtain ⟨id, s₄, -, h⟩ := exists_of_run_ok h
  obtain ⟨rowCount, s₅, -, h⟩ := exists_of_run_ok h
  obtain ⟨rfl, -⟩ := EStateM.Result.ok.inj h
  exact Store.register_stageId _ _ true

theorem stageId_of_createTable {definition : Value} {s t : Session} {table : Table}
    (h : createTable definition s = .ok table t) : table.stageId = none := by
  rcases createTable_cases definition s with ⟨fault, -, heq⟩ |
    ⟨d, -, ⟨done, rest, failing, reason, rollback, -, heq⟩ | heq⟩
  · cases h.symm.trans heq
  · cases h.symm.trans heq
  · exact stageId_of_registerTable (heq.symm.trans h)

end Action

namespace Session

/-- A table that is created from a definition leaves every stage its entry in the map. The entry of a
stage other than LOAD stays in the catalogue as it is, unless it has the name of the definition: then it
becomes the created table. Nothing else is created, replaced, renamed or dropped in the engine. -/
theorem createTable_overwrites_name {s t : Session} (hs : s.Reachable) {definition : Value}
    {table : Table} (h : Action.createTable definition s = .ok table t) :
    ∃ d, TableDefinition.read definition = .ok d ∧
      table.name = d.name ∧ table.stageId = none ∧ table.source = Table.fromDefinition ∧
      (∃ exchanges, t.connection = s.connection.after exchanges ∧
        ∀ x ∈ exchanges, ∀ name ∈ x.statement.targets, name = d.name) ∧
      t.store.stages = s.store.stages ∧
      ∀ stage ∈ s.store.stages, stage.kind ≠ .load →
        ∀ id, s.store.outputs.lookup? stage.id = some id →
          t.store.outputs.lookup? stage.id = some id ∧
          ∃ entry, s.store.tables.lookup? id = some entry ∧ TableName.IsResult entry.name ∧
            t.store.tables.lookup? id = some (if entry.name = d.name then table else entry) := by
  have hconsistent := consistent_of_reachable hs
  have hstage := Action.stageId_of_createTable h
  have houtcome := Action.createTable_outcome definition s
  rw [h] at houtcome
  cases houtcome with
  | made d exchanges table read sent turns id named sourced =>
    refine ⟨d, read, (Store.register_name ..).trans named, hstage,
      (Store.register_source ..).trans sourced, ⟨exchanges, rfl, fun x hx name hname => ?_⟩, rfl, ?_⟩
    · rcases TableDefinition.targets_of_sends (sent x hx) with hnone | hcreates
      · rw [hnone] at hname
        cases hname
      · rw [hcreates] at hname
        exact List.mem_singleton.mp hname
    · intro stage hmem hkind key hkey
      have hout := Keyed.mem_of_lookup? hkey
      obtain ⟨entry, hentry⟩ := Store.WellFormed.exists_table hconsistent.wellFormed hout
      have hlookup := Keyed.lookup?_of_mem hconsistent.wellFormed.tables_nodup hentry
      refine ⟨hkey, entry, hlookup, Store.Consistent.named hconsistent stage hmem hkind _ _ hout hentry, ?_⟩
      have hregister := Store.Consistent.lookup?_register hconsistent id true hlookup
      rwa [named] at hregister

/-- The output stays when another table is created. -/
theorem custom_kept_by_orders : ∃ table t,
    single.Reachable ∧ Action.createTable (singleColumn "orders") single = .ok table t ∧
      ∃ entry, single.store.tables.lookup? (Table.mintedId 1) = some entry ∧
        t.store.tables.lookup? (Table.mintedId 1) = some entry := by
  have hok : (result? (Action.createTable (singleColumn "orders")) single).isSome := by
    decide +kernel
  obtain ⟨table, htable⟩ := Option.isSome_iff_exists.mp hok
  have hrun := ok_of_result? htable
  obtain ⟨d, hread, -, -, -, -, -, houtputs⟩ :=
    createTable_overwrites_name reachable_single hrun
  obtain ⟨-, entry, hentry, -, hafter⟩ := houtputs ⟨"a", .custom, "", [("sql", .text "SELECT 1")]⟩
    (by decide +kernel) (by decide) (Table.mintedId 1) (by decide +kernel)
  have hdefined : TableDefinition.read (singleColumn "orders") =
      .ok ⟨"orders", [⟨"id", "VARCHAR"⟩], []⟩ := by
    decide +kernel
  have hnamed : (single.store.tables.lookup? (Table.mintedId 1)).map (·.name) =
      some "result_stage_0_custom" := by
    decide +kernel
  rw [hentry] at hnamed
  have hname : entry.name = "result_stage_0_custom" := Option.some.inj hnamed
  rw [← Except.ok.inj (hdefined.symm.trans hread), hname] at hafter
  exact ⟨table, _, reachable_single, hrun, entry, hentry, hafter⟩

/-- The output is overwritten when a table of its name is created. -/
theorem custom_overwritten : ∃ table t,
    single.Reachable ∧
      Action.createTable (singleColumn "result_stage_0_custom") single = .ok table t ∧
      single.store.outputs = [("a", Table.mintedId 1)] ∧
      t.store.outputs = [("a", Table.mintedId 1)] ∧
      (single.store.tables.map fun e => (e.1, e.2.name, e.2.stageId, e.2.source)) =
        [(Table.mintedId 1, "result_stage_0_custom", some "a", Table.fromStage)] ∧
      (t.store.tables.map fun e => (e.1, e.2.name, e.2.stageId, e.2.source)) =
        [(Table.mintedId 1, "result_stage_0_custom", none, Table.fromDefinition)] ∧
      .createTable "result_stage_0_custom" [⟨"id", "VARCHAR"⟩] ∈
        t.connection.statements.drop single.connection.statements.length := by
  have hok : (result? (Action.createTable (singleColumn "result_stage_0_custom")) single).isSome := by
    decide +kernel
  obtain ⟨table, htable⟩ := Option.isSome_iff_exists.mp hok
  exact ⟨table, _, reachable_single, ok_of_result? htable, by decide +kernel, by decide +kernel,
    by decide +kernel, by decide +kernel, by decide +kernel⟩

end Session

end StagedSql
