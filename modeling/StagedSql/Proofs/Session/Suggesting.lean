import StagedSql.Proofs.Session.SourceTables

/-!
# Suggestions that are not applied

The tables of a suggestion are created before its stages are looked at, also if nothing is to be applied.
Whatever the reply of the language model, this only adds tables and replaces those that a definition
names.
-/

namespace StagedSql

open Engine Outcome

/-! ### Adding tables -/

theorem TableDefinition.targets_of_sends {d : TableDefinition} {s : Statement} (h : d.Sends s) :
    s.targets = [] ∨ s = .createTable d.name d.columns := by
  rcases h with h | rfl | h
  · rcases List.mem_cons.mp h with rfl | h
    · exact .inl rfl
    rcases List.mem_append.mp h with h | h
    · rcases List.mem_cons.mp h with rfl | h
      · exact .inr rfl
      · split at h
        · cases h
        · rw [List.mem_singleton.mp h]
          exact .inl rfl
    · rw [List.mem_singleton.mp h]
      exact .inl rfl
  · exact .inl rfl
  · cases s <;> first | exact .inl rfl | cases h

def TableDefinition.IsAmong (d : TableDefinition) (definitions : List Fields) : Prop :=
  ∃ fields ∈ definitions, read (.object fields) = .ok d

/-- The statement creates, replaces, renames and drops nothing, or it creates a table by one of the
definitions. -/
def Engine.Statement.OnlyCreates (s : Statement) (definitions : List Fields) : Prop :=
  s.targets = [] ∨ ∃ d : TableDefinition, d.IsAmong definitions ∧ s = .createTable d.name d.columns

section

variable {d : TableDefinition} {st : Statement} {definitions more : List Fields}

theorem TableDefinition.IsAmong.mono (h : d.IsAmong definitions)
    (hsub : ∀ fields ∈ definitions, fields ∈ more) : d.IsAmong more := by
  obtain ⟨fields, hmem, hread⟩ := h
  exact ⟨fields, hsub fields hmem, hread⟩

theorem Engine.Statement.OnlyCreates.mono (h : st.OnlyCreates definitions)
    (hsub : ∀ fields ∈ definitions, fields ∈ more) : st.OnlyCreates more := by
  refine h.imp_right ?_
  rintro ⟨d, hd, heq⟩
  exact ⟨d, hd.mono hsub, heq⟩

end

namespace Session

/-- What creating tables by some definitions has come to. -/
structure TablesAdded (definitions : List Fields) (created : List Table) (s t : Session) : Prop where
  stages_eq : t.store.stages = s.store.stages
  outputs_eq : t.store.outputs = s.store.outputs
  ids_kept : s.store.tables.keys <+: t.store.tables.keys
  /-- A table stays as it is, or a created one of its name has its id. -/
  kept : ∀ e ∈ s.store.tables,
    (e ∈ t.store.tables ∧ ∀ table ∈ created, table.name ≠ e.2.name) ∨
      ∃ table ∈ created, table.name = e.2.name ∧ (e.1, table) ∈ t.store.tables
  added : ∀ e ∈ t.store.tables, e ∈ s.store.tables ∨ e.2 ∈ created
  defined : ∀ table ∈ created,
    ∃ d : TableDefinition, d.IsAmong definitions ∧ table.name = d.name
  sent : ∃ exchanges, t.connection = s.connection.after exchanges ∧
    ∀ x ∈ exchanges, x.statement.OnlyCreates definitions

variable {definitions rest : List Fields} {created more : List Table} {s t u : Session}

theorem TablesAdded.of_sent {exchanges : List Exchange} (minted : Nat)
    (hsent : ∀ x ∈ exchanges, x.statement.OnlyCreates definitions) :
    s.TablesAdded definitions []
      { s with connection := s.connection.after exchanges, tablesMinted := minted } where
  stages_eq := rfl
  outputs_eq := rfl
  ids_kept := List.prefix_refl _
  kept := fun _ he => .inl ⟨he, fun _ htable => absurd htable List.not_mem_nil⟩
  added := fun _ he => .inl he
  defined := fun _ htable => absurd htable List.not_mem_nil
  sent := ⟨exchanges, rfl, hsent⟩

theorem TablesAdded.refl (definitions : List Fields) (s : Session) :
    s.TablesAdded definitions [] s := by
  have hnone : ∀ x ∈ ([] : List Exchange), x.statement.OnlyCreates definitions :=
    fun _ hx => absurd hx List.not_mem_nil
  have h := TablesAdded.of_sent s.tablesMinted hnone (s := s)
  rwa [Connection.after_nil] at h

theorem TablesAdded.trans (h : s.TablesAdded definitions created t) (h' : t.TablesAdded rest more u) :
    s.TablesAdded (definitions ++ rest) (created ++ more) u where
  stages_eq := h'.stages_eq.trans h.stages_eq
  outputs_eq := h'.outputs_eq.trans h.outputs_eq
  ids_kept := h.ids_kept.trans h'.ids_kept
  kept := by
    intro e he
    rcases h.kept e he with ⟨hmem, hnone⟩ | ⟨table, htable, hname, hmem⟩
    · rcases h'.kept e hmem with ⟨hmem', hnone'⟩ | ⟨table', htable', hname', hmem'⟩
      · refine .inl ⟨hmem', fun table htable => ?_⟩
        exact (List.mem_append.mp htable).elim (hnone table) (hnone' table)
      · exact .inr ⟨table', List.mem_append_right _ htable', hname', hmem'⟩
    · rcases h'.kept _ hmem with ⟨hmem', -⟩ | ⟨table', htable', hname', hmem'⟩
      · exact .inr ⟨table, List.mem_append_left _ htable, hname, hmem'⟩
      · exact .inr ⟨table', List.mem_append_right _ htable', hname'.trans hname, hmem'⟩
  added := by
    intro e he
    rcases h'.added e he with he | he
    · exact (h.added e he).imp_right (List.mem_append_left _)
    · exact .inr (List.mem_append_right _ he)
  defined := by
    intro table htable
    rcases List.mem_append.mp htable with htable | htable
    · obtain ⟨d, hd, hname⟩ := h.defined table htable
      exact ⟨d, hd.mono fun _ => List.mem_append_left _, hname⟩
    · obtain ⟨d, hd, hname⟩ := h'.defined table htable
      exact ⟨d, hd.mono fun _ => List.mem_append_right _, hname⟩
  sent := by
    obtain ⟨exchanges, hc, hsent⟩ := h.sent
    obtain ⟨exchanges', hc', hsent'⟩ := h'.sent
    refine ⟨exchanges ++ exchanges', by rw [hc', hc, Connection.after_append], fun x hx => ?_⟩
    rcases List.mem_append.mp hx with hx | hx
    · exact (hsent x hx).mono fun _ => List.mem_append_left _
    · exact (hsent' x hx).mono fun _ => List.mem_append_right _

theorem TablesAdded.of_registered (h : s.Consistent) {d : TableDefinition} {table : Table}
    {exchanges : List Exchange} (minted : Nat) (hd : d.IsAmong definitions)
    (hid : table.id = Table.mintedId (s.tablesMinted + 1)) (hname : table.name = d.name)
    (hsent : ∀ x ∈ exchanges, x.statement.OnlyCreates definitions) :
    s.TablesAdded definitions [(s.store.register table true).1]
      { s with
        connection := s.connection.after exchanges
        tablesMinted := minted
        store := (s.store.register table true).2 } := by
  have hregistered := Store.register_name s.store table true
  have hmem : ∀ {e}, e ∈ (s.store.register table true).2.tables ↔ _ :=
    Store.Consistent.mem_tables_registered h hid
  refine ⟨rfl, rfl, Keyed.keys_prefix_put, ?_, ?_, ?_, exchanges, rfl, hsent⟩
  · intro e he
    by_cases hsame : e.2.name = table.name
    · refine .inr ⟨_, List.mem_singleton_self _, hregistered.trans hsame.symm, ?_⟩
      rw [h.wellFormed.register_id true he hsame]
      exact hmem.mpr (.inl rfl)
    · refine .inl ⟨hmem.mpr (.inr ⟨he, hsame⟩), fun made hmade heq => ?_⟩
      rw [List.mem_singleton.mp hmade, hregistered] at heq
      exact hsame heq.symm
  · intro e he
    rcases hmem.mp he with rfl | ⟨he, -⟩
    · exact .inr (List.mem_singleton_self _)
    · exact .inl he
  · intro made hmade
    rw [List.mem_singleton.mp hmade]
    exact ⟨d, hd, hregistered.trans hname⟩

/-- One definition adds its table, or nothing if it is refused or the engine fails. -/
theorem TablesAdded.createTable (h : s.Consistent) (fields : Fields) :
    match Action.createTable (.object fields) s with
    | .ok table t => s.TablesAdded [fields] [table] t
    | .error _ t => s.TablesAdded [fields] [] t := by
  have hsends : ∀ {d : TableDefinition} {exchanges : List Exchange},
      TableDefinition.read (.object fields) = .ok d →
      (∀ x ∈ exchanges, d.Sends x.statement) → ∀ x ∈ exchanges, x.statement.OnlyCreates [fields] := by
    intro d exchanges hread hsent x hx
    refine (TableDefinition.targets_of_sends (hsent x hx)).imp_right fun heq => ?_
    exact ⟨d, ⟨fields, List.mem_singleton_self _, hread⟩, heq⟩
  have houtcome := Action.createTable_outcome (.object fields) s
  generalize Action.createTable (.object fields) s = r at houtcome
  cases houtcome with
  | refused fault read => exact .refl [fields] s
  | failed d exchanges minted fault read sent turns le blamed =>
    exact .of_sent minted (hsends read sent)
  | made d exchanges table read sent turns id named sourced =>
    exact .of_registered h _ ⟨fields, List.mem_singleton_self _, read⟩ id named (hsends read sent)

theorem TablesAdded.createTables (h : s.Consistent)
    (hr : Action.createTables definitions s = .ok created t) :
    s.TablesAdded definitions created t := by
  induction definitions generalizing s created with
  | nil =>
    obtain ⟨rfl, rfl⟩ : [] = created ∧ s = t := by
      have hnil : (EStateM.Result.ok [] s : EStateM.Result Fault Session (List Table)) =
        .ok created t := hr
      cases hnil
      exact ⟨rfl, rfl⟩
    exact .refl [] s
  | cons fields rest ih =>
    rw [Action.createTables_cons] at hr
    have hadded := TablesAdded.createTable h fields
    have hconsistent := h.createTable (.object fields)
    cases hc : Action.createTable (.object fields) s with
    | ok table u =>
      rw [hc] at hr hadded
      rw [final_of_ok hc] at hconsistent
      dsimp only at hr
      cases hrest : Action.createTables rest u with
      | ok tables v =>
        rw [bind_of_ok hrest] at hr
        cases hr
        exact hadded.trans (ih hconsistent hrest)
      | error fault v =>
        rw [bind_of_error hrest] at hr
        cases hr
    | error fault u =>
      rw [hc] at hr hadded
      rw [final_of_error hc] at hconsistent
      cases fault with
      | pipeline e => exact hadded.trans (ih hconsistent hr)
      | _ => cases hr

/-- As long as no definition names a table of the catalogue, the whole catalogue stays, and nothing that
is sent creates, replaces, renames or drops one of its tables. -/
theorem TablesAdded.untouched (h : s.TablesAdded definitions created t)
    (hnew : ∀ d : TableDefinition, d.IsAmong definitions → ∀ e ∈ s.store.tables, e.2.name ≠ d.name) :
    (∀ e ∈ s.store.tables, e ∈ t.store.tables) ∧
      ∃ exchanges, t.connection = s.connection.after exchanges ∧
        ∀ x ∈ exchanges, ∀ e ∈ s.store.tables, e.2.name ∉ x.statement.targets := by
  refine ⟨fun e he => ?_, ?_⟩
  · rcases h.kept e he with ⟨hmem, -⟩ | ⟨table, htable, hname, -⟩
    · exact hmem
    · obtain ⟨d, hd, hdefined⟩ := h.defined table htable
      exact absurd (hname.symm.trans hdefined) (hnew d hd e he)
  · obtain ⟨exchanges, hc, hsent⟩ := h.sent
    refine ⟨exchanges, hc, fun x hx e he hmem => ?_⟩
    rcases hsent x hx with hnone | ⟨d, hd, heq⟩
    · rw [hnone] at hmem
      cases hmem
    · rw [heq] at hmem
      exact hnew d hd e he (List.mem_singleton.mp hmem)

/-! ### What is left alone -/

theorem TablesAdded.takeIn (h : s.Consistent) {suggestion : Suggestion} {report : SuggestionReport}
    (hr : Action.takeIn suggestion false s = .ok report t) :
    s.TablesAdded report.suggestion.tables report.created t := by
  unfold Action.takeIn at hr
  cases hc : Action.createTables suggestion.tables s with
  | error fault u =>
    rw [bind_of_error hc] at hr
    cases hr
  | ok created u =>
    rw [bind_of_ok hc, bind_of_ok (Action.screened_apply ..)] at hr
    rw [if_neg (fun happly => Bool.false_ne_true happly.1)] at hr
    cases hr
    obtain ⟨hstages, houtputs, hids, hkept, hadded, hdefined, hsent⟩ :=
      TablesAdded.createTables h hc
    exact ⟨hstages, houtputs, hids, hkept, hadded, hdefined, hsent⟩

/-- A suggestion that is not applied leaves the stages and their outputs as they are. Every entry of the
catalogue stays, unless a definition of the suggestion names its table: then the created table has its
id. No other table is created, replaced, renamed or dropped. -/
theorem tablesAdded_of_suggested {s t : Session} (hs : s.Reachable)
    {call : List Chat.Message → Except Fault Value} {goal : Value} {report : SuggestionReport}
    (hr : Action.suggestFor call goal false s = .ok report t) :
    s.TablesAdded report.suggestion.tables report.created t ∧
      ((∀ d : TableDefinition, d.IsAmong report.suggestion.tables →
          ∀ e ∈ s.store.tables, e.2.name ≠ d.name) →
        (∀ e ∈ s.store.tables, e ∈ t.store.tables) ∧
          ∃ exchanges, t.connection = s.connection.after exchanges ∧
            ∀ x ∈ exchanges, ∀ e ∈ s.store.tables, e.2.name ∉ x.statement.targets) := by
  have hconsistent := consistent_of_reachable hs
  have hadded : s.TablesAdded report.suggestion.tables report.created t := by
    rcases Action.suggestFor_cases call goal false s with ⟨fault, heq⟩ | ⟨text, heq⟩
    · rw [heq] at hr
      cases hr
    rw [heq, Action.suggest_apply] at hr
    cases hsuggestion : s.suggestion call text with
    | error fault =>
      rw [hsuggestion] at hr
      cases hr
    | ok suggestion =>
      rw [hsuggestion] at hr
      exact TablesAdded.takeIn hconsistent hr
  exact ⟨hadded, hadded.untouched⟩

def ordersShown : Session :=
  (Operation.loadCsv "orders.csv" "a\n1\n").after (silent true)

theorem reachable_ordersShown : ordersShown.Reachable := (reachable_silent true).after _

def defining (table : String) : String :=
  Json.render (.object [("tables", .list [.object [("name", .text table),
    ("columns", .list [.text "x"])]])])

theorem extra_added : ∃ report t,
    ordersShown.Reachable ∧
      Action.suggestFor (fun _ => .ok (.text (defining "extra"))) (.text "p") false ordersShown =
        .ok report t ∧
      t.store.catalogue = ordersShown.store.catalogue ++ [(Table.mintedId 2, "extra")] ∧
      ordersShown.TablesAdded report.suggestion.tables report.created t := by
  have h : (result? (Action.suggestFor (fun _ => .ok (.text (defining "extra"))) (.text "p") false)
      ordersShown).isSome := by
    decide +kernel
  obtain ⟨report, hr⟩ := Option.isSome_iff_exists.mp h
  exact ⟨report, _, reachable_ordersShown, ok_of_result? hr, by decide +kernel,
    (tablesAdded_of_suggested reachable_ordersShown (ok_of_result? hr)).1⟩

/-- A definition that names a table of the catalogue takes its place, in the catalogue and in the
engine. -/
theorem orders_replaced : ∃ report t,
    ordersShown.Reachable ∧
      Action.suggestFor (fun _ => .ok (.text (defining "table_orders_csv"))) (.text "p") false
        ordersShown = .ok report t ∧
      (ordersShown.store.tables.map fun e => (e.1, e.2.name, e.2.source)) =
        [(Table.mintedId 1, "table_orders_csv", Table.fromUpload)] ∧
      (t.store.tables.map fun e => (e.1, e.2.name, e.2.source)) =
        [(Table.mintedId 1, "table_orders_csv", Table.fromDefinition)] ∧
      .createTable "table_orders_csv" [⟨"x", "VARCHAR"⟩] ∈
        t.connection.statements.drop ordersShown.connection.statements.length := by
  have h : (result? (Action.suggestFor (fun _ => .ok (.text (defining "table_orders_csv")))
      (.text "p") false) ordersShown).isSome := by
    decide +kernel
  obtain ⟨report, hr⟩ := Option.isSome_iff_exists.mp h
  exact ⟨report, _, reachable_ordersShown, ok_of_result? hr, by decide +kernel, by decide +kernel,
    by decide +kernel⟩

end Session

end StagedSql
