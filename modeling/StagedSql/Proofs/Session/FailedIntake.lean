import StagedSql.Proofs.Session.CatalogueNames
import StagedSql.Proofs.Session.SourceTables

/-!
# Intakes that fail

Taking in a table keeps the store until the table has been read back. By then the engine has committed
the new table, and nothing takes it back: an intake that fails while it reads leaves the new table
under the old entry.
-/

namespace StagedSql

open Engine Engine.Work Outcome

namespace Operation

def isIntake : Operation → Bool
  | loadCsv .. | createTable _ => true
  | _ => false

def building : Operation → List Statement
  | loadCsv file content => [.importCsv (TableName.ofFile file) (.upload content)]
  | createTable definition =>
    match TableDefinition.read definition with
    | .ok d => creation d.name d.columns d.rows
    | .error _ => []
  | _ => []

end Operation

theorem Engine.Work.not_isQuestion_of_transacted {table : String} {columns : List Column}
    {rows : List (List Value)} {s : Statement} (h : s ∈ transacted (creation table columns rows)) :
    ¬ s.isQuestion := by
  have hall : ∀ st ∈ transacted (creation table columns rows), st.isQuestion = false := by
    unfold transacted creation
    split <;> simp [Statement.isQuestion]
  rw [hall s h]
  exact Bool.false_ne_true

theorem Store.isSome_tableNamed?_register (s : Store) (table : Table) (makeActive : Bool) :
    ((s.register table makeActive).2.tableNamed? table.name).isSome := by
  have hlookup : (s.register table makeActive).2.tables.lookup? (s.register table makeActive).1.id =
      some (s.register table makeActive).1 := by
    rw [register_snd]
    exact Keyed.lookup?_put_self ..
  refine List.find?_isSome.mpr ⟨_, Keyed.mem_values_iff.mpr ⟨_, Keyed.mem_of_lookup? hlookup⟩, ?_⟩
  exact decide_eq_true (register_name s table makeActive)

theorem Action.isSome_tableNamed?_registerTable {name source : String} {s t : Session}
    {table : Table} (h : registerTable name source s = .ok table t) :
    (t.store.tableNamed? name).isSome := by
  have houtcome := registerTable_outcome name source s
  rw [h] at houtcome
  cases houtcome with
  | done questions table asked id named sourced =>
    rw [← named]
    exact Store.isSome_tableNamed?_register s.store table true

theorem Action.execute_loadStage {s : Session} {name : String} (id file : String)
    (h : (s.store.tableNamed? name).isSome) (hne : name ≠ "") :
    ∃ m t, execute (loadStage id name file) none s = .ok m t := by
  obtain ⟨table, htable⟩ := Option.isSome_iff_exists.mp h
  have hgiven : ((loadStage id name file).entry "tableName").givenText? = some name := if_neg hne
  have hfound : Materialization.loadedTable s.store (loadStage id name file) = .ok table := by
    simp only [Materialization.loadedTable, hgiven, Option.bind_some, htable]
  have hloaded : ofPipeline (Materialization.loadedTable s.store (loadStage id name file)) s =
      .ok table s := by
    rw [hfound]
    rfl
  have hrecorded : ∃ m t, Materialization.recordLoad (loadStage id name file) s = .ok m t := by
    unfold Materialization.recordLoad
    rw [bind_of_ok (store_apply _), bind_of_ok hloaded]
    exact ⟨_, _, rfl⟩
  exact hrecorded

namespace Session

/-- How an intake fails: before its table is built, or while the table is read back. -/
inductive Stalled (building : List Statement) (s : Session) : Session → Prop
  | early (exchanges : List Exchange)
      (unasked : ∀ x ∈ exchanges, ¬ x.statement.isQuestion)
      (takes : Effects.Takes [] exchanges) :
      Stalled building s { s with connection := s.connection.after exchanges }
  | late (built questions : List Exchange) (minted : Nat)
      (builds : ∃ st ∈ building, st.targets ≠ []) (takes : Effects.Takes building built)
      (asked : ∀ x ∈ questions, x.statement.isQuestion) (some : questions ≠ []) :
      Stalled building s
        { s with
          connection := s.connection.after (built ++ questions), tablesMinted := minted }

theorem stalled_of_unread {building : List Statement} {built : List Exchange} {name source : String}
    {s t : Session} {fault : Fault} (builds : ∃ st ∈ building, st.targets ≠ [])
    (takes : Effects.Takes building built)
    (h : Action.registerTable name source { s with connection := s.connection.after built } =
      .error fault t) : Stalled building s t := by
  have hasked := Action.registerTable_asks h
  have houtcome := Action.registerTable_outcome name source
    { s with connection := s.connection.after built }
  rw [h] at houtcome
  cases houtcome with
  | unread questions minted fault asked le blamed =>
    have hsome : questions ≠ [] := by
      rintro rfl
      simp at hasked
    rw [← Connection.after_append]
    exact .late built questions minted builds takes asked hsome

theorem stalled_of_createTable {definition : Value} {s t : Session} {fault : Fault}
    (h : Action.createTable definition s = .error fault t) :
    Stalled (Operation.createTable definition).building s t := by
  rcases Action.createTable_cases definition s with ⟨fault', hread, heq⟩ |
    ⟨d, hread, ⟨done, rest, failing, reason, rollback, split, heq⟩ | heq⟩
  · obtain ⟨-, rfl⟩ := EStateM.Result.error.inj (h.symm.trans heq)
    have hearly : Stalled (Operation.createTable definition).building t
        { t with connection := t.connection.after [] } :=
      .early [] (fun _ hx => absurd hx List.not_mem_nil) .nil
    rwa [Connection.after_nil] at hearly
  · obtain ⟨-, rfl⟩ := EStateM.Result.error.inj (h.symm.trans heq)
    refine .early _ (fun x hx => ?_)
      (Effects.takes_rolledBack (Action.isPlain_creation _ _ _) split reason rollback)
    rcases mem_of_rolledBack split hx with hmem | hrollback
    · exact not_isQuestion_of_transacted hmem
    · rw [hrollback]
      decide
  · have hbuilding : (Operation.createTable definition).building =
        creation d.name d.columns d.rows := by
      simp only [Operation.building, hread]
    rw [hbuilding]
    exact stalled_of_unread ⟨_, List.mem_cons_self .., List.cons_ne_nil _ _⟩
      (Effects.takes_transacted (Action.isPlain_creation _ _ _)) (heq.symm.trans h)

theorem stalled_of_loadCsv {file content : String} {s t : Session} {fault : Fault}
    (h : Action.loadCsv file content s = .error fault t) :
    Stalled (Operation.loadCsv file content).building s t := by
  rcases Action.loadCsv_cases file content s with ⟨reason, heq⟩ |
    ⟨_, rfl, ⟨fault', t', hreg, heq⟩ | ⟨table, t', hreg, heq⟩⟩
  · obtain ⟨-, rfl⟩ := EStateM.Result.error.inj (h.symm.trans heq)
    refine .early _ ?_ (Effects.takes_plain (List.forall_mem_singleton.mpr rfl))
    exact List.forall_mem_singleton.mpr (Bool.false_ne_true)
  · obtain ⟨-, rfl⟩ := EStateM.Result.error.inj (h.symm.trans heq)
    exact stalled_of_unread ⟨_, List.mem_cons_self .., List.cons_ne_nil _ _⟩
      (Effects.takes_answered (List.forall_mem_singleton.mpr rfl)) hreg
  · -- The table is in the catalogue now, so its LOAD stage finds it.
    have hnamed := Action.isSome_tableNamed?_registerTable hreg
    obtain ⟨m, u, hexecute⟩ := Action.execute_loadStage
      (s := { t' with stagesMinted := t'.stagesMinted + 1 }) (Stage.mintedId (t'.stagesMinted + 1))
      file hnamed (TableName.ofFile_ne_empty file)
    rw [heq, bind_of_ok hexecute] at h
    cases h

theorem stalled_of_not_returns {op : Operation} (hop : op.isIntake) {s : Session}
    (hfails : ¬ op.Returns s) : Stalled op.building s (op.after s) := by
  cases op <;> try cases hop
  case loadCsv file content =>
    rw [Operation.Returns, Operation.run, fault?_bind_pure] at hfails
    obtain ⟨fault, hfault⟩ := Option.ne_none_iff_exists'.mp hfails
    rw [Operation.after, Operation.run, final_bind_pure]
    exact stalled_of_loadCsv (error_of_fault? hfault)
  case createTable definition =>
    rw [Operation.Returns, Operation.run, fault?_bind_pure] at hfails
    obtain ⟨fault, hfault⟩ := Option.ne_none_iff_exists'.mp hfails
    rw [Operation.after, Operation.run, final_bind_pure]
    exact stalled_of_createTable (error_of_fault? hfault)

theorem Stalled.connection_eq {building : List Statement} {s t : Session}
    (h : Stalled building s t) :
    t.connection = s.connection.after (t.connection.log.drop s.connection.log.length) := by
  cases h <;> simp [Connection.after]

/-- An intake that fails leaves the store as it was. Among what takes effect there is nothing but
questions and the statements that build its table, and a table is touched exactly if the intake has
come to its questions. -/
theorem failed_intake_spares_iff {s : Session} {op : Operation} (hop : op.isIntake)
    (hfails : ¬ op.Returns s) :
    (op.after s).store = s.store ∧
    ∃ exchanges, (op.after s).connection = s.connection.after exchanges ∧
      (∀ st ∈ effective exchanges, st.isQuestion ∨ st ∈ op.building) ∧
      ((∀ st ∈ effective exchanges, st.targets = []) ↔
        ∀ x ∈ exchanges, ¬ x.statement.isQuestion) := by
  have hstalled := stalled_of_not_returns hop hfails
  generalize op.after s = t at hstalled
  cases hstalled with
  | early exchanges unasked takes =>
    refine ⟨rfl, exchanges, rfl, ?_⟩
    rw [effective_of_takes takes]
    exact ⟨fun _ h => absurd h List.not_mem_nil,
      iff_of_true (fun _ h => absurd h List.not_mem_nil) unasked⟩
  | late built questions minted builds takes asked some =>
    have hplain : ∀ x ∈ questions, x.statement.isPlain := fun x hx =>
      Statement.isPlain_of_isQuestion (asked x hx)
    have heffective := effective_of_takes (takes.append (Effects.takes_plain hplain))
    refine ⟨rfl, _, rfl, ?_, iff_of_false ?_ ?_⟩
    · rw [heffective]
      intro st hst
      rcases List.mem_append.mp hst with hst | hst
      · exact .inr hst
      · obtain ⟨x, hx, rfl⟩ := List.mem_map.mp hst
        exact .inl (asked x (List.mem_of_mem_filter hx))
    · obtain ⟨st, hst, htargets⟩ := builds
      rw [heffective]
      exact fun hnone => htargets (hnone st (List.mem_append_left _ hst))
    · obtain ⟨x, hx⟩ := List.exists_mem_of_ne_nil questions some
      exact fun hnone => hnone x (List.mem_append_right _ hx) (asked x hx)

def takesNoRows : Responder
  | _, .insertRows .. => .error "boom"
  | _, _ => .ok .none

def ordersFilled : Operation :=
  .createTable (.object [("name", .text "orders"), ("columns", .list [.text "id"]),
    ("rows", .list [.list [.int 1]])])

/-- A table that cannot be filled is not created either. -/
theorem orders_not_filled :
    ¬ ordersFilled.Returns (opened takesNoRows 100 false) ∧
    ∃ exchanges, (ordersFilled.after (opened takesNoRows 100 false)).connection =
        (opened takesNoRows 100 false).connection.after exchanges ∧
      exchanges.map (·.statement.sql) = ["BEGIN TRANSACTION",
        "CREATE OR REPLACE TABLE orders (\"id\" VARCHAR)", "INSERT INTO orders VALUES (?)",
        "ROLLBACK"] ∧
      ∀ st ∈ effective exchanges, st.targets = [] := by
  have hfails : ¬ ordersFilled.Returns (opened takesNoRows 100 false) := by
    unfold Operation.Returns
    decide +kernel
  obtain ⟨-, exchanges, hconnection, -, hiff⟩ := failed_intake_spares_iff rfl hfails
  have hlog : (ordersFilled.after (opened takesNoRows 100 false)).connection.log = exchanges :=
    congrArg Connection.log hconnection
  refine ⟨hfails, exchanges, hconnection, ?_, hiff.mpr ?_⟩
  · rw [← hlog]
    decide +kernel
  · rw [← hlog]
    decide +kernel

def answersOnce : Responder := fun earlier s =>
  if s.isQuestion ∧ s ∈ earlier then .error "boom" else .ok .none

def ordersRead : Session :=
  (opened answersOnce 100 false).afterAll
    [.createTable (singleColumn "orders")]

def ordersRenewed : Operation :=
  .createTable (.object [("name", .text "orders"), ("columns", .list [.text "name"])])

/-- The engine keeps a table with the new columns although the operation has failed and the catalogue
keeps the old table. -/
theorem orders_renewed_unread :
    ordersRead.Reachable ∧ ordersRenewed.isIntake ∧ ¬ ordersRenewed.Returns ordersRead ∧
    (ordersRenewed.after ordersRead).store = ordersRead.store ∧
    ordersRead.store.tables.values.map (·.name) = ["orders"] ∧
    ∃ exchanges, (ordersRenewed.after ordersRead).connection =
        ordersRead.connection.after exchanges ∧
      effective exchanges = [.createTable "orders" [⟨"name", "VARCHAR"⟩]] := by
  have hfails : ¬ ordersRenewed.Returns ordersRead := by
    unfold Operation.Returns
    decide +kernel
  exact ⟨⟨answersOnce, 100, false, _, rfl⟩, rfl, hfails, by decide +kernel, by decide +kernel, _,
    (stalled_of_not_returns rfl hfails).connection_eq, by decide +kernel⟩

end Session

end StagedSql
