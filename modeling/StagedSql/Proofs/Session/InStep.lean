import StagedSql.Proofs.Session.AllOrNothing
import StagedSql.Proofs.Session.Consistent

/-!
# The catalogue and the engine in step

Every entry of the catalogue is a table of the engine, whatever fails on the way. Staging tables are
gone after every operation, as long as the engine drops what it is told to drop.
-/

namespace StagedSql

open Engine Engine.Work Outcome Materialization

namespace Engine

def Statement.isDrop : Statement → Bool
  | dropTable _ => true
  | _ => false

/-- Every statement that drops a table has succeeded. -/
def DropsAnswered (log : List Exchange) : Prop :=
  ∀ x ∈ log, x.statement.isDrop → x.failure = none

instance (log : List Exchange) : Decidable (DropsAnswered log) :=
  inferInstanceAs (Decidable (∀ x ∈ log, x.statement.isDrop → x.failure = none))

end Engine

/-! ### Effects of an execution -/

/-- A built output stands under its name, and nothing is left under the staging name. -/
theorem Materialization.turns_planned (stage : Stage) (table sql : String) (previewRows : Int) :
    ∃ f, Database.Turns f (answered (planned stage table sql previewRows)) ∧
      ∀ tables name, name ∈ f tables ↔
        name = table ∨ name ≠ TableName.staging table ∧ name ∈ tables := by
  have hread := Database.turns_answered
    (isPlain_readBack (TableName.staging table) sql previewRows)
  have hpromote := Database.turns_transacted
    (isPlain_promotion (TableName.staging table) table (views stage table))
  refine ⟨_, by rw [planned_eq, answered_append]; exact hread.append hpromote, ?_⟩
  intro tables name
  have hviews : ∀ left : Finset String, ((views stage table).map fun v =>
      Statement.createView v.1 v.2).foldl Statement.effect left = left := by
    intro left
    unfold views
    split <;> rfl
  simp only [Function.comp_apply, readBack, promotion, List.foldl_append, List.foldl_cons,
    List.foldl_nil, Statement.effect, hviews, Finset.mem_insert, Finset.mem_erase]
  by_cases hname : name = table
  · simp [hname]
  · simp only [hname, false_or, not_false_eq_true, true_and, ne_eq]
    constructor
    · rintro ⟨hne, hmem⟩
      exact ⟨hne, hmem.resolve_left hne⟩
    · rintro ⟨hne, hmem⟩
      exact ⟨hne, .inr hmem⟩

theorem Materialization.turns_failed {stage : Stage} {table sql : String} {previewRows : Int}
    {done rest : List Statement} {failing : Statement} (reason : String)
    (rollback discard : Option String)
    (split : planned stage table sql previewRows = done ++ failing :: rest) :
    ∃ f, Database.Turns f (answered done ++ [⟨failing, some reason⟩] ++
        rollbackAfter (done ++ [failing]) rollback ++
        [⟨.dropTable (TableName.staging table), discard⟩]) ∧
      (∀ tables name, name ≠ TableName.staging table → (name ∈ f tables ↔ name ∈ tables)) ∧
      (discard = none → ∀ tables, TableName.staging table ∉ f tables) := by
  obtain ⟨f, hf, hsame⟩ := spares_failure reason rollback split
  cases discard with
  | some text =>
    refine ⟨_, hf.append (Database.turns_failed rfl text), hsame, ?_⟩
    intro hnone
    cases hnone
  | none =>
    refine ⟨_, hf.append (Database.turns_dropTable _), ?_, ?_⟩
    · intro tables name hne
      rw [Function.comp_apply, Finset.mem_erase, hsame tables name hne, and_iff_right hne]
    · intro _ tables
      exact Finset.notMem_erase _ _

/-- A run that fails touches the staging table only, and leaves none if the engine drops what it is
told to drop. -/
theorem Materialization.turns_run {stage : Stage} {table sql : String} {previewRows : Int}
    {c c' : Connection} {fault : Fault} (h : run stage table sql previewRows c = .error fault c') :
    ∃ sent f, c' = c.after sent ∧ Database.Turns f sent ∧
      (∀ tables name, name ≠ TableName.staging table → (name ∈ f tables ↔ name ∈ tables)) ∧
      (WellShaped c.responder → DropsAnswered sent → ∀ tables,
        TableName.staging table ∉ f tables) := by
  have hran := run_outcome stage table sql previewRows c
  rw [h] at hran
  cases hran with
  | failed done rest failing reason rollback discard split =>
    obtain ⟨f, hf, hsame, hgone⟩ := turns_failed reason rollback discard split
    refine ⟨_, f, rfl, hf, hsame, fun _ hdrops => hgone ?_⟩
    exact hdrops _ (List.mem_append_right _ (List.mem_singleton_self _)) rfl
  | misread done rest fault split other =>
    obtain ⟨f, hf, hsame⟩ := spares_readBack split
    exact ⟨_, f, rfl, hf, hsame, fun hshape => absurd hshape other.2⟩

theorem Materialization.turns_discarding (name failure : Option String) :
    ∃ f, Database.Turns f (discarding name failure) ∧
      (∀ tables other, name ≠ some other → (other ∈ f tables ↔ other ∈ tables)) ∧
      ∀ tables, f tables ⊆ tables := by
  cases name with
  | none => exact ⟨id, Database.Turns.nil, fun _ _ _ => Iff.rfl, fun _ => Finset.Subset.refl _⟩
  | some dropped =>
    cases failure with
    | some reason =>
      exact ⟨id, Database.turns_failed rfl reason, fun _ _ _ => Iff.rfl,
        fun _ => Finset.Subset.refl _⟩
    | none =>
      refine ⟨_, Database.turns_dropTable dropped, ?_, fun tables => Finset.erase_subset _ _⟩
      intro tables other hne
      have hne : other ≠ dropped := fun heq => hne (congrArg some heq.symm)
      rw [Finset.mem_erase, and_iff_right hne]

/-! ### The invariant -/

namespace Session

/-- Every entry of the catalogue is a table of the engine. -/
def CataloguePresent (s : Session) : Prop :=
  ∀ e ∈ s.store.tables, e.2.name ∈ s.connection.database.tables

/-- The engine has no table with the name of a staging table. -/
def StagingSwept (s : Session) : Prop :=
  ∀ name ∈ s.connection.database.tables, ¬ TableName.IsStaging name

/-- The session talks to `responder`, and its catalogue is in step with the tables of the engine. -/
structure InStep (responder : Responder) (s : Session) : Prop where
  consistent : s.Consistent
  answers : s.connection.responder = responder
  /-- No transaction is open. -/
  settled : s.connection.database.pending = none
  unstaged : ∀ e ∈ s.store.tables, ¬ TableName.IsStaging e.2.name
  present : s.CataloguePresent
  swept : WellShaped responder → DropsAnswered s.connection.log → s.StagingSwept

theorem inStep_opened (responder : Responder) (previewRows : Int) (chatEnabled : Bool) :
    (opened responder previewRows chatEnabled).InStep responder where
  consistent := Store.consistent_empty
  answers := rfl
  settled := rfl
  unstaged := by simp [opened, Store.empty]
  present := by simp [CataloguePresent, opened, Store.empty]
  swept := by
    intro _ _ name hname
    simp [opened, Connection.opened, Connection.database, Database.run_nil, Database.empty] at hname

section

variable {responder : Responder} {s t : Session} (h : s.InStep responder)
include h

theorem InStep.database_after {f : Finset String → Finset String} {exchanges : List Exchange}
    (hf : Database.Turns f exchanges) :
    (s.connection.after exchanges).database = ⟨f s.connection.database.tables, none⟩ := by
  have hdb : s.connection.database = ⟨s.connection.database.tables, none⟩ := by
    rw [← h.settled]
  rw [Connection.database_after, hdb]
  exact hf _

/-- What has to be shown of a session that has gone on to exchange `exchanges`. -/
theorem InStep.of_turns {f : Finset String → Finset String} {exchanges : List Exchange}
    (hconnection : t.connection = s.connection.after exchanges) (hf : Database.Turns f exchanges)
    (hconsistent : t.Consistent)
    (htables : ∀ e ∈ t.store.tables, ¬ TableName.IsStaging e.2.name ∧
      e.2.name ∈ f s.connection.database.tables)
    (hswept : WellShaped responder → DropsAnswered exchanges → s.StagingSwept →
      ∀ name ∈ f s.connection.database.tables, ¬ TableName.IsStaging name) :
    t.InStep responder := by
  have hdb := h.database_after hf
  refine ⟨hconsistent, ?_, ?_, fun e he => (htables e he).1, ?_, ?_⟩
  · rw [hconnection, Connection.responder_after, h.answers]
  · rw [hconnection, hdb]
  · intro e he
    rw [hconnection, hdb]
    exact (htables e he).2
  · intro hshape hdrops
    rw [hconnection] at hdrops
    rw [StagingSwept, hconnection, hdb]
    have hbefore : DropsAnswered s.connection.log := fun x hx =>
      hdrops x (List.mem_append_left _ hx)
    have hnow : DropsAnswered exchanges := fun x hx => hdrops x (List.mem_append_right _ hx)
    exact hswept hshape hnow (h.swept hshape hbefore)

/-! ### Operations keep the two in step -/

theorem InStep.execute (stage : Stage) (active : Option String) :
    (final (Action.execute stage active) s).InStep responder := by
  have hconsistent := (h.consistent.execute stage active).1
  have houtcome := execute_outcome stage active s
  have hold : ∀ e ∈ s.store.tables, e.2.name ≠ TableName.staging (outputName s stage) := by
    intro e he heq
    exact h.unstaged e he ⟨_, heq⟩
  have hresult : ¬ TableName.IsStaging (outputName s stage) :=
    TableName.not_isStaging_of_isResult (TableName.isResult_result _ _)
  generalize hr : Action.execute stage active s = r at houtcome
  cases houtcome with
  | refused e refusal =>
    rw [final_of_error hr]
    exact h
  | loaded table kind found =>
    have hmem := h.consistent.mem_of_loadedTable found
    rw [final_of_ok hr] at hconsistent ⊢
    refine h.of_turns (Connection.after_nil _).symm Database.Turns.nil hconsistent ?_
      fun _ _ hswept => hswept
    intro e he
    rcases h.consistent.wellFormed.mem_tables_commit.mp he with rfl | ⟨he, -⟩
    · exact ⟨h.unstaged _ hmem, h.present _ hmem⟩
    · exact ⟨h.unstaged e he, h.present e he⟩
  | broken sql input fault c kind planned ran =>
    obtain ⟨sent, f, rfl, hf, hsame, hgone⟩ := turns_run ran
    rw [final_of_error hr] at hconsistent ⊢
    refine h.of_turns rfl hf hconsistent ?_ ?_
    · exact fun e he => ⟨h.unstaged e he, (hsame _ _ (hold e he)).mpr (h.present e he)⟩
    · intro hshape hdrops hswept name hname
      rw [← h.answers] at hshape
      by_cases hne : name = TableName.staging (outputName s stage)
      · rw [hne] at hname
        exact absurd hname (hgone hshape hdrops _)
      · exact hswept name ((hsame _ _ hne).mp hname)
  | built sql input output failure kind planned =>
    rw [final_of_ok hr] at hconsistent ⊢
    obtain ⟨f, hf, hbuilt⟩ := turns_planned stage (outputName s stage) sql s.previewRows
    obtain ⟨g, hg, hkept, hsub⟩ := turns_discarding (superseded? s.store stage (outputName s stage)
      (recorded s stage (position s.store stage) (outputName s stage) output).store) failure
    refine h.of_turns rfl (hf.append hg) hconsistent ?_ ?_
    · intro e he
      -- A name that is dropped is in use by no entry of the new catalogue.
      have hused : superseded? s.store stage (outputName s stage)
          (recorded s stage (position s.store stage) (outputName s stage) output).store ≠
          some e.2.name := by
        intro hdrop
        obtain ⟨previous, -, -, -, hunused⟩ := superseded?_eq_some_iff.mp hdrop
        exact hunused e he rfl
      rw [Function.comp_apply, hkept _ _ hused, hbuilt]
      rcases h.consistent.wellFormed.mem_tables_commit.mp he with rfl | ⟨he, -⟩
      · exact ⟨hresult, .inl rfl⟩
      · exact ⟨h.unstaged e he, .inr ⟨hold e he, h.present e he⟩⟩
    · intro _ _ hswept name hname
      rcases (hbuilt _ _).mp (hsub _ hname) with rfl | ⟨-, hname⟩
      · exact hresult
      · exact hswept name hname

omit h in
theorem InStep.minted (n : Nat) (ht : t.InStep responder) :
    InStep responder { t with stagesMinted := n } :=
  { ht with consistent := ht.consistent }

theorem InStep.addStage (stage : Stage) (active : Option String) :
    (final (Action.addStage stage active) s).InStep responder :=
  Action.addStage_rule (fun _ n ht => InStep.minted n ht)
    (fun stage active _ ht => InStep.execute ht stage active) stage active h

theorem InStep.importFlow (mode : ImportMode) (keepIds : Bool) (candidates : List Value) :
    (final (Action.importFlow mode keepIds candidates) s).InStep responder := by
  have hrule := Action.importFlow_rule (I := fun t => t.InStep responder ∧ t.Grown s.store)
    (fun _ _ ht => ⟨{ ht.1 with consistent := ht.1.consistent }, ht.2⟩) mode keepIds candidates
    (s := s) ⟨{ h with consistent := h.consistent }, fun _ he => .inl he⟩
    (fun t ht => ⟨{ ht.1 with consistent := ht.1.consistent.resetStages }, ht.2⟩)
    (fun stage _ t ht => ⟨ht.1.addStage stage none, (ht.1.consistent.addStage stage none).2 _ ht.2⟩)
  rcases hrule with ht | ⟨t, ht, heq⟩
  · exact ht.1
  · rw [heq]
    exact { ht.1 with consistent := ht.1.consistent.restoreStages h.consistent ht.2 }

theorem InStep.admitted {name source : String} (hname : ¬ TableName.IsStaging name)
    (ht : Admitted name source s t) : t.InStep responder := by
  have hconsistent := h.consistent.admitted ht
  have hswept : s.StagingSwept →
      ∀ other ∈ insert name s.connection.database.tables, ¬ TableName.IsStaging other := by
    intro hall other hother
    rcases Finset.mem_insert.mp hother with rfl | hother
    · exact hname
    · exact hall other hother
  cases ht with
  | kept exchanges minted turns le =>
    rcases turns with hf | hf
    · exact h.of_turns rfl hf hconsistent (fun e he => ⟨h.unstaged e he, h.present e he⟩)
        fun _ _ hall => hall
    · exact h.of_turns rfl hf hconsistent
        (fun e he => ⟨h.unstaged e he, Finset.mem_insert_of_mem (h.present e he)⟩)
        fun _ _ => hswept
  | registered exchanges table hf id named sourced =>
    refine h.of_turns rfl hf hconsistent ?_ fun _ _ => hswept
    intro e he
    rcases h.consistent.wellFormed.mem_tables_register.mp he with rfl | ⟨he, -⟩
    · dsimp only
      rw [Store.register_name, named]
      exact ⟨hname, Finset.mem_insert_self _ _⟩
    · exact ⟨h.unstaged e he, Finset.mem_insert_of_mem (h.present e he)⟩

theorem InStep.loadCsv (file content : String) :
    (final (Action.loadCsv file content) s).InStep responder := by
  have hname := TableName.not_isStaging_ofFile file
  rcases Action.loadCsv_admitted file content s with ht | ⟨t, ht, heq⟩
  · exact h.admitted hname ht
  · have htaken := h.admitted hname ht
    have hminted : InStep responder { t with stagesMinted := t.stagesMinted + 1 } :=
      { htaken with consistent := htaken.consistent }
    rw [heq]
    exact hminted.execute _ none

theorem InStep.createTable {definition : Value}
    (hname : ∀ d, TableDefinition.read definition = .ok d → ¬ TableName.IsStaging d.name) :
    (final (Action.createTable definition) s).InStep responder := by
  rcases Action.createTable_admitted definition s with heq | ⟨d, hd, ht⟩
  · rw [heq]
    exact h
  · exact h.admitted (hname d hd) ht

theorem InStep.deleteTable (id : String) :
    (final (Action.deleteTable id) s).InStep responder := by
  have hconsistent := h.consistent.deleteTable id
  rcases Action.deleteTable_cases id s with heq | ⟨table, store, failure, hr, heq⟩
  · rw [heq]
    exact h
  · rw [heq] at hconsistent ⊢
    obtain ⟨hl, -, rfl⟩ := Store.removeTable_eq_ok_iff.mp hr
    have hmem := Keyed.mem_of_lookup? hl
    obtain ⟨f, hf, hkept, hsub⟩ := turns_discarding (some table.name) failure
    refine h.of_turns rfl hf hconsistent ?_ fun _ _ hall name hname => hall name (hsub _ hname)
    intro e he
    obtain ⟨he, hkey⟩ := List.mem_filter.mp he
    have hne : some table.name ≠ some e.2.name := by
      intro heq
      have heq := h.consistent.wellFormed.eq_of_name_eq hmem he (Option.some.inj heq)
      simp [← heq] at hkey
    exact ⟨h.unstaged e he, (hkept _ _ hne).mpr (h.present e he)⟩

theorem InStep.after {op : Operation}
    (hnames : ∀ definition d, op.Defines definition → TableDefinition.read definition = .ok d →
      ¬ TableName.IsStaging d.name) : (op.after s).InStep responder := by
  refine Operation.after_rule (I := InStep responder) (fun _ n ht => InStep.minted n ht)
    (fun file content _ ht => ht.loadCsv file content)
    (fun definition hdefines _ ht => ht.createTable fun d => hnames definition d hdefines)
    (fun id _ ht => ht.deleteTable id) ?_ ?_ (fun stage active _ ht => ht.execute stage active)
    (fun mode keepIds candidates _ ht => ht.importFlow mode keepIds candidates) h
  · intro id t _ _ hr ht
    have hconsistent := Store.Consistent.setActive ht.consistent hr
    obtain ⟨-, rfl⟩ := Store.setActive_eq_ok_iff.mp hr
    exact { ht with consistent := hconsistent }
  · intro id t _ _ hr ht
    have hconsistent := Store.Consistent.removeStage ht.consistent hr
    obtain ⟨i, -, -, rfl⟩ := Store.removeStage_eq_ok_iff.mp hr
    exact { ht with consistent := hconsistent }

end

/-- After every run that defines no table with the name of a staging table, whatever the engine
replies and whichever statements it refuses, every entry of the catalogue is a table of the engine. If
the replies have the right shape and every statement that drops a table succeeds, no staging table is
left. -/
theorem tables_present_and_swept (responder : Responder) (previewRows : Int) (chatEnabled : Bool)
    (ops : List Operation)
    (hnames : ∀ op ∈ ops, ∀ definition d, op.Defines definition →
      TableDefinition.read definition = .ok d → ¬ TableName.IsStaging d.name) :
    ((opened responder previewRows chatEnabled).afterAll ops).CataloguePresent ∧
      (WellShaped responder →
        DropsAnswered ((opened responder previewRows chatEnabled).afterAll ops).connection.log →
        ((opened responder previewRows chatEnabled).afterAll ops).StagingSwept) := by
  have h : ((opened responder previewRows chatEnabled).afterAll ops).InStep responder :=
    afterAll_rule (fun op hop t ht => ht.after (hnames op hop))
      (inStep_opened responder previewRows chatEnabled)
  exact ⟨h.present, h.swept⟩

/-- A run in which the output of a stage cannot be counted: its staging table is dropped again. -/
theorem orders_present_and_swept :
    let responder : Responder := fun _ statement =>
      if statement = .countRows "result_stage_0_custom__staging" then .error "refused"
      else .ok .none
    let ops : List Operation :=
      [.createTable (.object [("name", .text "orders"), ("columns", .list [.text "a"])]),
        .addStage ⟨"a", .custom, "", [("sql", .text "SELECT 1")]⟩ none]
    ∃ s, s = (opened responder 100 false).afterAll ops ∧
      s.store.tables.values.map (·.name) = ["orders"] ∧
      "orders" ∈ s.connection.database.tables ∧
      "result_stage_0_custom__staging" ∉ s.connection.database.tables := by
  intro responder ops
  have hcatalogue : ((opened responder 100 false).afterAll ops).store.tables.values.map (·.name) =
      ["orders"] := by decide +kernel
  have hdrops : DropsAnswered ((opened responder 100 false).afterAll ops).connection.log := by
    decide +kernel
  have hshape : WellShaped responder := by
    intro earlier statement reply hreply
    simp only [responder] at hreply
    split at hreply
    · cases hreply
    · cases hreply
      cases statement <;> simp [Reply.Fits, Reply.none]
  have hnames : ∀ op ∈ ops, ∀ definition d, op.Defines definition →
      TableDefinition.read definition = .ok d → ¬ TableName.IsStaging d.name := by
    intro op hop definition d hdefines hread
    rcases List.mem_pair.mp hop with rfl | rfl
    · cases hdefines
      obtain rfl : ⟨"orders", [⟨"a", "VARCHAR"⟩], []⟩ = d := Except.ok.inj hread
      rintro ⟨table, heq⟩
      have hlast := congrArg (fun name : String => name.toList.getLast?) heq
      simp [TableName.toList_staging] at hlast
    · cases hdefines
  obtain ⟨hpresent, hswept⟩ := tables_present_and_swept responder 100 false ops hnames
  refine ⟨_, rfl, hcatalogue, ?_, ?_⟩
  · generalize (opened responder 100 false).afterAll ops = s at hcatalogue hpresent
    have hmem : "orders" ∈ s.store.tables.values.map (·.name) := by rw [hcatalogue]; simp
    obtain ⟨t, ht, hname⟩ := List.mem_map.mp hmem
    obtain ⟨id, ht⟩ := Keyed.mem_values_iff.mp ht
    exact hname ▸ hpresent _ ht
  · exact fun hleft => hswept hshape hdrops _ hleft ⟨"result_stage_0_custom", by decide⟩

end Session

end StagedSql
