import StagedSql.Proofs.Session.Materialize
import StagedSql.Proofs.Session.Operation

/-!
# Previews and executions

A preview plans a stage in the same way as its execution. What the preview refuses is refused before
anything is sent, and what it returns is what the execution sends first and reports.
-/

namespace StagedSql.Materialization

open Engine Engine.Work Outcome

/-! ### The first statement -/

/-- Whatever the engine replies, a run begins with the creation of the staging table. -/
theorem run_begins (stage : Stage) (table sql : String) (previewRows : Int) (c : Connection) :
    ∃ failure more, final (run stage table sql previewRows) c =
      c.after (⟨.createTableAs (TableName.staging table) sql, failure⟩ :: more) := by
  have hran := run_outcome stage table sql previewRows c
  generalize hr : run stage table sql previewRows c = r at hran
  cases hran with
  | built output => exact ⟨none, _, final_of_ok hr⟩
  | failed done rest failing reason rollback discard split =>
    rw [final_of_error hr]
    cases done with
    | nil =>
      obtain ⟨rfl, -⟩ := List.cons.inj split
      exact ⟨some reason, _, rfl⟩
    | cons first done =>
      obtain ⟨rfl, -⟩ := List.cons.inj split
      exact ⟨none, _, rfl⟩
  | misread done rest fault split other asked =>
    rw [final_of_error hr]
    obtain ⟨first, done, rfl⟩ := List.exists_cons_of_ne_nil asked
    obtain ⟨rfl, -⟩ := List.cons.inj split
    exact ⟨none, _, rfl⟩

section

variable {stage : Stage} {active : Option String} {s : Session}

/-! ### Executing what is planned -/

theorem preview_eq (store : Store) (active : Option String) (hk : stage.kind ≠ .load) :
    preview store stage active = ensureComplete stage >>= fun _ => plan store stage active := by
  unfold preview
  rw [if_neg hk]

/-- What an execution does once the stage is planned. -/
def executePlan (stage : Stage) (sql : String) (input : Option String) : Action Materialization := do
  let s ← get
  let output ← Action.engine (run stage (outputName s stage) sql s.previewRows)
  let entry ← recordOutput stage (position s.store stage) (outputName s stage) output
  return ⟨stage, entry.2, entry.1, some sql, input⟩

theorem executePlan_apply (stage : Stage) (sql : String) (input : Option String) (s : Session) :
    executePlan stage sql input s =
      (Action.engine (run stage (outputName s stage) sql s.previewRows) >>= fun output =>
        recordOutput stage (position s.store stage) (outputName s stage) output >>= fun entry =>
          pure ⟨stage, entry.2, entry.1, some sql, input⟩) s :=
  bind_of_ok rfl

theorem execute_eq (active : Option String) (s : Session) (hk : stage.kind ≠ .load) :
    Action.execute stage active s =
      (Action.ofPipeline (preview s.store stage active) >>= fun planned =>
        executePlan stage planned.1 planned.2) s := by
  have hget : (get : Action Session) s = .ok s s := rfl
  rw [preview_eq s.store active hk]
  unfold Action.execute
  cases hc : ensureComplete stage with
  | error e =>
    have hrefused : ∀ {α : Type}, Action.ofPipeline (.error e : Except PipelineError α) s =
        .error (.pipeline e) s := rfl
    exact (bind_of_error hrefused).trans (bind_of_error hrefused).symm
  | ok _ =>
    have hpass : Action.ofPipeline (.ok () : Except PipelineError Unit) s = .ok () s := rfl
    have hbind : ((.ok () : Except PipelineError Unit) >>= fun _ => plan s.store stage active) =
        plan s.store stage active := rfl
    rw [bind_of_ok hpass, if_neg hk, bind_of_ok hget, hbind]
    cases hp : plan s.store stage active with
    | error e =>
      have hrefused : Action.ofPipeline (.error e : Except PipelineError (String × Option String)) s =
          .error (.pipeline e) s := rfl
      rw [bind_of_error hrefused, bind_of_error hrefused]
    | ok planned =>
      have hplanned : Action.ofPipeline (.ok planned : Except PipelineError _) s =
          .ok planned s := rfl
      rw [bind_of_ok hplanned, bind_of_ok hplanned, executePlan_apply]
      rfl

theorem execute_of_preview_error {e : PipelineError} (hk : stage.kind ≠ .load)
    (hp : preview s.store stage active = .error e) :
    Action.execute stage active s = .error (.pipeline e) s := by
  rw [execute_eq active s hk, hp]
  rfl

theorem execute_of_preview_ok {sql : String} {input : Option String} (hk : stage.kind ≠ .load)
    (hp : preview s.store stage active = .ok (sql, input)) :
    Action.execute stage active s = executePlan stage sql input s := by
  rw [execute_eq active s hk, hp]
  rfl

theorem recordOutput_logs (s : Session) (stage : Stage) (position : Nat) (table : String)
    (output : Output) : ∃ entry t more, recordOutput stage position table output s = .ok entry t ∧
      t.connection = s.connection.after more := by
  obtain ⟨failure, hrecord⟩ := recordOutput_eq s stage position table output
  exact ⟨_, _, _, hrecord, rfl⟩

theorem executePlan_begins (stage : Stage) (sql : String) (input : Option String) (s : Session) :
    ∃ failure more, (final (executePlan stage sql input) s).connection =
      s.connection.after
        (⟨.createTableAs (TableName.staging (outputName s stage)) sql, failure⟩ :: more) := by
  obtain ⟨failure, more, hbegins⟩ :=
    run_begins stage (outputName s stage) sql s.previewRows s.connection
  rw [final_congr (executePlan_apply stage sql input s)]
  cases hr : run stage (outputName s stage) sql s.previewRows s.connection with
  | error fault c =>
    rw [final_of_error hr] at hbegins
    rw [final_bind_of_error (Action.engine_of_error hr), hbegins]
    exact ⟨failure, more, rfl⟩
  | ok output c =>
    rw [final_of_ok hr] at hbegins
    obtain ⟨entry, t, later, hrecord, hlog⟩ := recordOutput_logs { s with connection := c } stage
      (position s.store stage) (outputName s stage) output
    rw [final_bind_of_ok (Action.engine_of_ok hr), final_bind_pure, final_of_ok hrecord, hlog,
      hbegins, ← Connection.after_append, List.cons_append]
    exact ⟨failure, _, rfl⟩

theorem executePlan_reports {sql : String} {input : Option String} {t : Session}
    {m : Materialization} (h : executePlan stage sql input s = .ok m t) :
    m.sql = some sql ∧ m.inputTable = input := by
  rw [executePlan_apply] at h
  cases hr : run stage (outputName s stage) sql s.previewRows s.connection with
  | error fault c =>
    rw [bind_of_error (Action.engine_of_error hr)] at h
    cases h
  | ok output c =>
    obtain ⟨entry, u, -, hrecord, -⟩ := recordOutput_logs { s with connection := c } stage
      (position s.store stage) (outputName s stage) output
    rw [bind_of_ok (Action.engine_of_ok hr), bind_of_ok hrecord, pure_apply] at h
    obtain ⟨rfl, -⟩ := EStateM.Result.ok.inj h
    exact ⟨rfl, rfl⟩

/-- What a stage is planned as is what its execution sends first and reports. -/
theorem execute_of_planned {sql : String} {input : Option String} (hk : stage.kind ≠ .load)
    (hp : preview s.store stage active = .ok (sql, input)) :
    (∃ first more,
      (final (Action.execute stage active) s).connection = s.connection.after (first :: more) ∧
        first.statement.sql =
          "CREATE OR REPLACE TABLE " ++ (outputName s stage ++ "__staging") ++ " AS " ++ sql) ∧
      ∀ m u, Action.execute stage active s = .ok m u → m.sql = some sql ∧ m.inputTable = input := by
  have hexecute := execute_of_preview_ok hk hp
  obtain ⟨failure, more, hbegins⟩ := executePlan_begins stage sql input s
  rw [← final_congr hexecute] at hbegins
  exact ⟨⟨_, more, hbegins, rfl⟩, fun m u hr => executePlan_reports (hexecute.symm.trans hr)⟩

/-! ### Agreement -/

theorem previewStage_apply (stage : Stage) (active : Option String) (s : Session) :
    Action.previewStage stage active s =
      Action.ofPipeline (preview s.store stage active) s := rfl

/-- A preview changes nothing and sends nothing. For a stage other than a LOAD it fails with the error
with which the execution of the stage fails before it sends anything, or it returns the query that the
execution sends first, under the staging name of the output, and reports together with its input. -/
theorem execute_agrees_with_preview (s : Session) (active : Option String)
    (hk : stage.kind ≠ .load) :
    final (Action.previewStage stage active) s = s ∧
      (∀ fault t, Action.previewStage stage active s = .error fault t →
        Action.execute stage active s = .error fault s) ∧
      ∀ sql input t, Action.previewStage stage active s = .ok (sql, input) t →
        (∃ first more,
          (final (Action.execute stage active) s).connection =
              s.connection.after (first :: more) ∧
            first.statement.sql = "CREATE OR REPLACE TABLE " ++
              (TableName.result (position s.store stage) stage.kind ++ "__staging") ++ " AS " ++
                sql) ∧
          ∀ m u, Action.execute stage active s = .ok m u →
            m.sql = some sql ∧ m.inputTable = input := by
  refine ⟨Action.previewStage_final stage active s, ?_, ?_⟩
  · intro fault t h
    rw [previewStage_apply] at h
    cases hp : preview s.store stage active with
    | error e =>
      rw [hp] at h
      cases h
      exact execute_of_preview_error hk hp
    | ok planned =>
      rw [hp] at h
      cases h
  · intro sql input t h
    rw [previewStage_apply] at h
    cases hp : preview s.store stage active with
    | error e =>
      rw [hp] at h
      cases h
    | ok planned =>
      rw [hp] at h
      obtain ⟨rfl, -⟩ := EStateM.Result.ok.inj h
      exact execute_of_planned hk hp

/-- In an empty session a stage without an input is refused, and one with a query of its own runs it. -/
theorem previewed_in_empty_session :
    let s := Session.silent false
    let silent : Stage := ⟨"a", .select, "", [("columns", .list [.text "id"])]⟩
    let custom : Stage := ⟨"b", .custom, "", [("sql", .text "SELECT 1")]⟩
    Action.execute silent none s =
        .error (.pipeline (.resolution "a" (.noInput .select))) s ∧
      (∃ first more,
        (final (Action.execute custom none) s).connection = s.connection.after (first :: more) ∧
          first.statement.sql =
            "CREATE OR REPLACE TABLE result_stage_0_custom__staging AS SELECT 1") ∧
      ∃ m u, Action.execute custom none s = .ok m u ∧ m.sql = some "SELECT 1" ∧
        m.inputTable = none := by
  intro s silent custom
  have hsilent : silent.kind ≠ .load := by decide
  have hcustom : custom.kind ≠ .load := by decide
  obtain ⟨-, hrefused, -⟩ := execute_agrees_with_preview s none hsilent
  obtain ⟨-, -, hplanned⟩ := execute_agrees_with_preview s none hcustom
  have hpreview : result? (Action.previewStage custom none) s = some ("SELECT 1", none) := by
    decide +kernel
  have herror : fault? (Action.previewStage silent none) s =
      some (.pipeline (.resolution "a" (.noInput .select))) := by
    decide +kernel
  obtain ⟨⟨first, more, hfirst, hsql⟩, hreports⟩ := hplanned _ _ _ (ok_of_result? hpreview)
  have hname : TableName.result (position s.store custom) custom.kind = "result_stage_0_custom" := by
    decide +kernel
  have hruns : (result? (Action.execute custom none) s).isSome := by decide +kernel
  obtain ⟨m, hm⟩ := Option.isSome_iff_exists.mp hruns
  refine ⟨hrefused _ _ (error_of_fault? herror), ⟨first, more, hfirst, ?_⟩, m, _, ok_of_result? hm,
    hreports m _ (ok_of_result? hm)⟩
  rw [hsql, hname]
  decide

end

end StagedSql.Materialization
