import StagedSql.Proofs.Session.Materialize

/-!
# A failed execution changes nothing

Executing a stage changes the store only at the end, so a failure leaves the store as it was. In the
engine a failure leaves every table as it was, except for what is left under the staging name.
-/

namespace StagedSql.Materialization

open Engine Engine.Work Outcome

section

variable {stage : Stage} {table sql : String} {previewRows : Int}

/-! ### The statements of a build -/

theorem isPlain_readBack (staging sql : String) (previewRows : Int) :
    ∀ s ∈ readBack staging sql previewRows, s.isPlain := by
  simp [readBack, Statement.isPlain]

theorem isPlain_promotion (staging table : String) (views : List (String × String)) :
    ∀ s ∈ promotion staging table views, s.isPlain := by
  intro s hs
  rcases List.mem_append.mp hs with hs | hs
  · rcases List.mem_cons.mp hs with rfl | hs
    · rfl
    · obtain rfl := List.mem_singleton.mp hs
      rfl
  · obtain ⟨v, -, rfl⟩ := List.mem_map.mp hs
    rfl

theorem effect_readBack {staging : String} :
    ∀ s ∈ readBack staging sql previewRows, ∀ other, other ≠ staging → ∀ tables,
      other ∈ s.effect tables ↔ other ∈ tables := by
  intro s hs other hne tables
  simp only [readBack, List.mem_cons, List.not_mem_nil, or_false] at hs
  rcases hs with rfl | rfl | rfl | rfl
  · rw [Statement.effect, Finset.mem_insert, or_iff_right hne]
  all_goals rfl

theorem spares_readBack {staging : String} {done rest : List Statement}
    (split : readBack staging sql previewRows = done ++ rest) :
    Database.Spares staging (answered done) := by
  have hsub : ∀ s ∈ done, s ∈ readBack staging sql previewRows := by
    intro s hs
    rw [split]
    exact List.mem_append_left _ hs
  exact Database.spares_answered (fun s hs => isPlain_readBack _ _ _ s (hsub s hs))
    fun s hs => effect_readBack s (hsub s hs)

/-! ### What a failure leaves behind -/

/-- A failure strikes while the output is built and read back, or inside the transaction. -/
theorem planned_split {done rest : List Statement} {failing : Statement}
    (split : planned stage table sql previewRows = done ++ failing :: rest) :
    (∃ more, readBack (TableName.staging table) sql previewRows = done ++ failing :: more) ∨
      ∃ inside, done = readBack (TableName.staging table) sql previewRows ++ inside ∧
        transacted (promotion (TableName.staging table) table (views stage table)) =
          inside ++ failing :: rest := by
  rw [planned_eq] at split
  rcases List.append_eq_append_iff.mp split with ⟨inside, hdone, hinside⟩ | ⟨before, hread, hrest⟩
  · exact .inr ⟨inside, hdone, hinside⟩
  · cases before with
    | nil => exact .inr ⟨[], by simp [hread], hrest.symm⟩
    | cons first more =>
      obtain rfl : failing = first := (List.cons.inj hrest).1
      exact .inl ⟨more, hread⟩

theorem commit_not_mem_of_split {done rest : List Statement} {failing : Statement}
    (split : planned stage table sql previewRows = done ++ failing :: rest) : .commit ∉ done := by
  intro hmem
  have hbefore := (isPrefix_of_split split).subset hmem
  by_cases hk : stage.kind = .join <;> simp [hk] at hbefore

theorem spares_failure {done rest : List Statement} {failing : Statement} (reason : String)
    (rollback : Option String)
    (split : planned stage table sql previewRows = done ++ failing :: rest) :
    Database.Spares (TableName.staging table)
      (answered done ++ [⟨failing, some reason⟩] ++ rollbackAfter (done ++ [failing]) rollback) := by
  rcases planned_split split with ⟨more, hread⟩ | ⟨inside, rfl, hinside⟩
  · have hplain := isPlain_readBack _ _ _ failing (by rw [hread]; simp)
    rw [rollbackAfter_readBack hread, List.append_nil]
    exact (spares_readBack hread).append ((Database.turns_failed hplain reason).spares _)
  · have hback := (Database.turns_rolledBack (isPlain_promotion _ _ _) hinside reason rollback).spares
      (TableName.staging table)
    rw [rollbackAfter_transacted hinside, answered_append]
    have hread := spares_readBack (List.append_nil
      (readBack (TableName.staging table) sql previewRows)).symm
    simpa using hread.append hback

/-- A run that fails commits nothing, and touches the staging table only. -/
theorem spares_run {c c' : Connection} {fault : Fault}
    (h : run stage table sql previewRows c = .error fault c') :
    ∃ sent, c' = c.after sent ∧ ⟨.commit, none⟩ ∉ sent ∧
      Database.Spares (TableName.staging table) sent := by
  have hran := run_outcome stage table sql previewRows c
  rw [h] at hran
  cases hran with
  | failed done rest failing reason rollback discard split =>
    have hcommit := commit_not_mem_of_split split
    refine ⟨_, rfl, ?_, (spares_failure reason rollback split).append
      (Database.spares_dropTable _ discard)⟩
    simp [answered, rollbackAfter, hcommit]
  | misread done rest fault split other =>
    have hcommit : .commit ∉ done := by
      intro hmem
      have hread : .commit ∈ readBack (TableName.staging table) sql previewRows := by
        rw [split]
        exact List.mem_append_left _ hmem
      simp [readBack] at hread
    exact ⟨_, rfl, by simpa [answered] using hcommit, spares_readBack split⟩

theorem run_error_execution {c c' : Connection} {e : PipelineError}
    (h : run stage table sql previewRows c = .error (.pipeline e) c') :
    ∃ done failing rest reason rollback discard,
      e = .execution stage.id reason stage.description sql ∧
        planned stage table sql previewRows = done ++ failing :: rest ∧
        c' = c.after (answered done ++ [⟨failing, some reason⟩] ++
          rollbackAfter (done ++ [failing]) rollback ++
          [⟨.dropTable (TableName.staging table), discard⟩]) := by
  have hran := run_outcome stage table sql previewRows c
  rw [h] at hran
  cases hran with
  | failed done rest failing reason rollback discard split =>
    exact ⟨done, failing, rest, reason, rollback, discard, rfl, split, rfl⟩
  | misread done rest fault split other => exact absurd rfl (other.1 e)

end

/-! ### Failures of an execution -/

/-- A failure that comes before anything is sent leaves the session as it was. Any other failure
leaves the store as it was. An error of the engine ends what is sent at the statement that failed,
but for a rollback of the transaction, if it had come to that, and for the removal of the staging
table. Nothing is committed, and every table of the engine but the staging table stays as it was. -/
theorem execute_error_all_or_nothing {stage : Stage} {active : Option String} {s s' : Session}
    {fault : Fault} (h : Action.execute stage active s = .error fault s') :
    s'.store = s.store ∧
      (∀ e : PipelineError, fault = .pipeline e → e.isRefusal → s' = s) ∧
      (∀ id reason description sql, fault = .pipeline (.execution id reason description sql) →
        id = stage.id ∧ description = stage.description ∧
          (∃ input, plan s.store stage active = .ok (sql, input)) ∧
          ∃ done failing rest rollback discard,
            planned stage (outputName s stage) sql s.previewRows = done ++ failing :: rest ∧
              s'.connection.log = s.connection.log ++
                (answered done ++ [⟨failing, some reason⟩] ++
                  rollbackAfter (done ++ [failing]) rollback ++
                  [⟨.dropTable (TableName.staging (outputName s stage)), discard⟩])) ∧
      ∃ sent, s'.connection.log = s.connection.log ++ sent ∧ ⟨.commit, none⟩ ∉ sent ∧
        ∀ tables name, name ≠ TableName.staging (outputName s stage) →
          (name ∈ ((Database.mk tables none).run sent).tables ↔ name ∈ tables) := by
  have houtcome := execute_outcome stage active s
  rw [h] at houtcome
  cases houtcome with
  | refused e refusal =>
    refine ⟨rfl, fun _ _ _ => rfl, ?_, [], by simp, by simp, fun _ _ _ => Iff.rfl⟩
    intro id reason description sql he
    cases he
    cases refusal
  | broken sql input fault c kind hplan ran =>
    refine ⟨rfl, ?_, ?_, ?_⟩
    · rintro e rfl hrefusal
      obtain ⟨_, _, _, _, _, _, rfl, -, -⟩ := run_error_execution ran
      cases hrefusal
    · rintro id reason description sql' rfl
      obtain ⟨done, failing, rest, reason, rollback, discard, he, split, rfl⟩ :=
        run_error_execution ran
      cases he
      exact ⟨rfl, rfl, ⟨input, hplan⟩, done, failing, rest, rollback, discard, split, rfl⟩
    · obtain ⟨sent, rfl, hcommit, f, hf, hsame⟩ := spares_run ran
      refine ⟨sent, rfl, hcommit, fun tables name hne => ?_⟩
      rw [hf]
      exact hsame tables name hne

/-- A join over an engine that refuses to commit and to roll back. -/
theorem execute_error_at_commit :
    let stage : Stage := ⟨"a", .join, "", [("leftTable", .text "t"), ("rightTable", .text "u"),
      ("leftKey", .text "k"), ("rightKey", .text "k")]⟩
    let s := Session.opened (fun _ statement =>
      if statement = .commit ∨ statement = .rollback then .error "refused" else .ok .none) 100 false
    fault? (Action.execute stage none) s = some (.pipeline (.execution "a" "refused" ""
        "SELECT l.*, r.* EXCLUDE (k) FROM t l INNER JOIN u r USING (k)")) ∧
      (final (Action.execute stage none) s).store = Store.empty ∧
      "result_stage_0_join" ∉ (final (Action.execute stage none) s).connection.database.tables := by
  intro stage s
  have hfault : fault? (Action.execute stage none) s = some (.pipeline (.execution "a" "refused" ""
      "SELECT l.*, r.* EXCLUDE (k) FROM t l INNER JOIN u r USING (k)")) := by
    decide +kernel
  obtain ⟨hstore, -, -, sent, hlog, -, htables⟩ :=
    execute_error_all_or_nothing (error_of_fault? hfault)
  refine ⟨hfault, hstore, ?_⟩
  have hname : "result_stage_0_join" ≠ TableName.staging (outputName s stage) := by decide +kernel
  have hlog : (final (Action.execute stage none) s).connection.log = sent := hlog
  rw [Connection.database, hlog]
  exact fun h => by simpa using (htables ∅ _ hname).mp h

end StagedSql.Materialization
