import StagedSql.Proofs.Engine.Database
import StagedSql.Proofs.Keyed
import StagedSql.Proofs.TableName
import StagedSql.Session.Materialize

/-!
# Materializing succeeds or changes nothing

What building an output sends, and what it leaves behind when it fails at any point.
-/

namespace StagedSql.Materialization

open Engine Engine.Work Outcome

/-! ### Statements -/

def readBack (staging sql : String) (previewRows : Int) : List Statement :=
  [.createTableAs staging sql, .describe staging, .preview staging previewRows, .countRows staging]

def planned (stage : Stage) (table sql : String) (previewRows : Int) : List Statement :=
  [.createTableAs (TableName.staging table) sql,
    .describe (TableName.staging table),
    .preview (TableName.staging table) previewRows,
    .countRows (TableName.staging table),
    .beginTransaction,
    .dropTable table,
    .renameTable (TableName.staging table) table] ++
  (if stage.kind = .join then
    [.createView (TableName.joined (stage.entry "leftTable").display
      (stage.entry "rightTable").display) ("SELECT * FROM " ++ table)]
  else []) ++
  [.commit]

theorem planned_eq (stage : Stage) (table sql : String) (previewRows : Int) :
    planned stage table sql previewRows =
      readBack (TableName.staging table) sql previewRows ++
        transacted (promotion (TableName.staging table) table (views stage table)) := by
  by_cases hk : stage.kind = .join <;>
    simp [planned, readBack, transacted, promotion, views, hk]

/-- The rollback after a failure, if a transaction was begun or tried to. -/
def rollbackAfter (sent : List Statement) (outcome : Option String) : List Exchange :=
  if .beginTransaction ∈ sent then [⟨.rollback, outcome⟩] else []

theorem rollbackAfter_readBack {staging sql : String} {previewRows : Int}
    {done rest : List Statement} {failing : Statement}
    (split : readBack staging sql previewRows = done ++ failing :: rest)
    (outcome : Option String) : rollbackAfter (done ++ [failing]) outcome = [] := by
  refine if_neg fun hmem => ?_
  have hread : .beginTransaction ∈ readBack staging sql previewRows := by
    rw [split, List.append_cons]
    exact List.mem_append_left _ hmem
  simp [readBack] at hread

theorem rollbackAfter_transacted {body done rest : List Statement} {failing : Statement}
    (split : transacted body = done ++ failing :: rest) (before : List Statement)
    (outcome : Option String) :
    rollbackAfter ((before ++ done) ++ [failing]) outcome = [⟨.rollback, outcome⟩] := by
  refine if_pos ?_
  cases done with
  | nil => simp [(List.cons.inj split).1]
  | cons first more => simp [(List.cons.inj split).1]

/-! ### Building -/

def readOutput (staging sql : String) (previewRows : Int) : Work Output := do
  Work.createTableAs staging sql
  let columns ← Work.describe staging
  let preview ← Work.query (.preview staging previewRows)
  let rowCount ← Work.countRows staging
  return ⟨columns, preview.rows, rowCount⟩

theorem sends_readOutput (staging sql : String) (previewRows : Int) :
    Sends Misread (readOutput staging sql previewRows) (readBack staging sql previewRows) :=
  (Sends.run _).bind fun _ => (Sends.describe staging).bind fun _ =>
    (Sends.query _).bind fun _ => (Sends.countRows staging).bind fun _ => Sends.pure _

theorem build_eq (stage : Stage) (table sql : String) (previewRows : Int) :
    build stage table sql previewRows =
      readOutput (TableName.staging table) sql previewRows >>= fun output =>
        transaction (promotion (TableName.staging table) table (views stage table)) >>= fun _ =>
          pure output := by
  simp only [build, readOutput, promote, bind_assoc, pure_bind]

section

variable {stage : Stage} {table sql : String} {previewRows : Int} {c c' : Connection}

theorem run_of_build_ok {output : Output} (h : build stage table sql previewRows c = .ok output c') :
    run stage table sql previewRows c = .ok output c' :=
  tryCatch_of_ok h

theorem run_of_build_failed {reason : String}
    (h : build stage table sql previewRows c = .error (engineError reason) c') :
    ∃ discard, run stage table sql previewRows c =
      .error (.pipeline (.execution stage.id reason stage.description sql))
        (c'.after [⟨.dropTable (TableName.staging table), discard⟩]) := by
  obtain ⟨discard, hdrop⟩ := attempt_eq (.dropTable (TableName.staging table)) c'
  refine ⟨discard, ?_⟩
  unfold run
  rw [tryCatch_of_error h]
  exact bind_of_ok hdrop

theorem run_of_build_stopped {fault : Fault} (hne : ∀ e, fault ≠ .pipeline e)
    (h : build stage table sql previewRows c = .error fault c') :
    run stage table sql previewRows c = .error fault c' := by
  unfold run
  rw [tryCatch_of_error h]
  cases fault with
  | pipeline e => exact absurd rfl (hne e)
  | _ => rfl

end

inductive Ran (stage : Stage) (table sql : String) (previewRows : Int) (c : Connection) :
    EStateM.Result Fault Connection Output → Prop
  | built (output : Output) :
      Ran stage table sql previewRows c
        (.ok output (c.after (answered (planned stage table sql previewRows))))
  | failed (done rest : List Statement) (failing : Statement) (reason : String)
      (rollback discard : Option String)
      (split : planned stage table sql previewRows = done ++ failing :: rest) :
      Ran stage table sql previewRows c
        (.error (.pipeline (.execution stage.id reason stage.description sql))
          (c.after (answered done ++ [⟨failing, some reason⟩] ++
            rollbackAfter (done ++ [failing]) rollback ++
            [⟨.dropTable (TableName.staging table), discard⟩])))
  | misread (done rest : List Statement) (fault : Fault)
      (split : readBack (TableName.staging table) sql previewRows = done ++ rest)
      (other : Misread c.responder fault) (asked : done ≠ []) :
      Ran stage table sql previewRows c (.error fault (c.after (answered done)))

theorem run_outcome (stage : Stage) (table sql : String) (previewRows : Int) (c : Connection) :
    Ran stage table sql previewRows c (run stage table sql previewRows c) := by
  have hread := sends_readOutput (TableName.staging table) sql previewRows c
  have hbuild := congrFun (build_eq stage table sql previewRows) c
  generalize hr : readOutput (TableName.staging table) sql previewRows c = r at hread
  cases hread with
  | all output =>
    rw [bind_of_ok hr] at hbuild
    have hpromote := transaction_outcome
      (promotion (TableName.staging table) table (views stage table))
      (c.after (answered (readBack (TableName.staging table) sql previewRows)))
    generalize hp : transaction _ _ = p at hpromote
    cases hpromote with
    | committed =>
      rw [bind_of_ok hp, pure_apply, ← Connection.after_append, ← answered_append,
        ← planned_eq] at hbuild
      rw [run_of_build_ok hbuild]
      exact .built output
    | rolledBack done rest failing reason rollback split =>
      rw [bind_of_error hp] at hbuild
      obtain ⟨discard, hrun⟩ := run_of_build_failed hbuild
      have hsplit : planned stage table sql previewRows =
          (readBack (TableName.staging table) sql previewRows ++ done) ++ failing :: rest := by
        rw [planned_eq, split, List.append_assoc]
      have h := Ran.failed (c := c) _ rest failing reason rollback discard hsplit
      rw [rollbackAfter_transacted split] at h
      rw [hrun]
      simpa [answered_append, ← Connection.after_append] using h
  | failed done rest failing reason split =>
    rw [bind_of_error hr] at hbuild
    obtain ⟨discard, hrun⟩ := run_of_build_failed hbuild
    have hsplit : planned stage table sql previewRows = done ++ failing :: (rest ++ transacted
        (promotion (TableName.staging table) table (views stage table))) := by
      rw [planned_eq, split, List.append_assoc, List.cons_append]
    have h := Ran.failed (c := c) _ _ failing reason none discard hsplit
    rw [rollbackAfter_readBack split] at h
    rw [hrun]
    simpa [← Connection.after_append] using h
  | stopped done rest fault split other asked =>
    rw [bind_of_error hr] at hbuild
    rw [run_of_build_stopped other.1 hbuild]
    exact .misread done rest fault split other asked

/-! ### Refusals -/

end Materialization

/-- The errors that are found before anything is sent. -/
def PipelineError.isRefusal : PipelineError → Bool
  | incomplete .. | resolution .. | compile .. => true
  | _ => false

namespace Materialization

open Engine Engine.Work Outcome

theorem ensureComplete_error {stage : Stage} {e : PipelineError}
    (h : ensureComplete stage = .error e) : e.isRefusal := by
  unfold ensureComplete at h
  split at h <;> cases h
  rfl

theorem loadedTable_error {store : Store} {stage : Stage} {e : PipelineError}
    (h : loadedTable store stage = .error e) : e.isRefusal := by
  simp only [loadedTable] at h
  split at h <;> cases h
  rfl

theorem inputFor_error {store : Store} {stage : Stage} {position : Nat} {active : Option String}
    {e : PipelineError} (h : inputFor store stage position active = .error e) : e.isRefusal := by
  unfold inputFor at h
  split at h
  · cases h
  · split at h
    · cases h
    · split at h <;> cases h
      rfl

theorem plan_error {store : Store} {stage : Stage} {active : Option String} {e : PipelineError}
    (h : plan store stage active = .error e) : e.isRefusal := by
  unfold plan at h
  cases hi : inputFor store stage (position store stage) active with
  | error e' =>
    rw [hi] at h
    cases h
    exact inputFor_error hi
  | ok input =>
    rw [hi] at h
    have h : (compiled stage input >>= fun sql => pure (sql, input)) = .error e := h
    unfold compiled at h
    cases hc : Query.compile stage input with
    | error problem =>
      rw [hc] at h
      cases h
      rfl
    | ok sql =>
      rw [hc] at h
      cases h

/-! ### Recording -/

def resultEntry (s : Session) (stage : Stage) (table : String) (output : Output) : Table where
  id := match reusedTable? s.store stage table with
    | some t => t.id
    | none => Table.mintedId (s.tablesMinted + 1)
  name := table
  columns := output.columns
  rows := output.rows
  rowCount := output.rowCount
  stageId := some stage.id
  source := Table.fromStage

def recorded (s : Session) (stage : Stage) (position : Nat) (table : String) (output : Output) :
    Session :=
  { s with
    tablesMinted :=
      if (reusedTable? s.store stage table).isSome then s.tablesMinted else s.tablesMinted + 1
    store := (s.store.commit stage (resultEntry s stage table output) position).2 }

/-- The name of the stage's earlier output, if it is out of use in `store`. -/
def superseded? (before : Store) (stage : Stage) (table : String) (store : Store) : Option String :=
  match before.outputOf? stage.id with
  | some previous =>
    if previous.name ≠ table ∧ (store.tableNamed? previous.name).isNone then some previous.name
    else none
  | none => none

/-- Only the stage's own output is superseded, and only under a name that has gone out of use. -/
theorem superseded?_eq_some_iff {before store : Store} {stage : Stage} {table name : String} :
    superseded? before stage table store = some name ↔
      ∃ previous, before.outputOf? stage.id = some previous ∧ previous.name = name ∧
        name ≠ table ∧ ∀ e ∈ store.tables, e.2.name ≠ name := by
  have hnamed : (store.tableNamed? name).isNone ↔ ∀ e ∈ store.tables, e.2.name ≠ name := by
    simp only [Store.tableNamed?, Option.isNone_iff_eq_none, List.find?_eq_none, Keyed.mem_values_iff]
    constructor
    · intro hnone e he hname
      exact hnone e.2 ⟨e.1, he⟩ (decide_eq_true hname)
    · rintro hne t ⟨key, ht⟩ hname
      exact hne _ ht (of_decide_eq_true hname)
  unfold superseded?
  cases before.outputOf? stage.id with
  | none => simp
  | some previous =>
    dsimp only
    constructor
    · intro h
      split at h
      · next hc =>
        obtain rfl := Option.some.inj h
        exact ⟨previous, rfl, rfl, hc.1, hnamed.mp hc.2⟩
      · cases h
    · rintro ⟨_, hp, rfl, hne, hunused⟩
      obtain rfl := Option.some.inj hp
      rw [if_pos ⟨hne, hnamed.mpr hunused⟩]

def discarding (name : Option String) (failure : Option String) : List Exchange :=
  name.toList.map fun name => ⟨.dropTable name, failure⟩

def recordUnder (store : Store) (stage : Stage) (position : Nat) (result : Table) :
    Action (Bool × Table) := do
  let remapped ← Action.change fun s => s.commit stage result position
  match store.outputOf? stage.id with
  | some previous =>
    if previous.name ≠ result.name ∧ ((← Action.store).tableNamed? previous.name).isNone then
      Action.engine (Work.attempt (.dropTable previous.name))
  | none => pure ()
  return (remapped, result)

theorem recordOutput_eq_recordUnder (s : Session) (stage : Stage) (position : Nat) (table : String)
    (output : Output) :
    recordOutput stage position table output s =
      recordUnder s.store stage position (resultEntry s stage table output)
        { s with tablesMinted := (recorded s stage position table output).tablesMinted } := by
  unfold recordOutput
  rw [bind_of_ok (Action.store_apply _)]
  cases hr : reusedTable? s.store stage table with
  | some t =>
    simp only [recorded, resultEntry, hr]
    rfl
  | none =>
    simp only [recorded, resultEntry, hr]
    rfl

theorem recordUnder_eq (s : Session) (store : Store) (stage : Stage) (position : Nat)
    (result : Table) :
    ∃ failure, recordUnder store stage position result s =
      .ok ((s.store.commit stage result position).1, result)
        { s with
          store := (s.store.commit stage result position).2
          connection := s.connection.after (discarding
            (superseded? store stage result.name (s.store.commit stage result position).2)
            failure) } := by
  have hchange : Action.change (fun st => st.commit stage result position) s =
      .ok (s.store.commit stage result position).1
        { s with store := (s.store.commit stage result position).2 } := rfl
  unfold recordUnder
  rw [bind_of_ok hchange]
  cases hp : store.outputOf? stage.id with
  | none => exact ⟨none, by simp [superseded?, hp, discarding]; rfl⟩
  | some previous =>
    dsimp only
    rw [bind_of_ok (Action.store_apply _)]
    by_cases hc : previous.name ≠ result.name ∧
        ((s.store.commit stage result position).2.tableNamed? previous.name).isNone
    · obtain ⟨failure, hdrop⟩ := attempt_eq (.dropTable previous.name) s.connection
      have hengine := Action.engine_of_ok
        (s := { s with store := (s.store.commit stage result position).2 }) hdrop
      refine ⟨failure, ?_⟩
      rw [if_pos hc, bind_of_ok hengine, pure_apply]
      simp only [superseded?, hp, if_pos hc, discarding, Option.toList_some, List.map_cons,
        List.map_nil]
    · refine ⟨none, ?_⟩
      rw [if_neg hc, pure_apply]
      simp only [superseded?, hp, if_neg hc, discarding, Option.toList_none, List.map_nil,
        Connection.after_nil]

theorem recordOutput_eq (s : Session) (stage : Stage) (position : Nat) (table : String)
    (output : Output) :
    ∃ failure, recordOutput stage position table output s =
      .ok ((s.store.commit stage (resultEntry s stage table output) position).1,
          resultEntry s stage table output)
        { recorded s stage position table output with
          connection := s.connection.after (discarding (superseded? s.store stage table
            (recorded s stage position table output).store) failure) } := by
  rw [recordOutput_eq_recordUnder]
  exact recordUnder_eq { s with tablesMinted := (recorded s stage position table output).tablesMinted }
    s.store stage position (resultEntry s stage table output)

/-! ### Executing -/

def outputName (s : Session) (stage : Stage) : String :=
  TableName.result (position s.store stage) stage.kind

/-- The outcome of executing a stage: it is refused, it is a LOAD stage, it breaks off, or its output
is built and recorded. -/
inductive Executed (stage : Stage) (active : Option String) (s : Session) :
    EStateM.Result Fault Session Materialization → Prop
  | refused (e : PipelineError) (refusal : e.isRefusal) :
      Executed stage active s (.error (.pipeline e) s)
  | loaded (table : Table) (kind : stage.kind = .load)
      (found : loadedTable s.store stage = .ok table) :
      Executed stage active s
        (.ok ⟨stage, table, (s.store.commit stage table (position s.store stage)).1, none,
            some table.name⟩
          { s with store := (s.store.commit stage table (position s.store stage)).2 })
  | broken (sql : String) (input : Option String) (fault : Fault) (c : Connection)
      (kind : stage.kind ≠ .load) (planned : plan s.store stage active = .ok (sql, input))
      (ran : run stage (outputName s stage) sql s.previewRows s.connection = .error fault c) :
      Executed stage active s (.error fault { s with connection := c })
  | built (sql : String) (input : Option String) (output : Output) (failure : Option String)
      (kind : stage.kind ≠ .load) (planned : plan s.store stage active = .ok (sql, input)) :
      Executed stage active s
        (.ok ⟨stage, resultEntry s stage (outputName s stage) output,
            (s.store.commit stage (resultEntry s stage (outputName s stage) output)
              (position s.store stage)).1, some sql, input⟩
          { recorded s stage (position s.store stage) (outputName s stage) output with
            connection := s.connection.after
              (answered (Materialization.planned stage (outputName s stage) sql s.previewRows) ++
                discarding (superseded? s.store stage (outputName s stage)
                  (recorded s stage (position s.store stage) (outputName s stage) output).store)
                  failure) })

theorem recordLoad_outcome (stage : Stage) (active : Option String) (s : Session)
    (hk : stage.kind = .load) : Executed stage active s (recordLoad stage s) := by
  unfold recordLoad
  rw [bind_of_ok (Action.store_apply _)]
  cases ht : loadedTable s.store stage with
  | error e => exact .refused e (loadedTable_error ht)
  | ok table => exact .loaded table hk ht

theorem execute_outcome (stage : Stage) (active : Option String) (s : Session) :
    Executed stage active s (Action.execute stage active s) := by
  unfold Action.execute
  cases hc : ensureComplete stage with
  | error e => exact .refused e (ensureComplete_error hc)
  | ok _ =>
    have hpass : Action.ofPipeline (.ok () : Except PipelineError Unit) s = .ok () s := rfl
    rw [bind_of_ok hpass]
    by_cases hk : stage.kind = .load
    · rw [if_pos hk]
      exact recordLoad_outcome stage active s hk
    · have hget : (get : Action Session) s = .ok s s := rfl
      rw [if_neg hk, bind_of_ok hget]
      cases hp : plan s.store stage active with
      | error e => exact .refused e (plan_error hp)
      | ok planned =>
        obtain ⟨sql, input⟩ := planned
        have hplanned : Action.ofPipeline (.ok (sql, input) : Except PipelineError _) s =
            .ok (sql, input) s := rfl
        rw [bind_of_ok hplanned]
        show Executed stage active s
          ((Action.engine (run stage (outputName s stage) sql s.previewRows) >>= fun output =>
            recordOutput stage (position s.store stage) (outputName s stage) output >>= fun r =>
              pure ⟨stage, r.2, r.1, some sql, input⟩) s)
        have hran := run_outcome stage (outputName s stage) sql s.previewRows s.connection
        cases hr : run stage (outputName s stage) sql s.previewRows s.connection with
        | error fault c =>
          rw [bind_of_error (Action.engine_of_error hr)]
          exact .broken sql input fault c hk hp hr
        | ok output c =>
          obtain ⟨failure, hrecord⟩ := recordOutput_eq { s with connection := c } stage
            (position s.store stage) (outputName s stage) output
          rw [bind_of_ok (Action.engine_of_ok hr), bind_of_ok hrecord, pure_apply]
          rw [hr] at hran
          cases hran
          have h := Executed.built (s := s) sql input output failure hk hp
          rw [Connection.after_append] at h
          exact h

/-- A stage other than LOAD that is executed has been planned, and its output is built and recorded. -/
theorem built_of_execute {stage : Stage} {active : Option String} {s t : Session}
    {m : Materialization} (hk : stage.kind ≠ .load) (h : Action.execute stage active s = .ok m t) :
    ∃ sql output, plan s.store stage active = .ok (sql, m.inputTable) ∧ m.sql = some sql ∧
      m.table = resultEntry s stage (outputName s stage) output ∧
      m.remapped = (s.store.outputs.lookup? stage.id).isSome ∧
      t.store = (s.store.commit stage m.table (position s.store stage)).2 := by
  have houtcome := execute_outcome stage active s
  rw [h] at houtcome
  cases houtcome with
  | loaded table kind found => exact absurd kind hk
  | built sql input output failure kind planned => exact ⟨sql, output, planned, rfl, rfl, rfl, rfl⟩

/-- Only the connection to the engine tells that a stage has failed. -/
theorem execute_error {stage : Stage} {active : Option String} {s t : Session} {fault : Fault}
    (h : Action.execute stage active s = .error fault t) : ∃ c, t = { s with connection := c } := by
  have houtcome := execute_outcome stage active s
  rw [h] at houtcome
  cases houtcome with
  | refused e refusal => exact ⟨s.connection, rfl⟩
  | broken sql input fault c kind planned ran => exact ⟨c, rfl⟩

theorem responder_execute (stage : Stage) (active : Option String) (s : Session) :
    (final (Action.execute stage active) s).connection.responder = s.connection.responder := by
  have houtcome := execute_outcome stage active s
  generalize hr : Action.execute stage active s = r at houtcome
  cases houtcome with
  | refused e refusal => rw [final_of_error hr]
  | loaded table kind found => rw [final_of_ok hr]
  | broken sql input fault c kind planned ran =>
    rw [final_of_error hr]
    have hran := run_outcome stage (outputName s stage) sql s.previewRows s.connection
    rw [ran] at hran
    cases hran <;> rfl
  | built sql input output failure kind planned =>
    rw [final_of_ok hr]
    rfl

theorem misread_of_execute {stage : Stage} {active : Option String} {s t : Session} {fault : Fault}
    (h : Action.execute stage active s = .error fault t) (hne : ∀ e, fault ≠ .pipeline e) :
    Misread s.connection.responder fault := by
  have houtcome := execute_outcome stage active s
  rw [h] at houtcome
  cases houtcome with
  | refused e refusal => exact absurd rfl (hne e)
  | broken sql input fault c kind planned ran =>
    have hran := run_outcome stage (outputName s stage) sql s.previewRows s.connection
    rw [ran] at hran
    cases hran with
    | failed done rest failing reason rollback discard split => exact absurd rfl (hne _)
    | misread done rest fault split other => exact other

end StagedSql.Materialization
