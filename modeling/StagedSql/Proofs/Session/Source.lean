import StagedSql.Proofs.Engine.Database
import StagedSql.Session.Source

/-!
# Taking in source tables

A source table is created in the engine, read back and registered. Either all of this happens, or the
store stays as it was.
-/

namespace StagedSql

open Engine Engine.Work Outcome

namespace Engine

def Statement.isQuestion : Statement → Bool
  | describe _ | preview .. | countRows _ => true
  | _ => false

theorem Statement.isPlain_of_isQuestion {s : Statement} (h : s.isQuestion) : s.isPlain := by
  cases s <;> first | rfl | cases h

theorem Database.turns_questions {exchanges : List Exchange}
    (h : ∀ x ∈ exchanges, x.statement.isQuestion) : Database.Turns id exchanges := by
  intro tables
  induction exchanges with
  | nil => rfl
  | cons x rest ih =>
    have hx : (Database.mk tables none).observe x = ⟨tables, none⟩ := by
      obtain ⟨s, failure⟩ := x
      have hs : s.isQuestion := h _ (List.mem_cons_self ..)
      cases failure <;> cases s <;> first | rfl | cases hs
    rw [Database.run_cons, hx]
    exact ih fun y hy => h y (List.mem_cons_of_mem _ hy)

def Database.MayAdd (name : String) (exchanges : List Exchange) : Prop :=
  Turns id exchanges ∨ Turns (insert name) exchanges

end Engine

/-- A fault that an engine is to blame for: a failure that it reports, or a reply that cannot be
read. -/
def Engine.Blamed (responder : Responder) (fault : Fault) : Prop :=
  (∃ reason, fault = engineError reason) ∨ Misread responder fault

def Session.Asked (minted : Nat) (s t : Session) : Prop :=
  ∃ exchanges, (∀ x ∈ exchanges, x.statement.isQuestion) ∧
    t = { s with connection := s.connection.after exchanges, tablesMinted := minted }

/-- What taking in a table comes to: it is registered once the engine has it, or the store stays as it
was. -/
inductive Admitted (name source : String) (s : Session) : Session → Prop
  | kept (exchanges : List Exchange) (minted : Nat) (turns : Database.MayAdd name exchanges)
      (le : s.tablesMinted ≤ minted) :
      Admitted name source s
        { s with connection := s.connection.after exchanges, tablesMinted := minted }
  | registered (exchanges : List Exchange) (table : Table)
      (turns : Database.Turns (insert name) exchanges)
      (id : table.id = Table.mintedId (s.tablesMinted + 1)) (named : table.name = name)
      (sourced : table.source = source) :
      Admitted name source s
        { s with
          connection := s.connection.after exchanges
          tablesMinted := s.tablesMinted + 1
          store := (s.store.register table true).2 }

theorem Admitted.stages_eq {name source : String} {s t : Session} (h : Admitted name source s t) :
    t.store.stages = s.store.stages := by
  cases h <;> rfl

theorem Admitted.outputs_eq {name source : String} {s t : Session} (h : Admitted name source s t) :
    t.store.outputs = s.store.outputs := by
  cases h <;> rfl

theorem Admitted.stagesMinted_eq {name source : String} {s t : Session}
    (h : Admitted name source s t) : t.stagesMinted = s.stagesMinted := by
  cases h <;> rfl

/-- The outcome of registering a table: the engine cannot tell about it, or it is registered. -/
inductive Registered (name source : String) (s : Session) :
    EStateM.Result Fault Session Table → Prop
  | unread (questions : List Exchange) (minted : Nat) (fault : Fault)
      (asked : ∀ x ∈ questions, x.statement.isQuestion) (le : s.tablesMinted ≤ minted)
      (blamed : Blamed s.connection.responder fault) :
      Registered name source s (.error fault
        { s with connection := s.connection.after questions, tablesMinted := minted })
  | done (questions : List Exchange) (table : Table)
      (asked : ∀ x ∈ questions, x.statement.isQuestion)
      (id : table.id = Table.mintedId (s.tablesMinted + 1)) (named : table.name = name)
      (sourced : table.source = source) :
      Registered name source s (.ok (s.store.register table true).1
        { s with
          connection := s.connection.after questions
          tablesMinted := s.tablesMinted + 1
          store := (s.store.register table true).2 })

theorem TableDefinition.parts_of_read {definition : Value} {d : TableDefinition}
    (h : read definition = .ok d) : ∃ fields, definition = .object fields ∧
      readName fields = .ok d.name ∧ readColumns fields = .ok d.columns ∧
      ∃ items, readElements fields "rows" = .ok items ∧
        items.mapM (readRow (d.columns.map (·.name))) = .ok d.rows := by
  cases definition with
  | object fields =>
    have h : (readName fields >>= fun name => readColumns fields >>= fun columns =>
      readElements fields "rows" >>= fun items =>
        items.mapM (readRow (columns.map (·.name))) >>= fun rows =>
          pure (TableDefinition.mk name columns rows)) = .ok d := h
    obtain ⟨name, hname, h⟩ := exists_of_bind_ok h
    obtain ⟨columns, hcolumns, h⟩ := exists_of_bind_ok h
    obtain ⟨items, hitems, h⟩ := exists_of_bind_ok h
    obtain ⟨rows, hrows, h⟩ := exists_of_bind_ok h
    obtain rfl := Except.ok.inj h
    exact ⟨fields, rfl, hname, hcolumns, items, hitems, hrows⟩
  | _ => cases h

theorem TableDefinition.mapM_of_readColumns {fields : Fields} {columns : List Column}
    (h : readColumns fields = .ok columns) : columns ≠ [] ∧
      ∃ items, readElements fields "columns" = .ok items ∧ items.mapM readColumn = .ok columns := by
  obtain ⟨items, hitems, h⟩ := exists_of_bind_ok h
  obtain ⟨read, hread, h⟩ := exists_of_bind_ok h
  by_cases hnone : read = []
  · rw [if_pos hnone] at h
    cases h
  · rw [if_neg hnone] at h
    obtain rfl := Except.ok.inj h
    exact ⟨hnone, items, hitems, hread⟩

theorem TableDefinition.columns_ne_nil {definition : Value} {d : TableDefinition}
    (h : read definition = .ok d) : d.columns ≠ [] := by
  obtain ⟨fields, -, -, hcolumns, -⟩ := parts_of_read h
  exact (mapM_of_readColumns hcolumns).1

def TableDefinition.Sends (d : TableDefinition) (s : Statement) : Prop :=
  s ∈ transacted (creation d.name d.columns d.rows) ∨ s = .rollback ∨ s.isQuestion

/-- The outcome of creating a table from its definition: the definition is refused, the engine fails,
or the table is registered. -/
inductive Created (definition : Value) (s : Session) :
    EStateM.Result Fault Session Table → Prop
  | refused (fault : Fault) (read : TableDefinition.read definition = .error fault) :
      Created definition s (.error fault s)
  | failed (d : TableDefinition) (exchanges : List Exchange) (minted : Nat) (fault : Fault)
      (read : TableDefinition.read definition = .ok d)
      (sent : ∀ x ∈ exchanges, TableDefinition.Sends d x.statement)
      (turns : Database.MayAdd d.name exchanges) (le : s.tablesMinted ≤ minted)
      (blamed : Blamed s.connection.responder fault) :
      Created definition s (.error fault
        { s with connection := s.connection.after exchanges, tablesMinted := minted })
  | made (d : TableDefinition) (exchanges : List Exchange) (table : Table)
      (read : TableDefinition.read definition = .ok d)
      (sent : ∀ x ∈ exchanges, TableDefinition.Sends d x.statement)
      (turns : Database.Turns (insert d.name) exchanges)
      (id : table.id = Table.mintedId (s.tablesMinted + 1)) (named : table.name = d.name)
      (sourced : table.source = Table.fromDefinition) :
      Created definition s (.ok (s.store.register table true).1
        { s with
          connection := s.connection.after exchanges
          tablesMinted := s.tablesMinted + 1
          store := (s.store.register table true).2 })

namespace Action

/-! ### Questions -/

theorem engine_asked {α : Type} {work : Work α} {q : Statement} (h : Sends Misread work [q])
    (hq : q.isQuestion) {minted : Nat} {s t : Session} (ht : s.Asked minted t) :
    (∃ a u, engine work t = .ok a u ∧ s.Asked minted u) ∨
      ∃ fault u, engine work t = .error fault u ∧ s.Asked minted u ∧
        Blamed s.connection.responder fault := by
  obtain ⟨exchanges, hquestions, rfl⟩ := ht
  have hmore : ∀ sent : List Exchange, (∀ x ∈ sent, x.statement = q) →
      s.Asked minted { s with
        connection := (s.connection.after exchanges).after sent, tablesMinted := minted } := by
    intro sent hsent
    refine ⟨exchanges ++ sent, ?_, by rw [Connection.after_append]⟩
    intro x hx
    rcases List.mem_append.mp hx with hx | hx
    · exact hquestions x hx
    · rw [hsent x hx]
      exact hq
  have hsent := h (s.connection.after exchanges)
  unfold engine
  dsimp only
  generalize work (s.connection.after exchanges) = r at hsent
  have hdone : ∀ {done rest : List Statement}, [q] = done ++ rest →
      ∀ st ∈ done, st = q := by
    intro done rest split st hst
    have hmem : st ∈ [q] := by
      rw [split]
      exact List.mem_append_left _ hst
    exact List.mem_singleton.mp hmem
  have hanswered : ∀ {done rest : List Statement}, [q] = done ++ rest →
      ∀ x ∈ answered done, x.statement = q := by
    intro done rest split x hx
    obtain ⟨st, hst, rfl⟩ := List.mem_map.mp hx
    exact hdone split st hst
  cases hsent with
  | all a => exact .inl ⟨a, _, rfl, hmore _ (hanswered (List.append_nil [q]).symm)⟩
  | failed done rest failing reason split =>
    refine .inr ⟨_, _, rfl, hmore _ fun x hx => ?_, .inl ⟨reason, rfl⟩⟩
    rcases List.mem_append.mp hx with hx | hx
    · exact hanswered split x hx
    · rw [List.mem_singleton.mp hx]
      rw [List.append_cons] at split
      exact hdone split failing (List.mem_append_right _ (List.mem_singleton_self _))
  | stopped done rest fault split other =>
    exact .inr ⟨fault, _, rfl, hmore _ (hanswered split), .inr other⟩

theorem registerTable_outcome (name source : String) (s : Session) :
    Registered name source s (registerTable name source s) := by
  have hunread : ∀ {minted fault u}, s.tablesMinted ≤ minted → s.Asked minted u →
      Blamed s.connection.responder fault → Registered name source s (.error fault u) := by
    rintro minted fault u hle ⟨questions, hquestions, rfl⟩ hblamed
    exact .unread questions minted fault hquestions hle hblamed
  have hstart : s.Asked s.tablesMinted s := ⟨[], by simp, by simp⟩
  unfold registerTable
  rcases engine_asked (Sends.describe name) rfl hstart with
    ⟨columns, t, hdescribe, ht⟩ | ⟨fault, t, hdescribe, ht, hblamed⟩
  rotate_left
  · rw [bind_of_error hdescribe]
    exact hunread (Nat.le_refl _) ht hblamed
  have hget : (get : Action Session) t = .ok t t := rfl
  rw [bind_of_ok hdescribe, bind_of_ok hget]
  rcases engine_asked (Sends.query (.preview name t.previewRows)) rfl ht with
    ⟨preview, u, hpreview, hu⟩ | ⟨fault, u, hpreview, hu, hblamed⟩
  rotate_left
  · rw [bind_of_error hpreview]
    exact hunread (Nat.le_refl _) hu hblamed
  obtain ⟨questions, hquestions, rfl⟩ := hu
  have hmint : mintTableId
      { s with connection := s.connection.after questions, tablesMinted := s.tablesMinted } =
        .ok (Table.mintedId (s.tablesMinted + 1))
          { s with
            connection := s.connection.after questions, tablesMinted := s.tablesMinted + 1 } := rfl
  rw [bind_of_ok hpreview, bind_of_ok hmint]
  rcases engine_asked (Sends.countRows name) rfl ⟨questions, hquestions, rfl⟩ with
    ⟨rowCount, v, hcount, more, hmore, rfl⟩ | ⟨fault, v, hcount, hv, hblamed⟩
  · rw [bind_of_ok hcount]
    exact .done more _ hmore rfl rfl rfl
  · rw [bind_of_error hcount]
    exact hunread (Nat.le_succ _) hv hblamed

theorem registerTable_asks {name source : String} {s t : Session} {fault : Fault}
    (h : registerTable name source s = .error fault t) :
    s.connection.log.length < t.connection.log.length := by
  let I : Session → Prop := fun u => s.connection.log.length < u.connection.log.length
  have hengine : ∀ {α : Type} {work : Work α} {q : Statement}, Sends Misread work [q] →
      Keeps I (engine work) := by
    intro α work q hsends
    refine keeps_engine (I := fun c => s.connection.log.length < c.log.length) fun c hc => ?_
    obtain ⟨exchanges, heq, -⟩ := hsends.exists_after c
    rw [heq, Connection.log_after, List.length_append]
    omega
  have hget : Keeps I (get : Action Session) := fun _ hu => hu
  have hmint : Keeps I mintTableId := fun _ hu => hu
  have hchange : ∀ f : Store → Table × Store, Keeps I (change f) := fun _ _ hu => hu
  -- The description is asked for in any case, and nothing takes it out of the log again.
  have hfirst : I (final (engine (Work.describe name)) s) := by
    obtain ⟨exchanges, heq, hne⟩ := (Sends.describe name).exists_after s.connection
    have hpos := List.length_pos_of_ne_nil (hne (List.cons_ne_nil _ _))
    show s.connection.log.length < (final (engine (Work.describe name)) s).connection.log.length
    rw [final_engine, heq, Connection.log_after, List.length_append]
    omega
  unfold registerTable at h
  cases hdescribe : engine (Work.describe name) s with
  | error fault' u =>
    rw [bind_of_error hdescribe] at h
    obtain ⟨-, rfl⟩ := EStateM.Result.error.inj h
    rwa [final_of_error hdescribe] at hfirst
  | ok columns u =>
    rw [bind_of_ok hdescribe] at h
    rw [final_of_ok hdescribe] at hfirst
    rw [← final_of_error h]
    exact (hget.bind fun v => (hengine (Sends.query (.preview name v.previewRows))).bind fun _ =>
      hmint.bind fun _ => (hengine (Sends.countRows name)).bind fun _ => hchange _) u hfirst

/-! ### Taking in a table -/

theorem registerTable_admitted {name : String} (source : String) {s : Session}
    {exchanges : List Exchange} (h : Database.Turns (insert name) exchanges) :
    Admitted name source s
      (final (registerTable name source) { s with connection := s.connection.after exchanges }) := by
  have houtcome := registerTable_outcome name source
    { s with connection := s.connection.after exchanges }
  generalize hr : registerTable name source _ = r at houtcome
  have hturns : ∀ {questions : List Exchange}, (∀ x ∈ questions, x.statement.isQuestion) →
      Database.Turns (insert name) (exchanges ++ questions) := fun hquestions =>
    h.append (Database.turns_questions hquestions)
  cases houtcome with
  | unread questions minted fault asked le blamed =>
    have hkept : Admitted name source s _ := .kept _ minted (.inr (hturns asked)) le
    rw [Connection.after_append] at hkept
    rw [final_of_error hr]
    exact hkept
  | done questions table asked id named sourced =>
    have hdone := Admitted.registered (s := s) _ table (hturns asked) id named sourced
    rw [Connection.after_append] at hdone
    rw [final_of_ok hr]
    exact hdone

theorem isPlain_creation (table : String) (columns : List Column) (rows : List (List Value)) :
    ∀ s ∈ creation table columns rows, s.isPlain := by
  intro s hs
  rcases List.mem_cons.mp hs with rfl | hs
  · rfl
  · split at hs
    · cases hs
    · rw [List.mem_singleton.mp hs]
      rfl

theorem effect_creation (table : String) (columns : List Column) (rows : List (List Value)) :
    (fun tables => (creation table columns rows).foldl Statement.effect tables) = insert table := by
  funext tables
  unfold creation
  split <;> rfl

/-- A definition that can be read is turned into one transaction. If it is committed, the table is
registered. -/
theorem createTable_cases (definition : Value) (s : Session) :
    (∃ fault, TableDefinition.read definition = .error fault ∧
      createTable definition s = .error fault s) ∨
    ∃ d, TableDefinition.read definition = .ok d ∧
      ((∃ done rest failing reason rollback,
        transacted (creation d.name d.columns d.rows) = done ++ failing :: rest ∧
        createTable definition s = .error (engineError reason) { s with
          connection := s.connection.after
            (answered done ++ [⟨failing, some reason⟩, ⟨.rollback, rollback⟩]) }) ∨
      createTable definition s = registerTable d.name Table.fromDefinition { s with
        connection := s.connection.after
          (answered (transacted (creation d.name d.columns d.rows))) }) := by
  unfold createTable
  cases hd : TableDefinition.read definition with
  | error fault => exact .inl ⟨fault, rfl, rfl⟩
  | ok d =>
    have hread : ofExcept (.ok d) s = .ok d s := rfl
    have hsent := transaction_outcome (creation d.name d.columns d.rows) s.connection
    generalize hr : transaction (creation d.name d.columns d.rows) s.connection = r at hsent
    have hcreate : Work.createTable d.name d.columns d.rows s.connection = r := by
      rw [Work.createTable, if_neg (TableDefinition.columns_ne_nil hd), hr]
    refine .inr ⟨d, rfl, ?_⟩
    rw [bind_of_ok hread]
    cases hsent with
    | committed => exact .inr (bind_of_ok (engine_of_ok hcreate))
    | rolledBack done rest failing reason rollback split =>
      exact .inl ⟨done, rest, failing, reason, rollback, split,
        bind_of_error (engine_of_error hcreate)⟩

theorem createTable_outcome (definition : Value) (s : Session) :
    Created definition s (createTable definition s) := by
  rcases createTable_cases definition s with ⟨fault, hread, heq⟩ |
    ⟨d, hread, ⟨done, rest, failing, reason, rollback, split, heq⟩ | heq⟩
  · rw [heq]
    exact .refused fault hread
  · have hturns := Database.turns_rolledBack (isPlain_creation _ _ _) split reason rollback
    rw [heq]
    refine .failed d _ _ _ hread ?_ (.inl hturns) (Nat.le_refl _) (.inl ⟨reason, rfl⟩)
    exact fun x hx => (mem_of_rolledBack split hx).imp id .inl
  · have hturns := Database.turns_transacted (isPlain_creation d.name d.columns d.rows)
    rw [effect_creation] at hturns
    have hall : ∀ questions : List Exchange, (∀ x ∈ questions, x.statement.isQuestion) →
        ∀ x ∈ answered (transacted (creation d.name d.columns d.rows)) ++ questions,
          TableDefinition.Sends d x.statement := by
      intro questions hquestions x hx
      rcases List.mem_append.mp hx with hx | hx
      · obtain ⟨st, hst, rfl⟩ := List.mem_map.mp hx
        exact .inl hst
      · exact .inr (.inr (hquestions x hx))
    rw [heq]
    have hregister := registerTable_outcome d.name Table.fromDefinition
      { s with connection :=
        s.connection.after (answered (transacted (creation d.name d.columns d.rows))) }
    generalize registerTable d.name Table.fromDefinition _ = r at hregister
    cases hregister with
    | unread questions minted fault asked le blamed =>
      have hfailed := Created.failed (s := s) d _ minted fault hread (hall questions asked)
        (.inr (hturns.append (Database.turns_questions asked))) le blamed
      rwa [Connection.after_append] at hfailed
    | done questions table asked id named sourced =>
      have hmade := Created.made (s := s) d _ table hread (hall questions asked)
        (hturns.append (Database.turns_questions asked)) id named sourced
      rwa [Connection.after_append] at hmade

theorem createTable_admitted (definition : Value) (s : Session) :
    final (createTable definition) s = s ∨ ∃ d, TableDefinition.read definition = .ok d ∧
      Admitted d.name Table.fromDefinition s (final (createTable definition) s) := by
  have houtcome := createTable_outcome definition s
  generalize hr : createTable definition s = r at houtcome
  cases houtcome with
  | refused fault read => exact .inl (final_of_error hr)
  | failed d exchanges minted fault read sent turns le blamed =>
    rw [final_of_error hr]
    exact .inr ⟨d, read, .kept exchanges minted turns le⟩
  | made d exchanges table read sent turns id named sourced =>
    rw [final_of_ok hr]
    exact .inr ⟨d, read, .registered exchanges table turns id named sourced⟩

/-- A file is handed to the engine in one statement. If it is taken, the table is registered, and then
its LOAD stage is executed under a minted id. -/
theorem loadCsv_cases (file content : String) (s : Session) :
    (∃ reason, loadCsv file content s = .error (engineError reason) { s with
      connection := s.connection.after
        [⟨.importCsv (TableName.ofFile file) (.upload content), some reason⟩] }) ∨
    ∃ start, start = { s with
        connection := s.connection.after
          (answered [.importCsv (TableName.ofFile file) (.upload content)]) } ∧
      ((∃ fault t, registerTable (TableName.ofFile file) Table.fromUpload start = .error fault t ∧
        loadCsv file content s = .error fault t) ∨
      ∃ table t, registerTable (TableName.ofFile file) Table.fromUpload start = .ok table t ∧
        loadCsv file content s =
          (execute (loadStage (Stage.mintedId (t.stagesMinted + 1)) (TableName.ofFile file) file)
            none >>= fun m => pure (table, m)) { t with stagesMinted := t.stagesMinted + 1 }) := by
  have hsends : Sends (fun _ _ => False)
      (Work.importCsv (TableName.ofFile file) (.upload content))
      [.importCsv (TableName.ofFile file) (.upload content)] := Sends.run _
  have hsent := hsends s.connection
  unfold loadCsv
  generalize hr : Work.importCsv (TableName.ofFile file) (.upload content) s.connection = r
    at hsent
  cases hsent with
  | all _ =>
    refine .inr ⟨_, rfl, ?_⟩
    rw [bind_of_ok (engine_of_ok hr)]
    cases hreg : registerTable (TableName.ofFile file) Table.fromUpload { s with
        connection := s.connection.after
          (answered [.importCsv (TableName.ofFile file) (.upload content)]) } with
    | error fault t => exact .inl ⟨fault, t, rfl, bind_of_error hreg⟩
    | ok table t =>
      have hmint : mintStageId t = .ok (Stage.mintedId (t.stagesMinted + 1))
        { t with stagesMinted := t.stagesMinted + 1 } := rfl
      exact .inr ⟨table, t, rfl, by rw [bind_of_ok hreg, bind_of_ok hmint]⟩
  | failed done rest failing reason split =>
    have hdone : done = [] ∧ failing = .importCsv (TableName.ofFile file) (.upload content) := by
      cases done with
      | nil => exact ⟨rfl, ((List.cons.inj split).1).symm⟩
      | cons first more => simp at split
    obtain ⟨rfl, rfl⟩ := hdone
    exact .inl ⟨reason, bind_of_error (engine_of_error hr)⟩
  | stopped done rest fault split other => exact other.elim

theorem loadCsv_admitted (file content : String) (s : Session) :
    Admitted (TableName.ofFile file) Table.fromUpload s (final (loadCsv file content) s) ∨
      ∃ t, Admitted (TableName.ofFile file) Table.fromUpload s t ∧
        final (loadCsv file content) s =
          final (execute (loadStage (Stage.mintedId (t.stagesMinted + 1)) (TableName.ofFile file)
            file) none) { t with stagesMinted := t.stagesMinted + 1 } := by
  have hturns : Database.Turns (insert (TableName.ofFile file))
      (answered [.importCsv (TableName.ofFile file) (.upload content)]) := fun _ => rfl
  rcases loadCsv_cases file content s with ⟨reason, heq⟩ |
    ⟨_, rfl, ⟨fault, t, hreg, heq⟩ | ⟨table, t, hreg, heq⟩⟩
  · rw [final_of_error heq]
    exact .inl (.kept _ _ (.inl (Database.turns_failed rfl reason)) (Nat.le_refl _))
  · have hregister := registerTable_admitted Table.fromUpload (s := s) hturns
    rw [final_of_error hreg] at hregister
    rw [final_of_error heq]
    exact .inl hregister
  · have hregister := registerTable_admitted Table.fromUpload (s := s) hturns
    rw [final_of_ok hreg] at hregister
    refine .inr ⟨t, hregister, ?_⟩
    rw [final_congr heq, final_bind_pure]

/-! ### Deleting a table -/

theorem deleteTable_outcome (id : String) (s : Session) :
    (∃ e, deleteTable id s = .error (.pipeline e) s) ∨ ∃ table store failure,
      s.store.removeTable id = .ok (table, store) ∧ deleteTable id s = .ok table
        { s with
          store
          connection := s.connection.after [⟨.dropTable table.name, failure⟩] } := by
  unfold deleteTable
  cases hr : s.store.removeTable id with
  | error e =>
    have hrefused : changeIf (fun st => st.removeTable id) s = .error (.pipeline e) s := by
      simp only [changeIf, hr]
    exact .inl ⟨e, bind_of_error hrefused⟩
  | ok r =>
    obtain ⟨table, store⟩ := r
    have hremoved : changeIf (fun st => st.removeTable id) s = .ok table { s with store } := by
      simp only [changeIf, hr]
    obtain ⟨failure, hdrop⟩ := attempt_eq (.dropTable table.name) s.connection
    refine .inr ⟨table, store, failure, rfl, ?_⟩
    rw [bind_of_ok hremoved, bind_of_ok (engine_of_ok (s := { s with store }) hdrop)]
    rfl

theorem deleteTable_cases (id : String) (s : Session) :
    final (deleteTable id) s = s ∨ ∃ table store failure,
      s.store.removeTable id = .ok (table, store) ∧ final (deleteTable id) s =
        { s with
          store
          connection := s.connection.after [⟨.dropTable table.name, failure⟩] } := by
  rcases deleteTable_outcome id s with ⟨e, heq⟩ | ⟨table, store, failure, hr, heq⟩
  · exact .inl (final_of_error heq)
  · exact .inr ⟨table, store, failure, hr, final_of_ok heq⟩

end Action

end StagedSql
