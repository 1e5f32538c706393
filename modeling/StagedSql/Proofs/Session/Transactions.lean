import StagedSql.Proofs.Session.AllOrNothing
import StagedSql.Proofs.Session.FlowRun
import StagedSql.Proofs.Session.Source

/-!
# Transactions are closed

What a session sends falls into single statements and transactions. A transaction has ended before
anything else is sent, and after a rollback the work that began it has failed.
-/

namespace StagedSql

open Outcome Engine Engine.Work

namespace Engine

/-! ### Statements by their texts -/

namespace Statement

def brackets : List String := ["BEGIN TRANSACTION", "COMMIT", "ROLLBACK"]

def IsSingle (s : Statement) : Prop := s.sql ∉ brackets

def openings : List String :=
  ["CREATE OR REPLACE TABLE ", "CREATE OR REPLACE VIEW ", "INSERT INTO ", "DROP TABLE IF EXISTS ",
    "ALTER TABLE ", "DESCRIBE ", "SELECT ", "<close>"]

def Opens (text : String) : Prop := ∃ verb ∈ openings, verb.toList <+: text.toList

theorem Opens.append {text : String} (h : Opens text) (rest : String) : Opens (text ++ rest) := by
  obtain ⟨verb, hverb, hbegins⟩ := h
  refine ⟨verb, hverb, hbegins.trans ?_⟩
  rw [String.toList_append]
  exact List.prefix_append ..

theorem opens_literal {text : String}
    (h : openings.any fun verb => verb.toList.isPrefixOf text.toList) : Opens text := by
  obtain ⟨verb, hverb, hbegins⟩ := List.any_eq_true.mp h
  exact ⟨verb, hverb, List.isPrefixOf_iff_prefix.mp hbegins⟩

/-- No name of a table and no query gives a statement the text of a bracket. -/
theorem isSingle_of_opens {s : Statement} (h : Opens s.sql) : s.IsSingle := by
  have hapart : ∀ text ∈ brackets, ∀ verb ∈ openings,
      ¬ verb.toList.isPrefixOf text.toList := by
    decide
  obtain ⟨verb, hverb, hbegins⟩ := h
  exact fun hmem => hapart _ hmem verb hverb (List.isPrefixOf_iff_prefix.mpr hbegins)

theorem isSingle_of_isPlain {s : Statement} (hplain : s.isPlain) (hraw : ∀ sql, s ≠ .raw sql) :
    s.IsSingle := by
  have hcreate : Opens "CREATE OR REPLACE TABLE " := opens_literal (by decide)
  refine isSingle_of_opens ?_
  cases s with
  | createTableAs table query => exact ((hcreate.append table).append " AS ").append query
  | importCsv table file => exact (((hcreate.append table).append _).append _).append _
  | createTable table columns => exact (((hcreate.append table).append " (").append _).append ")"
  | insertRows table width rows =>
    exact ((((opens_literal (by decide)).append table).append " VALUES (").append _).append ")"
  | dropTable table => exact (opens_literal (by decide)).append table
  | renameTable source target =>
    exact (((opens_literal (by decide)).append source).append " RENAME TO ").append target
  | createView view query =>
    exact (((opens_literal (by decide)).append view).append " AS ").append query
  | describe table => exact (opens_literal (by decide)).append table
  | preview table limit =>
    exact (((opens_literal (by decide)).append table).append " LIMIT ").append _
  | countRows table => exact (opens_literal (by decide)).append table
  | findTable name =>
    have hfind : Opens "SELECT COUNT(*) FROM information_schema.tables WHERE table_name = ?" :=
      opens_literal (by decide)
    exact hfind
  | raw sql => exact absurd rfl (hraw sql)
  | beginTransaction => cases hplain
  | commit => cases hplain
  | rollback => cases hplain
  | close => exact opens_literal (by decide)

end Statement

/-! ### Exchanges in blocks -/

/-- The exchanges of one transaction, with the reason if it failed. Either all of it succeeded, up to
the commit, or the first failure is followed by one rollback, whatever the reply to that is. -/
inductive Block : List Exchange → Option String → Prop
  | committed (body : List Statement) (inside : ∀ s ∈ body, s.IsSingle) :
      Block (answered (transacted body)) none
  | rolledBack (body done rest : List Statement) (failing : Statement) (reason : String)
      (rollback : Option String) (inside : ∀ s ∈ body, s.IsSingle)
      (split : transacted body = done ++ failing :: rest) :
      Block (answered done ++ [⟨failing, some reason⟩, ⟨.rollback, rollback⟩]) (some reason)

inductive Transaction where
  | createTable (table : String) (columns : List Column) (rows : List (List Value))
  | promote (staging table : String) (views : List (String × String))
  deriving Repr

def Transaction.work : Transaction → Work Unit
  | createTable table columns rows => Work.createTable table columns rows
  | promote staging table views => Work.promote staging table views

def ending (failure : Option String) (c : Connection) : EStateM.Result Fault Connection Unit :=
  match failure with
  | none => .ok () c
  | some reason => .error (engineError reason) c

namespace Connection

def send (c : Connection) (s : Statement) : Connection :=
  c.record s (match c.reply s with
    | .ok _ => none
    | .error text => some text)

/-- Connections over which single statements and whole transactions were sent. The work that sent a
transaction has failed if the transaction was rolled back, and has returned otherwise. -/
inductive Bracketed (responder : Responder) : Connection → Prop
  | opened : Bracketed responder (.opened responder)
  | single {c : Connection} {s : Statement} (h : Bracketed responder c) (single : s.IsSingle) :
      Bracketed responder (c.send s)
  | block {c : Connection} {exchanges : List Exchange} {failure : Option String}
      (h : Bracketed responder c) (transaction : Transaction) (block : Block exchanges failure)
      (ended : transaction.work c = ending failure (c.after exchanges)) :
      Bracketed responder (c.after exchanges)

end Connection

namespace Work

variable {α : Type} {responder : Responder}

open Connection

/-! ### Single statements -/

section

variable {s : Statement}

theorem final_ask (fault : String → Fault) (s : Statement) (c : Connection) :
    final (ask fault s) c = c.send s := by
  unfold final ask send
  cases c.reply s <;> simp only

theorem final_run (s : Statement) (c : Connection) : final (run s) c = c.send s :=
  (final_bind_pure (ask engineError s) (fun _ => ()) c).trans (final_ask engineError s c)

theorem final_attempt (s : Statement) (c : Connection) : final (attempt s) c = c.send s := by
  unfold final attempt send
  cases c.reply s <;> simp only

theorem final_reading (read : Reply → Except Fault α) (s : Statement) (c : Connection) :
    final (reading read s) c = c.send s := by
  have hask := final_ask engineError s c
  unfold reading
  cases hr : ask engineError s c with
  | error fault t =>
    rw [final_of_error hr] at hask
    rw [final_bind_of_error hr, hask]
  | ok reply t =>
    rw [final_of_ok hr] at hask
    rw [final_bind_of_ok hr, hask]
    cases read reply <;> rfl

theorem keeps_of_final {work : Work α} (hwork : ∀ c, final work c = c.send s) (hplain : s.isPlain)
    (hraw : ∀ sql, s ≠ .raw sql) : Keeps (Bracketed responder) work := by
  intro c hc
  rw [hwork c]
  exact hc.single (Statement.isSingle_of_isPlain hplain hraw)

end

theorem keeps_createTableAs (table query : String) :
    Keeps (Bracketed responder) (createTableAs table query) :=
  keeps_of_final (final_run _) rfl (by simp)

theorem keeps_importCsv (table : String) (file : CsvFile) :
    Keeps (Bracketed responder) (importCsv table file) :=
  keeps_of_final (final_run _) rfl (by simp)

theorem keeps_dropTable (table : String) :
    Keeps (Bracketed responder) (attempt (.dropTable table)) :=
  keeps_of_final (final_attempt _) rfl (by simp)

theorem keeps_describe (table : String) : Keeps (Bracketed responder) (describe table) :=
  keeps_of_final (final_reading _ _) rfl (by simp)

theorem keeps_preview (table : String) (limit : Int) :
    Keeps (Bracketed responder) (query (.preview table limit)) :=
  keeps_of_final (final_reading _ _) rfl (by simp)

theorem keeps_countRows (table : String) : Keeps (Bracketed responder) (countRows table) :=
  keeps_of_final (final_reading _ _) rfl (by simp)

/-! ### Transactions -/

/-- A transaction sends one block, and fails exactly if that is rolled back. -/
theorem exists_block {body : List Statement} (inside : ∀ s ∈ body, s.IsSingle) (c : Connection) :
    ∃ exchanges failure, Block exchanges failure ∧
      Work.transaction body c = ending failure (c.after exchanges) := by
  have hsent := transaction_outcome body c
  generalize Work.transaction body c = r at hsent
  cases hsent with
  | committed => exact ⟨_, none, .committed body inside, rfl⟩
  | rolledBack done rest failing reason rollback split =>
    exact ⟨_, some reason, .rolledBack body done rest failing reason rollback inside split, rfl⟩

theorem final_of_ending {work : Work Unit} {c t : Connection} {failure : Option String}
    (h : work c = ending failure t) : final work c = t := by
  cases failure with
  | none => exact final_of_ok h
  | some reason => exact final_of_error h

theorem keeps_transaction (transaction : Transaction) {body : List Statement}
    (hwork : transaction.work = Work.transaction body) (inside : ∀ s ∈ body, s.IsSingle) :
    Keeps (Bracketed responder) transaction.work := by
  intro c hc
  obtain ⟨exchanges, failure, hblock, hended⟩ := exists_block inside c
  rw [← hwork] at hended
  rw [final_of_ending hended]
  exact hc.block transaction hblock hended

theorem keeps_promote (staging table : String) (views : List (String × String)) :
    Keeps (Bracketed responder) (promote staging table views) := by
  refine keeps_transaction (.promote staging table views) rfl fun s hs =>
    Statement.isSingle_of_isPlain (Materialization.isPlain_promotion _ _ _ s hs) ?_
  rintro sql rfl
  simp [promotion] at hs

theorem keeps_createTable (table : String) (columns : List Column) (rows : List (List Value)) :
    Keeps (Bracketed responder) (createTable table columns rows) := by
  by_cases hcolumns : columns = []
  · rw [createTable, if_pos hcolumns]
    exact .throw _
  · refine keeps_transaction (.createTable table columns rows) (if_neg hcolumns) fun s hs =>
      Statement.isSingle_of_isPlain (Action.isPlain_creation _ _ _ s hs) ?_
    rintro sql rfl
    unfold creation at hs
    split at hs <;> simp at hs

end Work

end Engine

def Session.Bracketed (responder : Responder) (s : Session) : Prop := s.connection.Bracketed responder

/-! ### Actions -/

section

variable {α : Type} {responder : Responder}

namespace Action

theorem keeps_ofPipeline (x : Except PipelineError α) :
    Keeps (Session.Bracketed responder) (ofPipeline x) := by
  cases x with
  | ok a => exact .pure a
  | error e => exact .throw _

theorem keeps_ofExcept (x : Except Fault α) : Keeps (Session.Bracketed responder) (ofExcept x) := by
  cases x with
  | ok a => exact .pure a
  | error e => exact .throw _

theorem keeps_get : Keeps (Session.Bracketed responder) (get : Action Session) := fun _ hs => hs

theorem keeps_store : Keeps (Session.Bracketed responder) store := fun _ hs => hs

theorem keeps_change (f : Store → α × Store) : Keeps (Session.Bracketed responder) (change f) :=
  fun _ hs => hs

theorem keeps_mintStageId : Keeps (Session.Bracketed responder) mintStageId := fun _ hs => hs

theorem keeps_mintTableId : Keeps (Session.Bracketed responder) mintTableId := fun _ hs => hs

end Action

namespace Materialization

theorem keeps_build (stage : Stage) (table sql : String) (previewRows : Int) :
    Keeps (Connection.Bracketed responder) (build stage table sql previewRows) :=
  (keeps_createTableAs _ _).bind fun _ => (keeps_describe _).bind fun _ =>
    (keeps_preview _ _).bind fun _ => (keeps_countRows _).bind fun _ =>
      (keeps_promote _ _ _).bind fun _ => .pure _

theorem keeps_run (stage : Stage) (table sql : String) (previewRows : Int) :
    Keeps (Connection.Bracketed responder) (run stage table sql previewRows) := by
  refine (keeps_build stage table sql previewRows).tryCatch fun fault => ?_
  split
  · exact (keeps_dropTable _).bind fun _ => .throw _
  · exact .throw _

theorem keeps_recordUnder (store : Store) (stage : Stage) (position : Nat) (result : Table) :
    Keeps (Session.Bracketed responder) (recordUnder store stage position result) := by
  refine (Action.keeps_change _).bind fun remapped => ?_
  split
  · refine Action.keeps_store.bind fun later => ?_
    split
    · exact (Action.keeps_engine (keeps_dropTable _)).bind fun _ => .pure _
    · exact .pure _
  · exact .pure _

theorem keeps_recordOutput (stage : Stage) (position : Nat) (table : String) (output : Output) :
    Keeps (Session.Bracketed responder) (recordOutput stage position table output) := by
  intro s hs
  rw [final_congr (recordOutput_eq_recordUnder s stage position table output)]
  exact keeps_recordUnder _ stage position _ _ hs

theorem keeps_recordLoad (stage : Stage) : Keeps (Session.Bracketed responder) (recordLoad stage) :=
  Action.keeps_store.bind fun _ => (Action.keeps_ofPipeline _).bind fun _ =>
    (Action.keeps_change _).bind fun _ => .pure _

end Materialization

namespace Action

open Materialization

theorem keeps_execute (stage : Stage) (active : Option String) :
    Keeps (Session.Bracketed responder) (execute stage active) := by
  refine (keeps_ofPipeline _).bind fun _ => ?_
  split
  · exact keeps_recordLoad stage
  · exact keeps_get.bind fun s => (keeps_ofPipeline _).bind fun planned =>
      (keeps_engine (keeps_run _ _ _ _)).bind fun output =>
        (keeps_recordOutput _ _ _ _).bind fun _ => .pure _

theorem keeps_registerTable (name source : String) :
    Keeps (Session.Bracketed responder) (registerTable name source) :=
  (keeps_engine (keeps_describe name)).bind fun _ => keeps_get.bind fun s =>
    (keeps_engine (keeps_preview name s.previewRows)).bind fun _ => keeps_mintTableId.bind fun _ =>
      (keeps_engine (keeps_countRows name)).bind fun _ => keeps_change _

theorem keeps_loadCsv (file content : String) :
    Keeps (Session.Bracketed responder) (loadCsv file content) :=
  (keeps_engine (keeps_importCsv _ _)).bind fun _ => (keeps_registerTable _ _).bind fun _ =>
    keeps_mintStageId.bind fun _ => (keeps_execute _ none).bind fun _ => .pure _

theorem keeps_createTable (definition : Value) :
    Keeps (Session.Bracketed responder) (createTable definition) :=
  (keeps_ofExcept _).bind fun d => (keeps_engine (Work.keeps_createTable d.name d.columns d.rows)).bind
    fun _ => keeps_registerTable d.name _

theorem keeps_changeIf (f : Store → Except PipelineError (α × Store)) :
    Keeps (Session.Bracketed responder) (changeIf f) := by
  intro s hs
  rcases final_changeIf f s with heq | ⟨a, store, -, heq⟩ <;> rw [heq] <;> exact hs

theorem keeps_deleteTable (id : String) : Keeps (Session.Bracketed responder) (deleteTable id) :=
  (keeps_changeIf _).bind fun table => (keeps_engine (keeps_dropTable table.name)).bind fun _ =>
    .pure table

theorem keeps_importFlow (mode : ImportMode) (keepIds : Bool) (candidates : List Value) :
    Keeps (Session.Bracketed responder) (importFlow mode keepIds candidates) := by
  intro s hs
  have hadd : ∀ stage : Stage, ∀ t : Session, t.Bracketed responder →
      (final (addStage stage none) t).Bracketed responder := fun stage t ht =>
    addStage_rule (fun _ _ hu => hu) keeps_execute stage none ht
  rcases importFlow_rule (fun _ _ ht => ht) mode keepIds candidates hs (fun _ ht => ht)
      (fun stage _ => hadd stage) with h | ⟨t, ht, heq⟩
  · exact h
  · rw [heq]
    exact ht

end Action

theorem Session.Bracketed.after {s : Session} (h : s.Bracketed responder) (op : Operation) :
    (op.after s).Bracketed responder :=
  Operation.after_rule (fun _ _ hs => hs) Action.keeps_loadCsv
    (fun definition _ => Action.keeps_createTable definition) Action.keeps_deleteTable
    (fun _ _ _ _ _ hs => hs) (fun _ _ _ _ _ hs => hs) Action.keeps_execute Action.keeps_importFlow h

end

namespace Session

/-- However the engine replies, a session sends single statements and whole transactions only. A
transaction that was rolled back has failed the work that began it. -/
theorem transactions_closed (responder : Responder) (previewRows : Int) (chatEnabled : Bool)
    (ops : List Operation) :
    ((opened responder previewRows chatEnabled).afterAll ops).connection.Bracketed responder :=
  afterAll_rule (I := Session.Bracketed responder) (fun op _ _ hs => hs.after op) .opened

end Session

end StagedSql
