import StagedSql.Proofs.Engine.Sending
import StagedSql.Proofs.Session.Materialize
import StagedSql.Session.Source

/-!
# What a session sends

A property of the statements that are planned for a stage holds of all that is sent for it, if it holds of
rollbacks and of the removal of tables. So it is with the statements that create a table and read it.
-/

namespace StagedSql

open Engine Engine.Work Outcome

variable {P : Statement → Prop} {start : Connection}

/-! ### Stages -/

namespace Materialization

variable {stage : Stage} {table sql : String} {previewRows : Int}

theorem keeps_sentOnly_run (hplanned : ∀ s ∈ planned stage table sql previewRows, P s)
    (hrollback : P .rollback) (hdrop : P (.dropTable (TableName.staging table))) :
    Keeps (Connection.SentOnly P start) (run stage table sql previewRows) := by
  rw [planned_eq, List.forall_mem_append] at hplanned
  refine Keeps.tryCatch ?_ fun fault => ?_
  · rw [build_eq]
    exact ((sends_readOutput _ _ _).keeps_sentOnly hplanned.1).bind fun _ =>
      (keeps_sentOnly_transaction hplanned.2 hrollback).bind fun _ => .pure _
  · split
    · exact (keeps_sentOnly_attempt hdrop).bind fun _ => .throw _
    · exact .throw _

theorem sentOnly_execute {s : Session} {active : Option String}
    (hplanned : ∀ sql, ∀ st ∈ planned stage (outputName s stage) sql s.previewRows, P st)
    (hrollback : P .rollback) (hdrop : ∀ table, P (.dropTable table)) :
    Connection.SentOnly P s.connection (final (Action.execute stage active) s).connection := by
  have hstart := Connection.SentOnly.refl (P := P) s.connection
  have houtcome := execute_outcome stage active s
  generalize hr : Action.execute stage active s = r at houtcome
  cases houtcome with
  | refused e refusal =>
    rw [final_of_error hr]
    exact hstart
  | loaded table kind found =>
    rw [final_of_ok hr]
    exact hstart
  | broken sql input fault c kind planned ran =>
    have hran := keeps_sentOnly_run (hplanned sql) hrollback (hdrop _) s.connection hstart
    rw [final_of_error ran] at hran
    rw [final_of_error hr]
    exact hran
  | built sql input output failure kind planned =>
    rw [final_of_ok hr]
    refine hstart.after (List.forall_mem_append.mpr
      ⟨forall_answered (hplanned sql), fun x hx => ?_⟩)
    obtain ⟨name, -, rfl⟩ := List.mem_map.mp hx
    exact hdrop name

end Materialization

/-! ### Tables -/

theorem Engine.Work.keeps_sentOnly_createTable {table : String} {columns : List Column}
    {rows : List (List Value)} (hsent : ∀ st ∈ transacted (creation table columns rows), P st)
    (hrollback : P .rollback) : Keeps (Connection.SentOnly P start) (Work.createTable table columns rows) := by
  unfold Work.createTable
  split
  · exact .throw _
  · exact keeps_sentOnly_transaction hsent hrollback

namespace Action

theorem keeps_sentOnly_registerTable {name : String} (hdescribe : P (.describe name))
    (hpreview : ∀ limit, P (.preview name limit)) (hcount : P (.countRows name)) (source : String) :
    Keeps (fun s : Session => Connection.SentOnly P start s.connection) (registerTable name source) := by
  have hask : ∀ {α : Type} {work : Work α} {question : Statement}, Sends Misread work [question] →
      P question → Keeps (fun s : Session => Connection.SentOnly P start s.connection) (engine work) :=
    fun hwork hquestion => keeps_engine (hwork.keeps_sentOnly (List.forall_mem_singleton.mpr hquestion))
  exact (hask (Sends.describe name) hdescribe).bind fun _ =>
    Keeps.bind (fun _ hs => hs) fun s => (hask (Sends.query _) (hpreview s.previewRows)).bind fun _ =>
      Keeps.bind (fun _ hs => hs) fun _ => (hask (Sends.countRows name) hcount).bind fun _ =>
        fun _ hs => hs

end Action

end StagedSql
