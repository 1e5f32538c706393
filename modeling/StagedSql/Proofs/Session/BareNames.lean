import StagedSql.Proofs.Identifier
import StagedSql.Proofs.Session.CatalogueNames
import StagedSql.Proofs.Session.Sending

/-!
# Names without quotes

The name of a defined table stands without quotes in the texts that create and read the table. All that
keeps it apart from the text around it is that it was found safe: it is an identifier, with at most a line
feed behind it.
-/

namespace StagedSql

open Engine Engine.Work Outcome

namespace Engine.Statement

/-- The names of tables and views that the text of a statement holds without quotes. -/
def bareNames : Statement → List String
  | createTableAs table _ | importCsv table _ | createTable table _ | insertRows table _ _
  | dropTable table | describe table | preview table _ | countRows table => [table]
  | renameTable source target => [source, target]
  | createView view _ => [view]
  | _ => []

theorem sql_of_mem_bareNames {s : Statement} {name : String} (h : name ∈ s.bareNames) :
    ∃ before rest, s.sql = before ++ name ++ rest := by
  cases s with
  | renameTable source target =>
    rcases List.mem_cons.mp h with rfl | h
    · exact ⟨"ALTER TABLE ", _, String.append_assoc ..⟩
    · obtain rfl := List.mem_singleton.mp h
      exact ⟨_, "", String.append_empty.symm⟩
  | createTableAs table query =>
    obtain rfl := List.mem_singleton.mp h
    exact ⟨"CREATE OR REPLACE TABLE ", _, String.append_assoc ..⟩
  | importCsv table file =>
    obtain rfl := List.mem_singleton.mp h
    exact ⟨"CREATE OR REPLACE TABLE ", _, (String.append_assoc ..).trans (String.append_assoc ..)⟩
  | createTable table columns =>
    obtain rfl := List.mem_singleton.mp h
    exact ⟨"CREATE OR REPLACE TABLE ", _, (String.append_assoc ..).trans (String.append_assoc ..)⟩
  | insertRows table width rows =>
    obtain rfl := List.mem_singleton.mp h
    exact ⟨"INSERT INTO ", _, (String.append_assoc ..).trans (String.append_assoc ..)⟩
  | createView view query =>
    obtain rfl := List.mem_singleton.mp h
    exact ⟨"CREATE OR REPLACE VIEW ", _, String.append_assoc ..⟩
  | preview table limit =>
    obtain rfl := List.mem_singleton.mp h
    exact ⟨"SELECT * FROM ", _, String.append_assoc ..⟩
  | dropTable table =>
    obtain rfl := List.mem_singleton.mp h
    exact ⟨"DROP TABLE IF EXISTS ", "", String.append_empty.symm⟩
  | describe table =>
    obtain rfl := List.mem_singleton.mp h
    exact ⟨"DESCRIBE ", "", String.append_empty.symm⟩
  | countRows table =>
    obtain rfl := List.mem_singleton.mp h
    exact ⟨"SELECT COUNT(*) FROM ", "", String.append_empty.symm⟩
  | _ => cases h

end Engine.Statement

namespace Action

/-- The only name without quotes in what is sent to create a table is that of its definition. -/
theorem bareNames_of_createTable {definition : Value} {d : TableDefinition}
    (hread : TableDefinition.read definition = .ok d) (s : Session) :
    Connection.SentOnly (fun st => ∀ name ∈ st.bareNames, name = d.name) s.connection
      (final (createTable definition) s).connection := by
  have hcreation : ∀ st ∈ transacted (creation d.name d.columns d.rows), ∀ name ∈ st.bareNames,
      name = d.name := by
    intro st hst name hname
    have hall : name ∈ (transacted (creation d.name d.columns d.rows)).flatMap Statement.bareNames :=
      List.mem_flatMap.mpr ⟨st, hst, hname⟩
    by_cases hrows : d.rows = [] <;>
      simpa [transacted, creation, hrows, Statement.bareNames] using hall
  have hnone : ∀ name ∈ Statement.rollback.bareNames, name = d.name :=
    fun _ hname => absurd hname List.not_mem_nil
  have hsingle : ∀ name ∈ [d.name], name = d.name := fun _ hname => List.mem_singleton.mp hname
  have hrun : createTable definition s = (engine (Work.createTable d.name d.columns d.rows) >>= fun _ =>
      registerTable d.name Table.fromDefinition) s := by
    unfold createTable
    rw [hread]
    rfl
  rw [final_congr hrun]
  exact (keeps_engine (Engine.Work.keeps_sentOnly_createTable hcreation hnone)).bind
    (fun _ => keeps_sentOnly_registerTable hsingle (fun _ => hsingle) hsingle _) s (.refl _)

/-- Whatever the definition, every such name is safe: nothing is sent for one that cannot be read. -/
theorem safe_bareNames_of_createTable (definition : Value) (s : Session) :
    Connection.SentOnly (fun st => ∀ name ∈ st.bareNames, Identifier.isSafe name) s.connection
      (final (createTable definition) s).connection := by
  cases hread : TableDefinition.read definition with
  | error fault =>
    have hrefused : createTable definition s = .error fault s := by
      unfold createTable
      rw [hread]
      rfl
    rw [final_of_error hrefused]
    exact .refl _
  | ok d =>
    obtain ⟨exchanges, hafter, hnames⟩ := bareNames_of_createTable hread s
    refine ⟨exchanges, hafter, fun x hx name hname => ?_⟩
    rw [hnames x hx name hname]
    exact TableDefinition.isSafe_of_read hread

end Action

namespace Identifier

/-- Safe are the identifiers, with or without a line feed behind them, and nothing else. So a name is judged
by the grammar of identifiers exactly if it is none of those with a line feed. Whatever a definition
holds, only safe names of tables stand without quotes in the texts sent for it. -/
theorem isSafe_up_to_line_end (name : String) (definition : Value) (s : Session) :
    (isSafe name = true ↔ IsIdentifier name ∨ ∃ t, IsIdentifier t ∧ name = t ++ "\n") ∧
    ((isSafe name = true ↔ IsIdentifier name) ↔ ¬ ∃ t, IsIdentifier t ∧ name = t ++ "\n") ∧
    ∃ exchanges,
      (final (Action.createTable definition) s).connection = s.connection.after exchanges ∧
      ∀ x ∈ exchanges, ∀ bare ∈ x.statement.bareNames,
        (∃ before rest, x.statement.sql = before ++ bare ++ rest) ∧
        (IsIdentifier bare ∨ ∃ t, IsIdentifier t ∧ bare = t ++ "\n") := by
  refine ⟨isSafe_iff, ?_, ?_⟩
  · have hapart : (∃ t, IsIdentifier t ∧ name = t ++ "\n") → ¬ IsIdentifier name := by
      rintro ⟨t, -, rfl⟩
      exact not_isIdentifier_append_lineEnd t
    rw [isSafe_iff, or_iff_left_iff_imp]
    exact ⟨fun h hline => hapart hline (h hline), fun h hline => absurd hline h⟩
  · obtain ⟨exchanges, hafter, hsafe⟩ := Action.safe_bareNames_of_createTable definition s
    exact ⟨exchanges, hafter, fun x hx bare hbare =>
      ⟨Statement.sql_of_mem_bareNames hbare, isSafe_iff.mp (hsafe x hx bare hbare)⟩⟩

/-- A name that is not an identifier passes, and stands in what is sent. -/
theorem line_feed_passed : isSafe "orders\n" = true ∧ ¬ IsIdentifier "orders\n" ∧
    (final (Action.createTable (.object [("name", .text "orders\n"), ("columns", .list [.text "id"])]))
        (Session.silent false)).connection.log.map (·.statement.sql) =
      ["BEGIN TRANSACTION", "CREATE OR REPLACE TABLE orders\n (\"id\" VARCHAR)", "COMMIT",
        "DESCRIBE orders\n", "SELECT * FROM orders\n LIMIT 100", "SELECT COUNT(*) FROM orders\n"] := by
  refine ⟨by decide, by decide, ?_⟩
  decide +kernel

end Identifier

end StagedSql
