import StagedSql.Proofs.Graph.JoinInputs
import StagedSql.Proofs.Session.Operation
import StagedSql.Proofs.Session.Sending

/-!
# Joins under the names of their tables

The name made of the tables of a join is what later stages and the view on its output share. A stage
that is executed creates no view but the one on its own output, under this name. So a join is mistaken
for another one only if the tables of both are cut from one text.
-/

namespace StagedSql

open Engine Engine.Work Outcome

namespace Materialization

theorem view_of_planned {stage : Stage} {table sql view query : String} {previewRows : Int}
    (h : .createView view query ∈ planned stage table sql previewRows) :
    stage.kind = .join ∧ query = "SELECT * FROM " ++ table ∧
      view = TableName.joined (stage.entry "leftTable").display (stage.entry "rightTable").display := by
  by_cases hkind : stage.kind = .join
  · simp [planned, hkind] at h
    exact ⟨hkind, h.2, h.1⟩
  · simp [planned, hkind] at h

/-- Executing a stage creates no view, unless the stage is a join: then it is the view on its output that
has the name made of its tables. -/
theorem views_of_execute (stage : Stage) (active : Option String) (s : Session) :
    Connection.SentOnly (fun st => ∀ view query, st = .createView view query →
      stage.kind = .join ∧ query = "SELECT * FROM " ++ outputName s stage ∧
        view = TableName.joined (stage.entry "leftTable").display (stage.entry "rightTable").display)
      s.connection (final (Action.execute stage active) s).connection := by
  refine sentOnly_execute (fun sql st hst view query heq => ?_) nofun nofun
  rw [heq] at hst
  exact view_of_planned hst

end Materialization

namespace TableName

open Identifier

/-- Joins have the same name exactly if the names of their tables are cut from one text. A stage that
refers to the name of a join has the join as an input, if no stage in between takes the name and no
later one the id of the stage. Executing a stage creates no view that stands for the name, unless it is
a join whose tables, as the engine reads their names, are cut from the same text. -/
theorem joins_apart_unless_cut_alike (a b : String) :
    (∀ c d, joined a b = joined c d ↔ CutAlike a b c d) ∧
    (∀ (stages : List Stage) (nodes : Keyed Graph.Node) (j k : Nat) (join stage : Stage)
      (names : List String), Graph.build stages = .ok nodes → j < k → stages[j]? = some join →
      join.JoinsOver a b → stages[k]? = some stage → stage.referencedTables = .ok names →
      joined a b ∈ names → stage.id ∉ (stages.drop (k + 1)).map (·.id) →
      (∀ (i : Nat) (other : Stage), j < i → i < k → stages[i]? = some other →
        ¬ other.TakesJoinName a b) →
      ∃ node, nodes.lookup? stage.id = some node ∧ node.stage = stage ∧ join.id ∈ node.inputs) ∧
    ∀ (stage : Stage) (active : Option String) (s : Session), ∃ exchanges,
      (final (Action.execute stage active) s).connection = s.connection.after exchanges ∧
      ∀ x ∈ exchanges, ∀ view query, x.statement = .createView view query →
        stage.kind = .join ∧ query = "SELECT * FROM " ++ Materialization.outputName s stage ∧
        view = joined (stage.entry "leftTable").display (stage.entry "rightTable").display ∧
        (SameTable (joined a b) view ↔
          CutAlike (lowered a) (denoted b) (lowered (stage.entry "leftTable").display)
            (denoted (stage.entry "rightTable").display)) := by
  refine ⟨fun c d => joined_eq_iff, ?_, ?_⟩
  · intro stages nodes j k join stage names hbuild hjk hj hjoin hk hnames hname hlast hbetween
    obtain ⟨node, hnode, hresolves⟩ := Graph.resolves_of_build hbuild hk hlast
    exact ⟨node, hnode, hresolves.stage_eq,
      Graph.join_mem_inputs hresolves hnames hname hjk hj hjoin hbetween⟩
  · intro stage active s
    obtain ⟨exchanges, hafter, hviews⟩ := Materialization.views_of_execute stage active s
    refine ⟨exchanges, hafter, fun x hx view query heq => ?_⟩
    obtain ⟨hkind, hquery, hview⟩ := hviews x hx view query heq
    exact ⟨hkind, hquery, hview, by rw [hview, sameTable_joined_iff]⟩

/-! ### Two joins -/

def joinStage (id left right : String) : Stage :=
  ⟨id, .join, "", [("leftTable", .text left), ("rightTable", .text right), ("leftKey", .text "id"),
    ("rightKey", .text "id")]⟩

def filterJoined (id a b : String) : Stage :=
  ⟨id, .filter, "", [("table", .text (joined a b)), ("column", .text "id"), ("operator", .text "="),
    ("value", .int 1)]⟩

def inputsAt? (stages : List Stage) (id : String) : Option (List String) :=
  ((Graph.build stages).toOption.bind (·.lookup? id)).map (·.inputs)

def joinedOnce (a b : String) : Session :=
  (Session.silent false).afterAll [.addStage (joinStage "first" a b) none]

theorem orders_items_apart : joined "orders" "items" ≠ joined "orders" "items_old" ∧
    (∃ nodes node, Graph.build [joinStage "first" "orders" "items",
        joinStage "second" "orders" "items_old", filterJoined "third" "orders" "items"] = .ok nodes ∧
      nodes.lookup? "third" = some node ∧ "first" ∈ node.inputs) ∧
    ∃ exchanges,
      (final (Action.execute (joinStage "second" "orders" "items_old") none)
        (joinedOnce "orders" "items")).connection =
          (joinedOnce "orders" "items").connection.after exchanges ∧
      ⟨.createView "joined_orders_items_old" "SELECT * FROM result_stage_1_join", none⟩ ∈ exchanges ∧
      ∀ x ∈ exchanges, ∀ view query, x.statement = .createView view query →
        ¬ SameTable (joined "orders" "items") view := by
  obtain ⟨hnames, hinputs, hviews⟩ := joins_apart_unless_cut_alike "orders" "items"
  refine ⟨fun h => absurd ((hnames _ _).mp h) (by decide), ?_, ?_⟩
  · have hbuilt : (Graph.build [joinStage "first" "orders" "items",
        joinStage "second" "orders" "items_old",
        filterJoined "third" "orders" "items"]).toOption.isSome := by
      decide +kernel
    obtain ⟨nodes, hnodes⟩ := Option.isSome_iff_exists.mp hbuilt
    have hbuild := ok_of_toOption hnodes
    -- The only stage in between joins other tables.
    have hbetween : ¬ (joinStage "second" "orders" "items_old").TakesJoinName "orders" "items" := by
      rintro (⟨hload, -⟩ | ⟨c, d, ⟨-, -, -, rfl, rfl⟩, hcut⟩)
      · cases hload
      · revert hcut
        decide
    obtain ⟨node, hnode, -, hmem⟩ := hinputs _ nodes 0 2 _ _ _ hbuild (by decide) rfl
      ⟨rfl, by decide, by decide, by decide, by decide⟩ rfl rfl (by decide) (by decide)
      fun i other hfirst hthird hi => by
        obtain rfl : i = 1 := by omega
        exact Option.some.inj hi ▸ hbetween
    exact ⟨nodes, node, hbuild, hnode, hmem⟩
  · obtain ⟨exchanges, hafter, hviews⟩ := hviews (joinStage "second" "orders" "items_old") none
      (joinedOnce "orders" "items")
    have hexchanges : exchanges =
        (final (Action.execute (joinStage "second" "orders" "items_old") none)
          (joinedOnce "orders" "items")).connection.log.drop
            (joinedOnce "orders" "items").connection.log.length := by
      rw [hafter, Connection.after, List.drop_left]
    refine ⟨exchanges, hafter, ?_, fun x hx view query heq => ?_⟩
    · rw [hexchanges]
      decide +kernel
    · obtain ⟨-, -, -, hsame⟩ := hviews x hx view query heq
      rw [hsame]
      decide

/-- The join of `a` with `b_c` takes the name and the view of the one of `a_b` with `c`. A LOAD stage takes
the name of a join as well, and a stage loses its node to a later one of its id. -/
theorem name_of_join_taken :
    (∀ name ∈ ["a_b", "c", "a", "b_c"], isSafe name) ∧
    joined "a_b" "c" = joined "a" "b_c" ∧ ¬ ("a_b" = "a" ∧ "c" = "b_c") ∧
    inputsAt? [joinStage "first" "a_b" "c", joinStage "second" "a" "b_c",
      filterJoined "third" "a_b" "c"] "third" = some ["second"] ∧
    ((final (Action.execute (joinStage "second" "a" "b_c") none)
        (joinedOnce "a_b" "c")).connection.log.filter fun x =>
          x.statement.sql.startsWith "CREATE OR REPLACE VIEW") =
      [⟨.createView "joined_a_b_c" "SELECT * FROM result_stage_0_join", none⟩,
        ⟨.createView "joined_a_b_c" "SELECT * FROM result_stage_1_join", none⟩] ∧
    inputsAt? [joinStage "first" "a" "b", ⟨"second", .load, "", [("tableName", .text "joined_a_b")]⟩,
      filterJoined "third" "a" "b"] "third" = some ["second"] ∧
    inputsAt? [joinStage "first" "a" "b", filterJoined "third" "a" "b",
      ⟨"third", .sort, "", []⟩] "third" = some [] := by
  refine ⟨by decide, by decide, by decide, ?_, ?_, ?_, ?_⟩ <;> decide +kernel

end TableName

end StagedSql
