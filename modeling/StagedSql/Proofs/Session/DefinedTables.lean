import StagedSql.Proofs.Engine.ColumnList
import StagedSql.Proofs.Session.CatalogueNames

/-!
# Tables as they are defined

A table that is created from a definition gets the columns of the definition, as long as no column name
holds a double quote, and the values of every row in the order of the columns.
-/

namespace StagedSql

open Engine Engine.Work Outcome

namespace TableDefinition

/-- What an entry of the columns says: a name alone, or a name with or without a type. -/
inductive ColumnOf : Value → Column → Prop
  | bare (name : String) : ColumnOf (.text name) ⟨name, usualType⟩
  | untyped {fields : Fields} {name : String} (named : Value.field fields "name" = .text name)
      (none : (Value.field fields "type").isGiven = false) :
      ColumnOf (.object fields) ⟨name, usualType⟩
  | typed {fields : Fields} {name : String} (named : Value.field fields "name" = .text name)
      (given : (Value.field fields "type").isGiven = true) :
      ColumnOf (.object fields) ⟨name, Text.upper (Value.field fields "type").display⟩

/-- What an entry of the rows says: the cells in order, or each of them under the name of its column. -/
inductive RowOf (columns : List Column) : Value → List Value → Prop
  | cells (cells : List Value) (length : cells.length = columns.length) :
      RowOf columns (.list cells) cells
  | entries (fields : Fields) :
      RowOf columns (.object fields) (columns.map fun c => Value.field fields c.name)

theorem RowOf.length_eq {columns : List Column} {v : Value} {row : List Value}
    (h : RowOf columns v row) : row.length = columns.length := by
  cases h with
  | cells cells length => exact length
  | entries fields => exact List.length_map _

structure ReadsFrom (d : TableDefinition) (fields : Fields) : Prop where
  columns : ∃ items, readElements fields "columns" = .ok items ∧
    List.Forall₂ ColumnOf items d.columns
  rows : ∃ items, readElements fields "rows" = .ok items ∧
    List.Forall₂ (RowOf d.columns) items d.rows

theorem columnOf_of_readColumn {v : Value} {c : Column} (h : readColumn v = .ok c) :
    ColumnOf v c := by
  cases v with
  | text name =>
    obtain rfl := Except.ok.inj h
    exact .bare name
  | object fields =>
    cases hname : Value.field fields "name" with
    | text name =>
      have hupper : Text.upper usualType = usualType := by decide +kernel
      simp only [readColumn, hname] at h
      obtain rfl := Except.ok.inj h
      cases hgiven : (Value.field fields "type").isGiven with
      | false =>
        rw [if_neg Bool.false_ne_true, hupper]
        exact .untyped hname hgiven
      | true => exact .typed hname hgiven
    | _ =>
      simp only [readColumn, hname] at h
      cases h
  | _ => cases h

theorem rowOf_of_readRow {columns : List Column} {v : Value} {row : List Value}
    (h : readRow (columns.map (·.name)) v = .ok row) : RowOf columns v row := by
  unfold readRow at h
  split at h
  · next fields =>
    obtain rfl := Except.ok.inj h
    rw [List.map_map]
    exact .entries fields
  · next cells =>
    split at h
    · next hlength =>
      obtain rfl := Except.ok.inj h
      exact .cells _ (hlength.trans (List.length_map _))
    · cases h
  · cases h

theorem readsFrom_of_read {definition : Value} {d : TableDefinition}
    (h : read definition = .ok d) : ∃ fields, definition = .object fields ∧ d.ReadsFrom fields := by
  obtain ⟨fields, rfl, -, hcolumns, items, hitems, hrows⟩ := parts_of_read h
  obtain ⟨-, entries, hentries, hread⟩ := mapM_of_readColumns hcolumns
  refine ⟨fields, rfl, ⟨entries, hentries, ?_⟩, ⟨items, hitems, ?_⟩⟩
  · exact (forall₂_of_mapM_ok hread).imp fun _ _ => columnOf_of_readColumn
  · exact (forall₂_of_mapM_ok hrows).imp fun _ _ => rowOf_of_readRow

theorem length_of_mem_rows {definition : Value} {d : TableDefinition}
    (h : read definition = .ok d) {row : List Value} (hrow : row ∈ d.rows) :
    row.length = d.columns.length := by
  obtain ⟨fields, -, -, -, items, -, hrows⟩ := parts_of_read h
  obtain ⟨v, -, hv⟩ := exists_mem_of_mapM_ok hrows hrow
  exact (rowOf_of_readRow hv).length_eq

end TableDefinition

theorem Action.sent_of_createTable {definition : Value} {d : TableDefinition} {s t : Session}
    {table : Table} (hread : TableDefinition.read definition = .ok d)
    (h : createTable definition s = .ok table t) :
    ∃ questions, (∀ x ∈ questions, x.statement.isQuestion) ∧ t.connection = s.connection.after
      (answered (transacted (creation d.name d.columns d.rows)) ++ questions) := by
  rcases createTable_cases definition s with ⟨fault, -, heq⟩ |
    ⟨d', hread', ⟨done, rest, failing, reason, rollback, -, heq⟩ | heq⟩
  · cases h.symm.trans heq
  · cases h.symm.trans heq
  · obtain rfl := Except.ok.inj (hread.symm.trans hread')
    have houtcome := registerTable_outcome d.name Table.fromDefinition { s with
      connection := s.connection.after (answered (transacted (creation d.name d.columns d.rows))) }
    rw [← heq, h] at houtcome
    cases houtcome with
    | done questions table asked id named sourced =>
      exact ⟨questions, asked, (Connection.after_append ..).symm⟩

/-- Whatever comes of it, the creation of a table sends nothing but the statements of its definition,
a rollback and questions. -/
theorem Action.sends_of_createTable {definition : Value} {d : TableDefinition} (s : Session)
    (hread : TableDefinition.read definition = .ok d) :
    ∃ exchanges, (final (createTable definition) s).connection = s.connection.after exchanges ∧
      ∀ x ∈ exchanges, d.Sends x.statement := by
  have houtcome := createTable_outcome definition s
  generalize hr : createTable definition s = r at houtcome
  cases houtcome with
  | refused fault read => cases hread.symm.trans read
  | failed d' exchanges minted fault read sent turns le blamed =>
    obtain rfl := Except.ok.inj (hread.symm.trans read)
    rw [final_of_error hr]
    exact ⟨exchanges, rfl, sent⟩
  | made d' exchanges table read sent turns id named sourced =>
    obtain rfl := Except.ok.inj (hread.symm.trans read)
    rw [final_of_ok hr]
    exact ⟨exchanges, rfl, sent⟩

namespace TableDefinition

/-- The statement that creates a table declares the columns of the definition exactly if none of their
names holds a double quote. The rows have a value for each column and each placeholder, in the order of
the columns. Every call sends these statements, all of them if it succeeds. -/
theorem columns_declared_iff {definition : Value} {d : TableDefinition}
    (hread : read definition = .ok d) (htypes : ∀ c ∈ d.columns, IsIdentifier c.type) :
    (∃ fields, definition = .object fields ∧ d.ReadsFrom fields) ∧
    (declared? (Statement.createTable d.name d.columns).sql = some d.columns ↔
      ∀ c ∈ d.columns, '"' ∉ c.name.toList) ∧
    (∀ row ∈ d.rows, row.length = d.columns.length) ∧
    (Statement.insertRows d.name d.columns.length d.rows).sql.toList.count '?' =
      d.columns.length ∧
    ∀ s, (∃ exchanges,
        (final (Action.createTable definition) s).connection = s.connection.after exchanges ∧
        ∀ x ∈ exchanges, d.Sends x.statement) ∧
      ∀ table t, Action.createTable definition s = .ok table t →
        ∃ questions, (∀ x ∈ questions, x.statement.isQuestion) ∧ t.connection =
          s.connection.after (answered (transacted (creation d.name d.columns d.rows)) ++ questions) := by
  have hname := isSafe_of_read hread
  exact ⟨readsFrom_of_read hread, declared?_iff_unquoted htypes hname (columns_ne_nil hread),
    fun row hrow => length_of_mem_rows hread hrow, count_placeholders hname _ _,
    fun s => ⟨Action.sends_of_createTable s hread,
      fun table t h => Action.sent_of_createTable hread h⟩⟩

def orders : Value :=
  .object [("name", .text "orders"),
    ("columns", .list [.object [("name", .text "id"), ("type", .text "integer")], .text "unit price"]),
    ("rows", .list [.list [.int 1, .text "9.5"],
      .object [("unit price", .text "7"), ("id", .int 2)]])]

def ordersRead : TableDefinition :=
  ⟨"orders", [⟨"id", "INTEGER"⟩, ⟨"unit price", "VARCHAR"⟩],
    [[.int 1, .text "9.5"], [.int 2, .text "7"]]⟩

/-- The columns of the orders are read back. -/
theorem orders_declared :
    read orders = .ok ordersRead ∧ (∀ c ∈ ordersRead.columns, IsIdentifier c.type) ∧
    declared? (Statement.createTable ordersRead.name ordersRead.columns).sql =
      some ordersRead.columns := by
  have hread : read orders = .ok ordersRead := by decide +kernel
  have htypes : ∀ c ∈ ordersRead.columns, IsIdentifier c.type := by decide +kernel
  exact ⟨hread, htypes, (columns_declared_iff hread htypes).2.1.mpr (by decide +kernel)⟩

def quoted : Value :=
  .object [("name", .text "t"), ("columns", .list [.text "a\"b"])]

def quotedRead : TableDefinition := ⟨"t", [⟨"a\"b", "VARCHAR"⟩], []⟩

/-- A quote in a name ends the name, and no list of columns can be read from what follows. -/
theorem quoted_undeclared :
    read quoted = .ok quotedRead ∧ (∀ c ∈ quotedRead.columns, IsIdentifier c.type) ∧
    (∃ table t, Action.createTable quoted (Session.silent false) =
      .ok table t) ∧
    declared? (Statement.createTable quotedRead.name quotedRead.columns).sql = none := by
  have hok : (result? (Action.createTable quoted)
      (Session.silent false)).isSome := by
    decide +kernel
  obtain ⟨table, htable⟩ := Option.isSome_iff_exists.mp hok
  exact ⟨by decide +kernel, by decide +kernel, ⟨table, _, ok_of_result? htable⟩, by decide +kernel⟩

end TableDefinition

end StagedSql
