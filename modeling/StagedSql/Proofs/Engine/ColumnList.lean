import Mathlib.Algebra.BigOperators.Group.List.Basic
import Mathlib.Algebra.GroupWithZero.Nat
import StagedSql.Engine.Statement
import StagedSql.Proofs.Query.Statement

/-!
# Reading column lists back

A reader for the statements that create a table with given columns, stated on its own. A column name
stands between double quotes, where a quote that belongs to it is doubled. The statements double no
quotes, so their columns are read back as long as no name holds one.
-/

namespace StagedSql.Engine

open Query (after? finished? readName? readListed? EndsName)

/-! ### The reader -/

/-- The characters up to the first quote that is not doubled, and the text after it. -/
def readQuotedName? : List Char → Option (List Char × List Char)
  | [] => none
  | '"' :: '"' :: s => (readQuotedName? s).map fun found => ('"' :: found.1, found.2)
  | '"' :: s => some ([], s)
  | c :: s => (readQuotedName? s).map fun found => (c :: found.1, found.2)

def readDeclaration? (s : List Char) : Option (Column × List Char) := do
  let s ← after? "\"" s
  let (name, s) ← readQuotedName? s
  let s ← after? " " s
  let (type, s) ← readName? s
  some (⟨String.ofList name, type⟩, s)

def readColumnList? (s : List Char) : Option (List Column) := do
  let s ← after? "(" s
  let (columns, s) ← readListed? readDeclaration? (s.length + 1) s
  let s ← after? ")" s
  finished? s columns

/-- The columns that a statement declares; the name of the table goes up to the parenthesis. -/
def declared? (sql : String) : Option (List Column) := do
  let s ← after? "CREATE OR REPLACE TABLE " sql.toList
  readColumnList? (s.dropWhile (· ≠ '('))

example : declared? "CREATE OR REPLACE TABLE t (\"a\"\"b\" VARCHAR, \"c\" INTEGER)" =
    some [⟨"a\"b", "VARCHAR"⟩, ⟨"c", "INTEGER"⟩] := by decide +kernel

/-! ### Names without quotes -/

section

variable {rest : List Char}

theorem readQuotedName?_append {name : List Char} (hname : '"' ∉ name)
    (hrest : ∀ c ∈ rest.head?, c ≠ '"') :
    readQuotedName? (name ++ '"' :: rest) = some (name, rest) := by
  induction name with
  | nil =>
    cases rest with
    | nil => rfl
    | cons c rest =>
      have hc : c ≠ '"' := hrest c rfl
      simp [readQuotedName?, hc]
  | cons c name ih =>
    obtain ⟨hc, hname⟩ := List.ne_and_not_mem_of_not_mem_cons hname
    rw [List.cons_append]
    simp [readQuotedName?, hc.symm, ih hname]

theorem toList_columnSql (c : Column) : (Statement.columnSql c).toList =
    "\"".toList ++ (c.name.toList ++ '"' :: (" ".toList ++ c.type.toList)) := by
  simp [Statement.columnSql, String.toList_append]

theorem readDeclaration?_columnSql {c : Column} (hname : '"' ∉ c.name.toList)
    (htype : IsIdentifier c.type) (hrest : EndsName rest) :
    readDeclaration? ((Statement.columnSql c).toList ++ rest) = some (c, rest) := by
  have hquoted : readQuotedName? (c.name.toList ++ '"' :: (" ".toList ++ (c.type.toList ++ rest))) =
      some (c.name.toList, " ".toList ++ (c.type.toList ++ rest)) :=
    readQuotedName?_append hname (by rintro _ ⟨⟩; decide)
  simp only [toList_columnSql, readDeclaration?, List.append_assoc, List.cons_append,
    Query.after?_append, hquoted, Query.readName?_append htype hrest, Option.bind_eq_bind,
    Option.bind_some, String.ofList_toList]

end

/-! ### The statement of a table -/

section

variable {name : String} {columns : List Column}

def columnText (columns : List Column) : List Char :=
  (Query.commaList (columns.map Statement.columnSql)).toList ++ ")".toList

theorem declared?_createTable (hname : Identifier.isSafe name) :
    declared? (Statement.createTable name columns).sql = (do
      let (found, s) ← readListed? readDeclaration? ((columnText columns).length + 1)
        (columnText columns)
      let s ← after? ")" s
      finished? s found) := by
  have htext : (Statement.createTable name columns).sql.toList =
      "CREATE OR REPLACE TABLE ".toList ++
        (name.toList ++ (" ".toList ++ ("(".toList ++ columnText columns))) := by
    have hopen : " (".toList = " ".toList ++ "(".toList := by decide
    have hsql : (Statement.createTable name columns).sql = "CREATE OR REPLACE TABLE " ++ name ++
      " (" ++ Query.commaList (columns.map Statement.columnSql) ++ ")" := rfl
    rw [hsql, String.toList_append, String.toList_append, String.toList_append,
      String.toList_append, hopen]
    simp only [List.append_assoc, columnText]
  have hdrop : (name.toList ++ (" ".toList ++ ("(".toList ++ columnText columns))).dropWhile
      (· ≠ '(') = "(".toList ++ columnText columns := by
    have hparts : ∀ c ∈ name.toList, decide (c ≠ '(') = true := by
      intro c hc
      refine decide_eq_true ?_
      rintro rfl
      exact Identifier.not_mem_of_isSafe hname (by decide) (by decide) hc
    rw [List.dropWhile_append_of_pos hparts]
    rfl
  rw [declared?, htext, Query.after?_append]
  simp only [Option.bind_eq_bind, Option.bind_some, hdrop, readColumnList?, Query.after?_append]

theorem declared?_of_unquoted (hname : Identifier.isSafe name) (hne : columns ≠ [])
    (htypes : ∀ c ∈ columns, IsIdentifier c.type) (hquotes : ∀ c ∈ columns, '"' ∉ c.name.toList) :
    declared? (Statement.createTable name columns).sql = some columns := by
  have hread : readListed? readDeclaration? ((columnText columns).length + 1) (columnText columns) =
      some (columns, ")".toList) := by
    refine Query.readListed?_whole hne (fun c hc tail htail => ?_) rfl
    refine readDeclaration?_columnSql (hquotes c hc) (htypes c hc) ?_
    rcases htail with rfl | ⟨tail, rfl⟩
    · rintro _ ⟨⟩
      decide
    · rintro _ ⟨⟩
      decide
  rw [declared?_createTable hname, hread]
  rfl

end

/-! ### Counting quotes

A quote is written once for a name that holds it, and twice before it is read as one. So the counts
tell that the names of what is read back hold none. -/

section

variable {s rest : List Char}

theorem count_after? {mark : String} (h : after? mark s = some rest) :
    s.count '"' = mark.toList.count '"' + rest.count '"' := by
  rw [← List.isPrefixOf?_eq_some_iff_append_eq.mp h, List.count_append]

theorem count_readQuotedName? {name : List Char} (h : readQuotedName? s = some (name, rest)) :
    s.count '"' = 2 * name.count '"' + 1 + rest.count '"' := by
  induction s using readQuotedName?.induct generalizing name with
  | case1 => cases h
  | case2 s ih =>
    obtain ⟨found, hfound, heq⟩ := Option.map_eq_some_iff.mp h
    obtain ⟨rfl, rfl⟩ := Prod.mk.inj heq
    have hrest := ih hfound
    simp only [List.count_cons_self]
    omega
  | case3 s hs =>
    rw [readQuotedName?.eq_3 s hs] at h
    obtain ⟨rfl, rfl⟩ := Prod.mk.inj (Option.some.inj h)
    simp only [List.count_cons_self, List.count_nil]
    omega
  | case4 c s hs hc ih =>
    rw [readQuotedName?.eq_4 c s hs hc] at h
    obtain ⟨found, hfound, heq⟩ := Option.map_eq_some_iff.mp h
    obtain ⟨rfl, rfl⟩ := Prod.mk.inj heq
    have hrest := ih hfound
    have hne : c ≠ '"' := hc
    simp only [List.count_cons_of_ne hne]
    omega

theorem count_readName? {name : String} (h : readName? s = some (name, rest)) :
    s.count '"' = rest.count '"' := by
  unfold readName? at h
  split at h
  · cases h
  · obtain ⟨-, rfl⟩ := Prod.mk.inj (Option.some.inj h)
    have hnone : (s.takeWhile Identifier.isPart).count '"' = 0 := by
      refine List.count_eq_zero.mpr fun hmem => ?_
      have hpart := List.mem_takeWhile_imp hmem
      revert hpart
      decide
    conv_lhs => rw [← List.takeWhile_append_dropWhile (p := Identifier.isPart) (l := s)]
    rw [List.count_append, hnone, Nat.zero_add]

theorem count_readDeclaration? {c : Column} (h : readDeclaration? s = some (c, rest)) :
    s.count '"' = 2 * c.name.toList.count '"' + 2 + rest.count '"' := by
  unfold readDeclaration? at h
  obtain ⟨s₁, hopen, h⟩ := Option.bind_eq_some_iff.mp h
  obtain ⟨⟨name, s₂⟩, hname, h⟩ := Option.bind_eq_some_iff.mp h
  obtain ⟨s₃, hblank, h⟩ := Option.bind_eq_some_iff.mp h
  obtain ⟨⟨type, s₄⟩, htype, h⟩ := Option.bind_eq_some_iff.mp h
  obtain ⟨rfl, rfl⟩ := Prod.mk.inj (Option.some.inj h)
  have hquote : "\"".toList.count '"' = 1 := by decide
  have hnone : " ".toList.count '"' = 0 := by decide
  rw [count_after? hopen, count_readQuotedName? hname, count_after? hblank, count_readName? htype,
    hquote, hnone, String.toList_ofList]
  omega

theorem count_readListed? {fuel : Nat} {columns : List Column}
    (h : readListed? readDeclaration? fuel s = some (columns, rest)) :
    s.count '"' = (columns.map fun c => 2 * c.name.toList.count '"' + 2).sum + rest.count '"' := by
  induction fuel generalizing s columns with
  | zero => cases h
  | succ fuel ih =>
    unfold readListed? at h
    split at h
    · cases h
    · next c s₁ hc =>
      split at h
      · next s₂ hcomma =>
        obtain ⟨found, hfound, heq⟩ := Option.map_eq_some_iff.mp h
        obtain ⟨rfl, rfl⟩ := Prod.mk.inj heq
        have hnone : ", ".toList.count '"' = 0 := by decide
        rw [count_readDeclaration? hc, count_after? hcomma, ih hfound, hnone, List.map_cons,
          List.sum_cons]
        omega
      · obtain ⟨rfl, rfl⟩ := Prod.mk.inj (Option.some.inj h)
        rw [count_readDeclaration? hc, List.map_singleton, List.sum_singleton]

end

theorem count_columnSql {c : Column} (htype : IsIdentifier c.type) :
    (Statement.columnSql c).toList.count '"' = c.name.toList.count '"' + 2 := by
  have hquote : "\"".toList.count '"' = 1 := by decide
  have hblank : " ".toList.count '"' = 0 := by decide
  have hnone : c.type.toList.count '"' = 0 :=
    List.count_eq_zero.mpr fun hmem => absurd (htype.2 _ hmem) (by decide)
  rw [toList_columnSql, List.count_append, List.count_append, List.count_cons_self,
    List.count_append, hquote, hblank, hnone]
  omega

theorem count_commaList {mark : Char} (hcomma : ", ".toList.count mark = 0) (items : List String) :
    (Query.commaList items).toList.count mark =
      (items.map fun text => text.toList.count mark).sum := by
  induction items with
  | nil => rfl
  | cons first more ih =>
    cases more with
    | nil => simp [Query.commaList]
    | cons second more =>
      rw [Query.toList_commaList_cons, List.count_append, List.count_append, hcomma, ih,
        Nat.zero_add]
      rfl

section

variable {name : String} {columns : List Column} (htypes : ∀ c ∈ columns, IsIdentifier c.type)
include htypes

theorem count_columnText :
    (columnText columns).count '"' = (columns.map fun c => c.name.toList.count '"' + 2).sum := by
  have hclose : ")".toList.count '"' = 0 := by decide
  rw [columnText, List.count_append, hclose, count_commaList (by decide), List.map_map,
    Nat.add_zero]
  exact congrArg List.sum (List.map_congr_left fun c hc => count_columnSql (htypes c hc))

/-- The columns of a statement are read back exactly if none of their names holds a quote. -/
theorem declared?_iff_unquoted (hname : Identifier.isSafe name) (hne : columns ≠ []) :
    declared? (Statement.createTable name columns).sql = some columns ↔
      ∀ c ∈ columns, '"' ∉ c.name.toList := by
  refine ⟨fun h => ?_, declared?_of_unquoted hname hne htypes⟩
  rw [declared?_createTable hname] at h
  obtain ⟨⟨found, s⟩, hlist, h⟩ := Option.bind_eq_some_iff.mp h
  obtain ⟨s', hclose, h⟩ := Option.bind_eq_some_iff.mp h
  obtain ⟨rfl, rfl⟩ : s' = [] ∧ found = columns := by
    unfold finished? at h
    split at h
    · next hnil => exact ⟨hnil, Option.some.inj h⟩
    · cases h
  have hmark : ")".toList.count '"' = 0 := by decide
  have hcounts : (found.map fun c => 2 * c.name.toList.count '"' + 2).sum =
      (found.map fun c => c.name.toList.count '"' + 2).sum := by
    rw [← count_columnText htypes, count_readListed? hlist, count_after? hclose, hmark]
    rfl
  have hsplit : (found.map fun c => 2 * c.name.toList.count '"' + 2).sum =
      (found.map fun c => c.name.toList.count '"').sum +
        (found.map fun c => c.name.toList.count '"' + 2).sum := by
    rw [← List.sum_map_add]
    exact congrArg List.sum (List.map_congr_left fun c _ => by omega)
  have hnone : (found.map fun c => c.name.toList.count '"').sum = 0 := by omega
  intro c hc
  exact List.count_eq_zero.mp (List.sum_eq_zero_iff_forall_eq_nat.mp hnone _ (List.mem_map_of_mem hc))

end

-- A name can hold a whole declaration, which is then read as a column of its own.
example : declared? (Statement.createTable "t" [⟨"a\" INTEGER, \"b", "VARCHAR"⟩]).sql =
    some [⟨"a", "INTEGER"⟩, ⟨"b", "VARCHAR"⟩] := by decide +kernel

/-! ### Placeholders -/

/-- The statement that fills a table has a placeholder for each value of a row. -/
theorem count_placeholders {name : String} (hname : Identifier.isSafe name) (width : Nat)
    (rows : List (List Value)) :
    (Statement.insertRows name width rows).sql.toList.count '?' = width := by
  have hsql : (Statement.insertRows name width rows).sql = "INSERT INTO " ++ name ++ " VALUES (" ++
    Query.commaList (List.replicate width "?") ++ ")" := rfl
  have hverb : "INSERT INTO ".toList.count '?' = 0 := by decide
  have hvalues : " VALUES (".toList.count '?' = 0 := by decide
  have hclose : ")".toList.count '?' = 0 := by decide
  have hmark : "?".toList.count '?' = 1 := by decide
  have hnone : name.toList.count '?' = 0 :=
    List.count_eq_zero.mpr (Identifier.not_mem_of_isSafe hname (by decide) (by decide))
  rw [hsql, String.toList_append, String.toList_append, String.toList_append, String.toList_append,
    List.count_append, List.count_append, List.count_append, List.count_append, hverb, hvalues,
    hclose, hnone, count_commaList (by decide), List.map_replicate, hmark]
  simp

end StagedSql.Engine
