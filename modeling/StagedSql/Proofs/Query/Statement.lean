import Mathlib.Data.List.Basic
import StagedSql.Proofs.Identifier
import StagedSql.Query.Basic

/-!
# Reading statements back

A reader for the statements of joins, unions, selections, orderings, groupings and aggregations is stated on its own,
without the writer. It goes by the place of a name and not by its letters, so names may be spelled like the words of
the language. Every query whose names are identifiers is read back from its statement.
-/

namespace StagedSql.Query

/-! ### The reader -/

/-- What follows `mark` in a text that begins with it. -/
def after? (mark : String) (s : List Char) : Option (List Char) := mark.toList.isPrefixOf? s

def finished? {α : Type} (s : List Char) (a : α) : Option α := if s = [] then some a else none

/-- The name in front of a text, as long as its characters allow, and what follows it. -/
def readName? (s : List Char) : Option (String × List Char) :=
  if s.takeWhile Identifier.isPart = [] then none
  else some (String.ofList (s.takeWhile Identifier.isPart), s.dropWhile Identifier.isPart)

def readChoice? {α : Type} (text : α → String) (choices : List α) (s : List Char) : Option (α × List Char) :=
  choices.findSome? fun a => (after? (text a) s).map fun rest => (a, rest)

/-- Items with a comma and a blank between them, at least one (`fuel` bounds their number). -/
def readListed? {α : Type} (item : List Char → Option (α × List Char)) :
    Nat → List Char → Option (List α × List Char)
  | 0, _ => none
  | fuel + 1, s =>
    match item s with
    | none => none
    | some (a, rest) =>
      match after? ", " rest with
      | some rest => (readListed? item fuel rest).map fun found => (a :: found.1, found.2)
      | none => some ([a], rest)

def readColumn? (s : List Char) : Option (String × List Char) :=
  match after? "*" s with
  | some rest => some ("*", rest)
  | none => readName? s

def readLabel? (s : List Char) : Option (Option String × List Char) :=
  match after? " AS " s with
  | some rest => (readName? rest).map fun found => (some found.1, found.2)
  | none => some (none, s)

def readAggregation? (s : List Char) : Option (Aggregation × List Char) := do
  let (function, s) ← readName? s
  let s ← after? "(" s
  let (column, s) ← readColumn? s
  let s ← after? ")" s
  let (label, s) ← readLabel? s
  some (⟨function, column, label⟩, s)

def readSelected? (s : List Char) : Option ((String ⊕ Aggregation) × List Char) :=
  match readAggregation? s with
  | some (a, rest) => some (.inr a, rest)
  | none => (readName? s).map fun found => (.inl found.1, found.2)

def readSortKey? (s : List Char) : Option (SortKey × List Char) := do
  let (column, s) ← readName? s
  let s ← after? " " s
  let (direction, s) ← readChoice? Direction.keyword [.ascending, .descending] s
  some (⟨column, direction⟩, s)

def readJoinKind? : List Char → Option (JoinKind × List Char) :=
  readChoice? JoinKind.keyword [.inner, .left, .right, .full]

def readJoin? (s : List Char) : Option Query :=
  match after? "SELECT l.*, r.* EXCLUDE (" s with
  | some s => do
    let (rightKey, s) ← readName? s
    let s ← after? ") FROM " s
    let (left, s) ← readName? s
    let s ← after? " l " s
    let (kind, s) ← readJoinKind? s
    let s ← after? " " s
    let (right, s) ← readName? s
    let s ← after? " r USING (" s
    let (leftKey, s) ← readName? s
    let s ← after? ")" s
    finished? s (.join kind left right leftKey rightKey)
  | none => do
    let s ← after? "SELECT l.*, r.* FROM " s
    let (left, s) ← readName? s
    let s ← after? " l " s
    let (kind, s) ← readJoinKind? s
    let s ← after? " " s
    let (right, s) ← readName? s
    let s ← after? " r ON l." s
    let (leftKey, s) ← readName? s
    let s ← after? " = r." s
    let (rightKey, s) ← readName? s
    finished? s (.join kind left right leftKey rightKey)

/-- The keyword of a union with the words that begin the part after it. -/
def unionMark (kind : UnionKind) : String := " " ++ kind.keyword ++ " SELECT * FROM "

def readUnionParts? : Nat → List Char → Option (List (UnionKind × String))
  | _, [] => some []
  | 0, _ => none
  | fuel + 1, s => do
    let (kind, s) ← readChoice? unionMark [.distinct, .all] s
    let (name, s) ← readName? s
    let more ← readUnionParts? fuel s
    some ((kind, name) :: more)

/-- The table of the first part of a union, and the keyword and table of every other part. -/
def unionParts? (s : List Char) : Option (String × List (UnionKind × String)) := do
  let s ← after? "SELECT * FROM " s
  let (first, s) ← readName? s
  let more ← readUnionParts? s.length s
  some (first, more)

def readUnion? (s : List Char) : Option Query := do
  let (first, more) ← unionParts? s
  let (kind, _) ← more.head?
  some (.union kind (first :: more.map (·.2)))

def readSelect? (s : List Char) : Option Query := do
  let s ← after? "SELECT " s
  let (columns, s) ← readListed? readName? (s.length + 1) s
  let s ← after? " FROM " s
  let (source, s) ← readName? s
  finished? s (.select columns source)

def readSort? (s : List Char) : Option Query := do
  let s ← after? "SELECT * FROM " s
  let (source, s) ← readName? s
  let s ← after? " ORDER BY " s
  let (keys, s) ← readListed? readSortKey? (s.length + 1) s
  finished? s (.sort source keys)

def readGroup? (s : List Char) : Option Query := do
  let s ← after? "SELECT " s
  let (selected, s) ← readListed? readSelected? (s.length + 1) s
  let s ← after? " FROM " s
  let (source, s) ← readName? s
  let s ← after? " GROUP BY " s
  let (keys, s) ← readListed? readName? (s.length + 1) s
  finished? s (.group keys (selected.filterMap Sum.getRight?) source)

def readAggregate? (s : List Char) : Option Query := do
  let s ← after? "SELECT " s
  let (aggregations, s) ← readListed? readAggregation? (s.length + 1) s
  let s ← after? " FROM " s
  let (source, s) ← readName? s
  finished? s (.aggregate aggregations source)

/-- The query of a statement for a stage of the given kind. -/
def read? (kind : StageKind) (statement : String) : Option Query :=
  match kind with
  | .join => readJoin? statement.toList
  | .union => readUnion? statement.toList
  | .select => readSelect? statement.toList
  | .sort => readSort? statement.toList
  | .group => readGroup? statement.toList
  | .aggregate => readAggregate? statement.toList
  | .load | .filter | .custom => none

/-! ### Parts of a statement -/

section

variable {name mark : String} {s rest : List Char}

def EndsName (rest : List Char) : Prop := ∀ c ∈ rest.head?, Identifier.isPart c = false

theorem after?_append (mark : String) (s : List Char) : after? mark (mark.toList ++ s) = some s :=
  List.isPrefixOf?_eq_some_iff_append_eq.mpr rfl

theorem readName?_append (hname : IsIdentifier name) (hrest : EndsName rest) :
    readName? (name.toList ++ rest) = some (name, rest) := by
  have hsplit : rest.takeWhile Identifier.isPart = [] ∧ rest.dropWhile Identifier.isPart = rest := by
    cases rest with
    | nil => exact ⟨rfl, rfl⟩
    | cons c rest => simp [hrest c rfl]
  unfold readName?
  rw [List.takeWhile_append_of_pos hname.2, List.dropWhile_append_of_pos hname.2, hsplit.1, hsplit.2,
    List.append_nil, if_neg hname.ne_nil, String.ofList_toList]

theorem readName?_end (hname : IsIdentifier name) : readName? name.toList = some (name, []) := by
  have hread : readName? (name.toList ++ []) = some (name, []) := readName?_append hname nofun
  rwa [List.append_nil] at hread

end

section

variable {name : String}

theorem endsName_append (mark : String) (h : mark.toList.head?.any fun c => !Identifier.isPart c) (s : List Char) :
    EndsName (mark.toList ++ s) := by
  obtain ⟨c, hc, hpart⟩ := (Option.any_eq_true _ _).mp h
  intro d hd
  rw [List.head?_append, hc, Option.some_or] at hd
  rw [← Option.some.inj hd]
  simpa using hpart

theorem readName?_mark (mark : String) (hname : IsIdentifier name)
    (hmark : mark.toList.head?.any fun c => !Identifier.isPart c) (s : List Char) :
    readName? (name.toList ++ (mark.toList ++ s)) = some (name, mark.toList ++ s) :=
  readName?_append hname (endsName_append mark hmark s)

end

inductive Follows : List Char → Prop
  | end : Follows []
  | comma (s : List Char) : Follows (", ".toList ++ s)
  | table (s : List Char) : Follows (" FROM ".toList ++ s)

section

variable {s rest : List Char}

theorem Follows.endsName (h : Follows rest) : EndsName rest := by
  cases h with
  | «end» => nofun
  | comma s => rintro _ ⟨⟩; decide
  | table s => rintro _ ⟨⟩; decide

theorem Follows.no_label (h : Follows rest) : after? " AS " rest = none := by
  cases h <;> rfl

theorem Follows.no_parenthesis (h : Follows rest) : after? "(" rest = none := by
  cases h <;> rfl

/-- The text of an item is read as that item before everything that may follow it. -/
def ItemReads {α : Type} (item : List Char → Option (α × List Char)) (text : α → String) (a : α) : Prop :=
  ∀ rest, Follows rest → item ((text a).toList ++ rest) = some (a, rest)

theorem toList_commaList_cons (first second : String) (more : List String) :
    (commaList (first :: second :: more)).toList =
      first.toList ++ (", ".toList ++ (commaList (second :: more)).toList) := by
  simp only [commaList, String.toList_intercalate, List.map_cons, List.intercalate_cons_cons,
    List.append_assoc]

theorem length_commaList (items : List String) : items.length ≤ (commaList items).toList.length + 1 := by
  induction items with
  | nil => exact Nat.zero_le _
  | cons first more ih =>
    cases more with
    | nil => exact Nat.le_add_left _ _
    | cons second more =>
      rw [toList_commaList_cons, List.length_append, List.length_append]
      have hmark : ", ".toList.length = 2 := rfl
      simp only [List.length_cons] at ih ⊢
      omega

section

variable {α : Type} {item : List Char → Option (α × List Char)} {text : α → String} {items : List α}

/-- Items that are read before a comma and before what follows the list. -/
theorem readListed?_items (hne : items ≠ [])
    (hitems : ∀ a ∈ items, ∀ tail, tail = rest ∨ ", ".toList <+: tail →
      item ((text a).toList ++ tail) = some (a, tail))
    (hend : after? ", " rest = none) {fuel : Nat} (hfuel : items.length ≤ fuel) :
    readListed? item fuel ((commaList (items.map text)).toList ++ rest) = some (items, rest) := by
  induction items generalizing fuel with
  | nil => exact absurd rfl hne
  | cons first more ih =>
    obtain ⟨fuel, rfl⟩ : ∃ n, fuel = n + 1 := ⟨fuel - 1, by simp only [List.length_cons] at hfuel; omega⟩
    have hfirst := hitems first (List.mem_cons_self ..)
    -- a comma stands behind every item but the last, which is followed by what follows the list
    cases more with
    | nil =>
      have hone : commaList [text first] = text first := by simp [commaList]
      rw [List.map_cons, List.map_nil, hone, readListed?, hfirst _ (.inl rfl)]
      simp only [hend]
    | cons second more =>
      have hmore := ih (List.cons_ne_nil _ _) (fun a ha => hitems a (List.mem_cons_of_mem _ ha))
        (Nat.le_of_succ_le_succ hfuel)
      rw [List.map_cons] at hmore
      rw [List.map_cons, List.map_cons, toList_commaList_cons, List.append_assoc, List.append_assoc,
        readListed?, hfirst _ (.inr (List.prefix_append ..))]
      simp only [after?_append, hmore, Option.map_some]

theorem readListed?_whole (hne : items ≠ [])
    (hitems : ∀ a ∈ items, ∀ tail, tail = rest ∨ ", ".toList <+: tail →
      item ((text a).toList ++ tail) = some (a, tail))
    (hend : after? ", " rest = none) :
    readListed? item (((commaList (items.map text)).toList ++ rest).length + 1)
      ((commaList (items.map text)).toList ++ rest) = some (items, rest) := by
  refine readListed?_items hne hitems hend ?_
  have hlength := length_commaList (items.map text)
  rw [List.length_map] at hlength
  rw [List.length_append]
  omega

theorem readListed?_commaList (hne : items ≠ []) (hitems : ∀ a ∈ items, ItemReads item text a)
    (hrest : Follows rest) (hend : after? ", " rest = none) :
    readListed? item (((commaList (items.map text)).toList ++ rest).length + 1)
      ((commaList (items.map text)).toList ++ rest) = some (items, rest) := by
  refine readListed?_whole hne (fun a ha tail htail => hitems a ha tail ?_) hend
  rcases htail with rfl | ⟨tail, rfl⟩
  · exact hrest
  · exact .comma tail

end

/-! ### Items -/

theorem itemReads_name {name : String} (hname : IsIdentifier name) : ItemReads readName? id name :=
  fun _ hrest => readName?_append hname hrest.endsName

/-- The names in an aggregation are identifiers, except for the star. -/
structure Aggregation.HasIdentifiers (a : Aggregation) : Prop where
  function : IsIdentifier a.function
  column : IsIdentifier a.column ∨ a.column = "*"
  label : ∀ label ∈ a.label, IsIdentifier label

theorem readColumn?_append {column : String} (h : IsIdentifier column ∨ column = "*")
    (hrest : EndsName rest) : readColumn? (column.toList ++ rest) = some (column, rest) := by
  rcases h with h | rfl
  · have hstar : after? "*" (column.toList ++ rest) = none := by
      cases hchars : column.toList with
      | nil => exact absurd hchars h.ne_nil
      | cons c chars =>
        have hc : c ≠ '*' := by
          rintro rfl
          exact absurd (h.2 '*' (by rw [hchars]; exact List.mem_cons_self ..)) (by decide)
        simp [after?, List.isPrefixOf?, hc.symm]
    rw [readColumn?, hstar]
    exact readName?_append h hrest
  · rw [readColumn?, after?_append]

theorem readLabel?_none (hrest : Follows rest) : readLabel? rest = some (none, rest) := by
  rw [readLabel?, hrest.no_label]

theorem readLabel?_some {label : String} (hlabel : IsIdentifier label) (hrest : Follows rest) :
    readLabel? (" AS ".toList ++ (label.toList ++ rest)) = some (some label, rest) := by
  rw [readLabel?, after?_append]
  simp only [readName?_append hlabel hrest.endsName, Option.map_some]

theorem itemReads_aggregation {a : Aggregation} (ha : a.HasIdentifiers) :
    ItemReads readAggregation? Aggregation.text a := by
  intro rest hrest
  obtain ⟨function, column, label⟩ := a
  obtain ⟨hfunction, hcolumn, hlabel⟩ := ha
  -- up to the closing parenthesis the label does not matter
  have htext (tail : List Char) : readAggregation?
      (function.toList ++ ("(".toList ++ (column.toList ++ (")".toList ++ tail)))) =
        (readLabel? tail).map fun found => (⟨function, column, found.1⟩, found.2) := by
    have hclose : EndsName (")".toList ++ tail) := endsName_append ")" (by decide) tail
    simp only [readAggregation?, readName?_mark "(" hfunction (by decide), after?_append,
      readColumn?_append hcolumn hclose, Option.bind_eq_bind, Option.bind_some]
    cases readLabel? tail <;> rfl
  cases label with
  | none =>
    simp only [Aggregation.text, String.toList_append, List.append_assoc]
    rw [htext]
    simp [readLabel?_none hrest]
  | some label =>
    simp only [Aggregation.text, String.toList_append, List.append_assoc]
    rw [htext, readLabel?_some (hlabel label rfl) hrest, Option.map_some]

theorem readDirection?_append (direction : Direction) (s : List Char) :
    readChoice? Direction.keyword [.ascending, .descending] (direction.keyword.toList ++ s) =
      some (direction, s) := by
  cases direction <;> rfl

theorem itemReads_sortKey {k : SortKey} (hcolumn : IsIdentifier k.column) :
    ItemReads readSortKey? SortKey.text k := by
  intro rest hrest
  simp only [SortKey.text, readSortKey?, String.toList_append, List.append_assoc,
    readName?_mark " " hcolumn (by decide), after?_append,
    readDirection?_append, Option.bind_eq_bind, Option.bind_some]

def selectedText : String ⊕ Aggregation → String := Sum.elim id Aggregation.text

theorem readAggregation?_name {name : String} (hname : IsIdentifier name) (hrest : Follows rest) :
    readAggregation? (name.toList ++ rest) = none := by
  simp only [readAggregation?, readName?_append hname hrest.endsName, hrest.no_parenthesis,
    Option.bind_eq_bind, Option.bind_some, Option.bind_none]

theorem itemReads_key {name : String} (hname : IsIdentifier name) :
    ItemReads readSelected? selectedText (.inl name) := by
  intro rest hrest
  have hread := readName?_append hname hrest.endsName
  show readSelected? (name.toList ++ rest) = _
  rw [readSelected?, readAggregation?_name hname hrest]
  simp only [hread, Option.map_some]

theorem itemReads_selected {a : Aggregation} (ha : a.HasIdentifiers) :
    ItemReads readSelected? selectedText (.inr a) := by
  intro rest hrest
  show readSelected? (a.text.toList ++ rest) = _
  rw [readSelected?, itemReads_aggregation ha rest hrest]

end

/-! ### Statements -/

def kind : Query → StageKind
  | .table _ => .load
  | .join .. => .join
  | .union .. => .union
  | .filter .. => .filter
  | .group .. => .group
  | .select .. => .select
  | .sort .. => .sort
  | .aggregate .. => .aggregate
  | .custom _ => .custom

/-- A query whose names are all identifiers, of one of the kinds that hold names alone. No list is shorter than
its statement asks for. -/
def IsRegular : Query → Prop
  | .join _ left right leftKey rightKey =>
    IsIdentifier left ∧ IsIdentifier right ∧ IsIdentifier leftKey ∧ IsIdentifier rightKey
  | .union _ tables => 2 ≤ tables.length ∧ ∀ t ∈ tables, IsIdentifier t
  | .select columns source => columns ≠ [] ∧ (∀ c ∈ columns, IsIdentifier c) ∧ IsIdentifier source
  | .sort source keys => keys ≠ [] ∧ (∀ k ∈ keys, IsIdentifier k.column) ∧ IsIdentifier source
  | .group keys aggregations source => keys ≠ [] ∧ (∀ k ∈ keys, IsIdentifier k) ∧
      (∀ a ∈ aggregations, a.HasIdentifiers) ∧ IsIdentifier source
  | .aggregate aggregations source =>
    aggregations ≠ [] ∧ (∀ a ∈ aggregations, a.HasIdentifiers) ∧ IsIdentifier source
  | .table _ | .filter .. | .custom _ => False

theorem readJoinKind?_append (kind : JoinKind) (s : List Char) :
    readJoinKind? (kind.keyword.toList ++ s) = some (kind, s) := by
  cases kind <;> rfl

theorem readJoin?_text {kind : JoinKind} {left right leftKey rightKey : String}
    (h : IsRegular (.join kind left right leftKey rightKey)) :
    readJoin? (text (.join kind left right leftKey rightKey)).toList =
      some (.join kind left right leftKey rightKey) := by
  obtain ⟨hleft, hright, hleftKey, hrightKey⟩ := h
  -- with the empty text behind it, the last name or mark is read like all others
  rw [← List.append_nil (text _).toList]
  unfold text
  by_cases hkeys : leftKey = rightKey
  · subst hkeys
    simp only [if_true, String.toList_append, List.append_assoc, readJoin?, after?_append,
      readName?_mark ") FROM " hleftKey (by decide), readName?_mark " l " hleft (by decide),
      readJoinKind?_append, readName?_mark " r USING (" hright (by decide),
      readName?_mark ")" hleftKey (by decide), Option.bind_eq_bind, Option.bind_some, finished?]
  · have hother (s : List Char) :
        after? "SELECT l.*, r.* EXCLUDE (" ("SELECT l.*, r.* FROM ".toList ++ s) = none := rfl
    have hrightKey' : readName? (rightKey.toList ++ []) = some (rightKey, []) :=
      readName?_append hrightKey nofun
    simp only [if_neg hkeys, String.toList_append, List.append_assoc, readJoin?, hother,
      after?_append, readName?_mark " l " hleft (by decide), readJoinKind?_append,
      readName?_mark " r ON l." hright (by decide), readName?_mark " = r." hleftKey (by decide),
      hrightKey', Option.bind_eq_bind, Option.bind_some, finished?, if_true]

/-! Every part of a union after the first one begins with its keyword. -/

def unionTail (kind : UnionKind) (tables : List String) : List Char :=
  tables.flatMap fun t => (unionMark kind).toList ++ t.toList

theorem toList_union (kind : UnionKind) (first : String) (more : List String) :
    (text (.union kind (first :: more))).toList =
      "SELECT * FROM ".toList ++ (first.toList ++ unionTail kind more) := by
  unfold unionTail text
  induction more generalizing first with
  | nil => simp
  | cons second more ih =>
    have hmark : (unionMark kind).toList =
        (" " ++ kind.keyword ++ " ").toList ++ "SELECT * FROM ".toList := by
      simp only [unionMark, String.toList_append, List.append_assoc]
      rfl
    have hmore := ih second
    simp only [List.map_cons, String.toList_intercalate] at hmore ⊢
    rw [List.intercalate_cons_cons, hmore, List.flatMap_cons, hmark]
    simp only [String.toList_append, List.append_assoc]

theorem readUnionMark?_append (kind : UnionKind) (s : List Char) :
    readChoice? unionMark [.distinct, .all] ((unionMark kind).toList ++ s) = some (kind, s) := by
  cases kind <;> rfl

theorem endsName_unionTail (kind : UnionKind) (tables : List String) :
    EndsName (unionTail kind tables) := by
  cases tables with
  | nil => nofun
  | cons t more =>
    rw [unionTail, List.flatMap_cons, List.append_assoc]
    exact endsName_append _ (by cases kind <;> decide) _

theorem readUnionParts?_tail (kind : UnionKind) {tables : List String}
    (htables : ∀ t ∈ tables, IsIdentifier t) {fuel : Nat} (hfuel : tables.length ≤ fuel) :
    readUnionParts? fuel (unionTail kind tables) = some (tables.map fun t => (kind, t)) := by
  induction tables generalizing fuel with
  | nil => cases fuel <;> rfl
  | cons t more ih =>
    obtain ⟨fuel, rfl⟩ : ∃ n, fuel = n + 1 :=
      ⟨fuel - 1, by simp only [List.length_cons] at hfuel; omega⟩
    obtain ⟨ht, hmore⟩ := List.forall_mem_cons.mp htables
    have hname := readName?_append ht (endsName_unionTail kind more)
    have hrest := ih hmore (Nat.le_of_succ_le_succ hfuel)
    have htail : unionTail kind (t :: more) =
        (unionMark kind).toList ++ (t.toList ++ unionTail kind more) := by
      rw [unionTail, List.flatMap_cons, List.append_assoc, unionTail]
    -- the reader stops at the empty text only, even without fuel
    have hsome : unionTail kind (t :: more) ≠ [] := by
      rw [htail]
      cases kind <;> exact List.cons_ne_nil _ _
    rw [readUnionParts?]
    · rw [htail, readUnionMark?_append]
      simp only [hname, hrest, Option.bind_eq_bind, Option.bind_some, List.map_cons]
    · exact hsome

theorem length_le_unionTail (kind : UnionKind) (tables : List String) :
    tables.length ≤ (unionTail kind tables).length := by
  have hmark : 0 < (unionMark kind).toList.length := by cases kind <;> decide
  unfold unionTail
  induction tables with
  | nil => exact Nat.zero_le _
  | cons t more ih =>
    rw [List.flatMap_cons, List.length_append, List.length_append, List.length_cons]
    omega

/-- The statement of a union consists of a part for every table, in order, and of its keyword before every part
but the first. -/
theorem unionParts?_text (kind : UnionKind) {first : String} {more : List String}
    (h : ∀ t ∈ first :: more, IsIdentifier t) :
    unionParts? (text (.union kind (first :: more))).toList =
      some (first, more.map fun t => (kind, t)) := by
  obtain ⟨hfirst, hmore⟩ := List.forall_mem_cons.mp h
  have hname := readName?_append hfirst (endsName_unionTail kind more)
  have hparts := readUnionParts?_tail kind hmore (length_le_unionTail kind more)
  rw [toList_union, unionParts?, after?_append]
  simp only [hname, hparts, Option.bind_eq_bind, Option.bind_some]

theorem readUnion?_text {kind : UnionKind} {tables : List String} (h : IsRegular (.union kind tables)) :
    readUnion? (text (.union kind tables)).toList = some (.union kind tables) := by
  obtain ⟨hlength, htables⟩ := h
  rcases tables with _ | ⟨first, _ | ⟨second, more⟩⟩
  · simp at hlength
  · simp at hlength
  · rw [readUnion?, unionParts?_text kind htables]
    simp [Function.comp_def]

/-! Lists of columns. -/

theorem readSelect?_text {columns : List String} {source : String}
    (h : IsRegular (.select columns source)) :
    readSelect? (text (.select columns source)).toList = some (.select columns source) := by
  obtain ⟨hne, hcolumns, hsource⟩ := h
  have hlist := readListed?_commaList hne (fun c hc => itemReads_name (hcolumns c hc))
    (.table source.toList) rfl
  rw [List.map_id] at hlist
  unfold text
  simp only [String.toList_append, List.append_assoc, readSelect?, after?_append, hlist,
    readName?_end hsource, Option.bind_eq_bind, Option.bind_some, finished?, if_true]

theorem readSort?_text {source : String} {keys : List SortKey} (h : IsRegular (.sort source keys)) :
    readSort? (text (.sort source keys)).toList = some (.sort source keys) := by
  obtain ⟨hne, hkeys, hsource⟩ := h
  have hlist := readListed?_commaList hne (fun k hk => itemReads_sortKey (hkeys k hk)) .end rfl
  rw [List.append_nil] at hlist
  unfold text
  simp only [String.toList_append, List.append_assoc, readSort?, after?_append, hlist,
    readName?_mark " ORDER BY " hsource (by decide), Option.bind_eq_bind, Option.bind_some, finished?,
    if_true]

theorem readAggregate?_text {aggregations : List Aggregation} {source : String}
    (h : IsRegular (.aggregate aggregations source)) :
    readAggregate? (text (.aggregate aggregations source)).toList =
      some (.aggregate aggregations source) := by
  obtain ⟨hne, haggregations, hsource⟩ := h
  have hlist := readListed?_commaList hne (fun a ha => itemReads_aggregation (haggregations a ha))
    (.table source.toList) rfl
  unfold text
  simp only [String.toList_append, List.append_assoc, readAggregate?, after?_append, hlist,
    readName?_end hsource, Option.bind_eq_bind, Option.bind_some, finished?, if_true]

def selected (keys : List String) (aggregations : List Aggregation) : List (String ⊕ Aggregation) :=
  keys.map .inl ++ aggregations.map .inr

theorem commaList_append {items items' : List String} (h : items ≠ []) (h' : items' ≠ []) :
    commaList (items ++ items') = commaList items ++ ", " ++ commaList items' := by
  induction items with
  | nil => exact absurd rfl h
  | cons first more ih =>
    cases more with
    | nil =>
      cases items' with
      | nil => exact absurd rfl h'
      | cons second more => simp [commaList]
    | cons second more =>
      have hmore := ih (List.cons_ne_nil _ _)
      simp only [commaList, List.cons_append, String.intercalate_cons_cons] at hmore ⊢
      rw [hmore]
      simp only [String.append_assoc]

theorem text_group {keys : List String} (hne : keys ≠ []) (aggregations : List Aggregation)
    (source : String) : text (.group keys aggregations source) =
      "SELECT " ++ commaList ((selected keys aggregations).map selectedText) ++ " FROM " ++ source ++
        " GROUP BY " ++ commaList keys := by
  have htexts : (selected keys aggregations).map selectedText =
      keys ++ aggregations.map Aggregation.text := by
    simp [selected, selectedText, Function.comp_def]
  unfold text
  cases aggregations with
  | nil => simp [selected, selectedText, Function.comp_def]
  | cons a more =>
    have hsome : (a :: more).map Aggregation.text ≠ [] := List.cons_ne_nil _ _
    rw [htexts, commaList_append hne hsome]
    simp only [List.isEmpty_cons, Bool.false_eq_true, if_false]

theorem readGroup?_text {keys : List String} {aggregations : List Aggregation} {source : String}
    (h : IsRegular (.group keys aggregations source)) :
    readGroup? (text (.group keys aggregations source)).toList =
      some (.group keys aggregations source) := by
  obtain ⟨hne, hkeys, haggregations, hsource⟩ := h
  have hselected : ∀ a ∈ selected keys aggregations, ItemReads readSelected? selectedText a := by
    simp only [selected, List.forall_mem_append, List.forall_mem_map]
    exact ⟨fun k hk => itemReads_key (hkeys k hk), fun a ha => itemReads_selected (haggregations a ha)⟩
  have hsome : selected keys aggregations ≠ [] := by simp [selected, hne]
  have hlist := readListed?_commaList hsome hselected
    (.table (source.toList ++ (" GROUP BY ".toList ++ (commaList keys).toList))) rfl
  have hlast := readListed?_commaList hne (fun k hk => itemReads_name (hkeys k hk)) .end rfl
  rw [List.map_id, List.append_nil] at hlast
  have haggregated : (selected keys aggregations).filterMap Sum.getRight? = aggregations := by
    simp [selected, List.filterMap_append, List.filterMap_map, Function.comp_def]
  rw [text_group hne]
  simp only [String.toList_append, List.append_assoc, readGroup?, after?_append, hlist, hlast,
    readName?_mark " GROUP BY " hsource (by decide), haggregated, Option.bind_eq_bind, Option.bind_some,
    finished?, if_true]

/-- A regular query is read back from its statement. -/
theorem read?_text {q : Query} (h : q.IsRegular) : read? q.kind q.text = some q := by
  cases q with
  | join => exact readJoin?_text h
  | union => exact readUnion?_text h
  | select => exact readSelect?_text h
  | sort => exact readSort?_text h
  | group => exact readGroup?_text h
  | aggregate => exact readAggregate?_text h
  | table | filter | custom => cases h

end StagedSql.Query
