import Mathlib.Data.List.Basic
import StagedSql.Query.Literal
import StagedSql.Proofs.Json.RoundTrip

/-!
# Reading literals back

A reader of SQL literals is stated on its own, without the writer. It takes as much of a text as one literal
needs, so a literal that stands before other text ends where the writer ended it. A value that the writer
refuses has no literal, and the values that it refuses are told by their numbers and their depth alone.
-/

namespace StagedSql

/-- A value without fractions and objects, at any depth. -/
inductive Value.IsPlain : Value → Prop
  | null : IsPlain .null
  | bool (b : Bool) : IsPlain (.bool b)
  | int (i : Int) : IsPlain (.int i)
  | text (s : String) : IsPlain (.text s)
  | list {items : List Value} (h : ∀ v ∈ items, IsPlain v) : IsPlain (.list items)

namespace Query

variable {s rest : List Char} {v : Value}

/-! ### The reader -/

/-- The characters up to the first quote that is not doubled, and the text after it. -/
def readQuoted? : List Char → Option (List Char × List Char)
  | [] => none
  | '\'' :: '\'' :: s => (readQuoted? s).map fun found => ('\'' :: found.1, found.2)
  | '\'' :: s => some ([], s)
  | c :: s => (readQuoted? s).map fun found => (c :: found.1, found.2)

def readDigits? (s : List Char) : Option (Nat × List Char) :=
  if s.takeWhile Char.isDigit = [] then none
  else some (Nat.ofDigitChars 10 (s.takeWhile Char.isDigit) 0, s.dropWhile Char.isDigit)

def readWhole? : List Char → Option (Int × List Char)
  | '-' :: s => (readDigits? s).map fun found => (-Int.ofNat found.1, found.2)
  | '+' :: s => (readDigits? s).map fun found => (Int.ofNat found.1, found.2)
  | s => (readDigits? s).map fun found => (Int.ofNat found.1, found.2)

def readSimple? : List Char → Option (Value × List Char)
  | 'N' :: 'U' :: 'L' :: 'L' :: s => some (.null, s)
  | 't' :: 'r' :: 'u' :: 'e' :: s => some (.bool true, s)
  | 'f' :: 'a' :: 'l' :: 's' :: 'e' :: s => some (.bool false, s)
  | '\'' :: s => (readQuoted? s).map fun found => (.text (String.ofList found.1), found.2)
  | s => (readWhole? s).map fun found => (.int found.1, found.2)

mutual

/-- The literal in front of a text (`fuel` bounds the recursion). -/
def readChars? : Nat → List Char → Option (Value × List Char)
  | 0, _ => none
  | _ + 1, '(' :: ')' :: rest => some (.list [], rest)
  | fuel + 1, '(' :: s =>
    match readItems? fuel s with
    | some (items, ')' :: rest) => some (.list items, rest)
    | _ => none
  | _ + 1, s => readSimple? s

def readItems? : Nat → List Char → Option (List Value × List Char)
  | 0, _ => none
  | fuel + 1, s =>
    match readChars? fuel s with
    | some (v, ',' :: ' ' :: rest) => (readItems? fuel rest).map fun found => (v :: found.1, found.2)
    | some (v, rest) => some ([v], rest)
    | none => none

end

/-- The value of the literal in front of a text, and the text after the literal. -/
def readLiteral? (s : String) : Option (Value × String) :=
  (readChars? (2 * s.length + 1) s.toList).map fun found => (found.1, String.ofList found.2)

/-! ### Texts and numbers -/

theorem readQuoted?_doubleQuotes (s : List Char) (hrest : ∀ c ∈ rest.head?, c ≠ '\'') :
    readQuoted? (Text.doubleQuotes s ++ '\'' :: rest) = some (s, rest) := by
  induction s with
  | nil =>
    cases rest with
    | nil => rfl
    | cons c rest =>
      have hc : c ≠ '\'' := hrest c rfl
      simp [readQuoted?, hc]
  | cons c s ih =>
    by_cases hc : c = '\''
    · subst hc
      show (readQuoted? (Text.doubleQuotes s ++ '\'' :: rest)).map _ = _
      rw [ih]
      rfl
    · have hcons : Text.doubleQuotes (c :: s) = c :: Text.doubleQuotes s := by
        simp [Text.doubleQuotes, hc]
      rw [hcons, List.cons_append]
      simp [readQuoted?, hc, ih]

theorem readDigits?_toDigits (n : Nat) (hrest : ∀ c ∈ rest.head?, c.isDigit = false) :
    readDigits? (Nat.toDigits 10 n ++ rest) = some (n, rest) := by
  have hdigits : ∀ c ∈ Nat.toDigits 10 n, c.isDigit := fun c hc =>
    Nat.isDigit_of_mem_toDigits (by decide) (by decide) hc
  have hsplit : rest.takeWhile Char.isDigit = [] ∧ rest.dropWhile Char.isDigit = rest := by
    cases rest with
    | nil => exact ⟨rfl, rfl⟩
    | cons c rest => simp [hrest c rfl]
  have hvalue : Nat.ofDigitChars 10 (Nat.toDigits 10 n) 0 = n := Nat.ofDigitChars_ten_toDigits
  unfold readDigits?
  rw [List.takeWhile_append_of_pos hdigits, List.dropWhile_append_of_pos hdigits, hsplit.1, hsplit.2,
    List.append_nil, if_neg Nat.toDigits_ne_nil, hvalue]

theorem readChars?_whole {c : Char} (hc : c = '-' ∨ c.isDigit) (fuel : Nat) (s : List Char) :
    readChars? (fuel + 1) (c :: s) = (readWhole? (c :: s)).map fun found => (.int found.1, found.2) := by
  have hother : ∀ d ∈ ['(', 'N', 't', 'f', '\''], c ≠ d := by
    rintro d hd rfl
    rcases hc with rfl | hdigit
    · revert hd
      decide
    · revert hdigit
      simp only [List.mem_cons, List.not_mem_nil, or_false] at hd
      rcases hd with rfl | rfl | rfl | rfl | rfl <;> decide
  simp only [List.forall_mem_cons] at hother
  obtain ⟨hopen, hnull, htrue, hfalse, hquote, -⟩ := hother
  have hsimple : readSimple? (c :: s) =
      (readWhole? (c :: s)).map fun found => (.int found.1, found.2) := by
    simp [readSimple?, hnull, htrue, hfalse, hquote]
  rw [← hsimple, readChars?]
  · simp [hopen]
  · simp [hopen]

theorem readWhole?_intChars (i : Int) (hrest : ∀ c ∈ rest.head?, c.isDigit = false) :
    readWhole? (Value.intChars i ++ rest) = some (i, rest) := by
  unfold Value.intChars
  by_cases hneg : i < 0
  · have hvalue : -Int.ofNat i.natAbs = i := by
      show -(i.natAbs : Int) = i
      rw [Int.ofNat_natAbs_of_nonpos (Int.le_of_lt hneg), Int.neg_neg]
    rw [if_pos hneg, List.cons_append, readWhole?, readDigits?_toDigits _ hrest]
    simp only [Option.map_some, hvalue]
  · have hvalue : Int.ofNat i.natAbs = i := Int.natAbs_of_nonneg (Int.not_lt.mp hneg)
    have hread := readDigits?_toDigits i.natAbs hrest
    rw [if_neg hneg]
    cases hdigits : Nat.toDigits 10 i.natAbs with
    | nil => exact absurd hdigits Nat.toDigits_ne_nil
    | cons d digits =>
      have hd : d.isDigit := Nat.isDigit_of_mem_toDigits (b := 10) (n := i.natAbs) (by decide)
        (by decide) (by rw [hdigits]; exact List.mem_cons_self ..)
      have hminus : d ≠ '-' := by rintro rfl; exact absurd hd (by decide)
      have hplus : d ≠ '+' := by rintro rfl; exact absurd hd (by decide)
      rw [hdigits] at hread
      have hbare : readWhole? (d :: digits ++ rest) =
          (readDigits? (d :: digits ++ rest)).map fun found => (Int.ofNat found.1, found.2) := by
        simp [readWhole?, hminus, hplus]
      rw [hbare, hread]
      simp only [Option.map_some, hvalue]

/-! ### Every literal -/

/-- No text that could make a literal before it longer: neither a quote nor a digit comes first. -/
def IsApart (rest : List Char) : Prop := ∀ c ∈ rest.head?, c ≠ '\'' ∧ c.isDigit = false

/-- The literal of the value is read back before every such text. Fuel for twice its length is enough, since
no more than two calls begin at the same character. -/
def ReadsBack (v : Value) : Prop :=
  ∀ (fuel : Nat) (rest : List Char), 2 * (literalChars v).length ≤ fuel → IsApart rest →
    readChars? (fuel + 1) (literalChars v ++ rest) = some (v, rest)

theorem IsApart.cons {c : Char} (hquote : c ≠ '\'') (hdigit : c.isDigit = false) (rest : List Char) :
    IsApart (c :: rest) := by
  rintro _ ⟨⟩
  exact ⟨hquote, hdigit⟩

theorem readItems?_closing (fuel : Nat) (rest : List Char) : readItems? fuel (')' :: rest) = none := by
  rcases fuel with _ | _ | fuel <;> rfl

theorem readItems?_literalItems {first : Value} {more : List Value}
    (h : ∀ v ∈ first :: more, ReadsBack v) {fuel : Nat} (rest : List Char)
    (hfuel : 2 * (literalItems (first :: more)).length ≤ fuel) :
    readItems? (fuel + 2) (literalItems (first :: more) ++ ')' :: rest) =
      some (first :: more, ')' :: rest) := by
  induction more generalizing first fuel with
  | nil =>
    rw [literalItems] at hfuel ⊢
    have hfirst := h first (List.mem_cons_self ..) fuel (')' :: rest) hfuel
      (.cons (by decide) (by decide) rest)
    rw [readItems?, hfirst]
    rfl
  | cons second more ih =>
    have hlength : (literalItems (first :: second :: more)).length =
        (literalChars first).length + 2 + (literalItems (second :: more)).length := by
      simp [literalItems]
      omega
    obtain ⟨fuel, rfl⟩ : ∃ n, fuel = n + 1 := ⟨fuel - 1, by omega⟩
    have hmore : readItems? (fuel + 2) (literalItems (second :: more) ++ ')' :: rest) =
        some (second :: more, ')' :: rest) :=
      ih (fun v hv => h v (List.mem_cons_of_mem _ hv)) (by omega)
    -- the comma stands apart from the first item, so the reading of that one ends before it
    have hfirst := h first (List.mem_cons_self ..) (fuel + 1)
      (',' :: ' ' :: (literalItems (second :: more) ++ ')' :: rest)) (by omega)
      (.cons (by decide) (by decide) _)
    have hchars : literalItems (first :: second :: more) ++ ')' :: rest =
        literalChars first ++ ',' :: ' ' :: (literalItems (second :: more) ++ ')' :: rest) := by
      simp [literalItems]
    rw [hchars, readItems?, hfirst]
    simp only [hmore, Option.map_some]

theorem readsBack_list {items : List Value} (h : ∀ v ∈ items, ReadsBack v) :
    ReadsBack (.list items) := by
  intro fuel rest hfuel hrest
  cases items with
  | nil => rfl
  | cons first more =>
    have hlength : (literalChars (.list (first :: more))).length =
        (literalItems (first :: more)).length + 2 := by
      simp [literalChars]
    obtain ⟨fuel, rfl⟩ : ∃ n, fuel = n + 2 := ⟨fuel - 2, by omega⟩
    have hitems : readItems? (fuel + 2) (literalItems (first :: more) ++ ')' :: rest) =
        some (first :: more, ')' :: rest) := readItems?_literalItems h rest (by omega)
    have hchars : literalChars (.list (first :: more)) ++ rest =
        '(' :: (literalItems (first :: more) ++ ')' :: rest) := by
      simp [literalChars]
    -- with a parenthesis that closes in front, the list would be taken for the empty one
    have hopen : ∀ s, literalItems (first :: more) ++ ')' :: rest ≠ ')' :: s := by
      intro s heq
      rw [heq, readItems?_closing] at hitems
      cases hitems
    rw [hchars, readChars?, hitems]
    · rfl
    · exact hopen

theorem readsBack_of_isPlain (hv : v.IsPlain) : ReadsBack v := by
  induction hv with
  | list _ ih => exact readsBack_list ih
  | null =>
    intro fuel rest _ _
    rfl
  | bool b =>
    intro fuel rest _ _
    cases b <;> rfl
  | int i =>
    intro fuel rest _ hrest
    have hread := readWhole?_intChars i fun c hc => (hrest c hc).2
    have hchars : literalChars (.int i) = Value.intChars i := by rw [literalChars]
    cases hdigits : Value.intChars i with
    | nil => exact absurd hdigits (Json.intChars_ne_nil i)
    | cons c digits =>
      have hc : c = '-' ∨ c.isDigit :=
        Json.mem_intChars (by rw [hdigits]; exact List.mem_cons_self ..)
      rw [hchars, hdigits, List.cons_append, readChars?_whole hc, ← List.cons_append, ← hdigits, hread]
      rfl
  | text s =>
    intro fuel rest _ hrest
    have hread := readQuoted?_doubleQuotes s.toList fun c hc => (hrest c hc).1
    have hchars : literalChars (.text s) ++ rest =
        '\'' :: (Text.doubleQuotes s.toList ++ '\'' :: rest) := by
      simp [literalChars, quotedLiteral]
    rw [hchars]
    show (readQuoted? (Text.doubleQuotes s.toList ++ '\'' :: rest)).map _ = _
    rw [hread, Option.map_some, String.ofList_toList]

theorem readLiteral?_literal (hv : v.IsPlain) {rest : String} (hrest : IsApart rest.toList) :
    readLiteral? (literal v ++ rest) = some (v, rest) := by
  have hchars : (literal v ++ rest).toList = literalChars v ++ rest.toList := by
    rw [String.toList_append, literal, String.toList_ofList]
  have hlength : (literal v ++ rest).length = (literalChars v).length + rest.toList.length := by
    rw [← String.length_toList, hchars, List.length_append]
  unfold readLiteral?
  rw [hchars, readsBack_of_isPlain hv _ _ (by omega) hrest, Option.map_some, String.ofList_toList]

theorem literal_injective {w : Value} (hv : v.IsPlain) (hw : w.IsPlain) (h : literal v = literal w) :
    v = w := by
  have hend : IsApart "".toList := nofun
  have hboth := (readLiteral?_literal hv hend).symm.trans (h ▸ readLiteral?_literal hw hend)
  exact congrArg Prod.fst (Option.some.inj hboth)

/-! ### The values that have a literal -/

theorem unwrittenItem?_eq_none_iff {room : Nat} {items : List Value} :
    unwrittenItem? room items = none ↔ ∀ v ∈ items, unwritten? room v = none := by
  induction items with
  | nil => simp [unwrittenItem?]
  | cons v rest ih => simp [unwrittenItem?, ih]

theorem exists_of_unwrittenItem? {room : Nat} {items : List Value} {p : LiteralProblem}
    (h : unwrittenItem? room items = some p) : ∃ v ∈ items, unwritten? room v = some p := by
  induction items with
  | nil => cases h
  | cons v rest ih =>
    rw [unwrittenItem?, Option.or_eq_some_iff] at h
    rcases h with hfirst | ⟨-, hrest⟩
    · exact ⟨v, List.mem_cons_self .., hfirst⟩
    · obtain ⟨w, hw, hp⟩ := ih hrest
      exact ⟨w, List.mem_cons_of_mem _ hw, hp⟩

theorem wholeProblem?_eq_none_iff {i : Int} :
    wholeProblem? i = none ↔ (Nat.toDigits 10 i.natAbs).length ≤ Text.longestWhole := by
  unfold wholeProblem?
  split
  · next hlong => simpa using hlong
  · next hshort => simpa using hshort

/-- Plain values are written under the same bounds as they are read from a JSON text, with as many lists
inside one another as there is room for their calls. -/
theorem unwritten?_eq_none_iff (hv : v.IsPlain) (room : Nat) :
    unwritten? room v = none ↔ v.Readable (room / callsPerList) := by
  induction hv generalizing room with
  | null => exact iff_of_true rfl .null
  | bool b => exact iff_of_true rfl (.bool b)
  | text s => exact iff_of_true rfl (.text s)
  | int i =>
    rw [unwritten?, wholeProblem?_eq_none_iff, Value.readable_int_iff]
  | @list items _ ih =>
    rw [unwritten?]
    split
    · next hfull =>
      have hdepth : room / callsPerList = 0 := Nat.div_eq_of_lt hfull
      rw [hdepth]
      exact iff_of_false nofun Value.not_readable_list_zero
    · next hroom =>
      have hdepth : room / callsPerList = (room - callsPerList) / callsPerList + 1 :=
        Nat.div_eq_sub_div (by decide) (Nat.not_lt.mp hroom)
      rw [hdepth, unwrittenItem?_eq_none_iff, Value.readable_list_succ_iff]
      exact forall₂_congr fun v hmem => ih v hmem _

/-- No room is enough for a whole number that is too long. -/
theorem not_readable_of_longWhole (hv : v.IsPlain) {room : Nat} (h : unwritten? room v = some .longWhole)
    (depth : Nat) : ¬ v.Readable depth := by
  induction hv generalizing room depth with
  | null | bool | text => cases h
  | int i =>
    rw [unwritten?] at h
    rw [Value.readable_int_iff, ← wholeProblem?_eq_none_iff, h]
    exact Option.some_ne_none _
  | @list items _ ih =>
    rw [unwritten?] at h
    split at h
    · cases h
    · obtain ⟨v, hmem, hlong⟩ := exists_of_unwrittenItem? h
      cases depth with
      | zero => exact Value.not_readable_list_zero
      | succ depth =>
        rw [Value.readable_list_succ_iff]
        exact fun hall => ih v hmem hlong depth (hall v hmem)

theorem render_of_readable {room : Nat} (hv : v.IsPlain) (h : v.Readable (room / callsPerList)) :
    render room v = .ok (literal v) := by
  rw [render, (unwritten?_eq_none_iff hv room).mpr h]

theorem render_of_not_readable {room : Nat} (hv : v.IsPlain) (h : ¬ v.Readable (room / callsPerList)) :
    render room v = .error .tooDeep ∨
      render room v = .error .longWhole ∧ ∀ depth, ¬ v.Readable depth := by
  obtain ⟨p, hp⟩ := Option.ne_none_iff_exists'.mp (mt (unwritten?_eq_none_iff hv room).mp h)
  have hrender : render room v = .error p := by rw [render, hp]
  cases p with
  | tooDeep => exact .inl hrender
  | longWhole => exact .inr ⟨hrender, not_readable_of_longWhole hv hp⟩

theorem eq_literal_of_render {room : Nat} {s : String} (h : render room v = .ok s) : s = literal v := by
  unfold render at h
  split at h
  · cases h
  · exact (Except.ok.inj h).symm

def disguised : Value :=
  .list [.text "NULL', ('", .list [.int (-7), .list [], .list [.text "''"]], .bool false, .null]

theorem disguised_isPlain : disguised.IsPlain := by
  refine .list (List.forall_mem_cons.mpr ⟨.text _, List.forall_mem_cons.mpr ⟨.list ?_, ?_⟩⟩)
  · exact List.forall_mem_cons.mpr ⟨.int _, List.forall_mem_cons.mpr ⟨.list nofun,
      List.forall_mem_cons.mpr ⟨.list (List.forall_mem_cons.mpr ⟨.text _, nofun⟩), nofun⟩⟩⟩
  · exact List.forall_mem_cons.mpr ⟨.bool _, List.forall_mem_cons.mpr ⟨.null, nofun⟩⟩

theorem render_longWhole {i : Int} (h : Text.longestWhole < (Nat.toDigits 10 i.natAbs).length)
    (room : Nat) : render room (.int i) = .error .longWhole := by
  have hlong : unwritten? room (.int i) = some .longWhole := by
    rw [unwritten?, wholeProblem?, if_pos h]
  rw [render, hlong]

def nested : Nat → Value
  | 0 => .int 1
  | depth + 1 => .list [nested depth]

theorem nested_isPlain (depth : Nat) : (nested depth).IsPlain := by
  induction depth with
  | zero => exact .int 1
  | succ depth ih => exact .list (List.forall_mem_cons.mpr ⟨ih, nofun⟩)

theorem render_nested {room depth : Nat} (h : room < callsPerList * depth) :
    render room (nested depth) = .error .tooDeep := by
  have hdeep : unwritten? room (nested depth) = some .tooDeep := by
    induction depth generalizing room with
    | zero => exact absurd h (Nat.not_lt_zero _)
    | succ depth ih =>
      rw [nested, unwritten?]
      split
      · rfl
      · next hroom =>
        rw [unwrittenItem?, ih (by rw [Nat.mul_succ] at h; omega), Option.some_or]
  rw [render, hdeep]

example : readLiteral? "(1, 'it''s', (), -2) AND x" =
    some (.list [.int 1, .text "it's", .list [], .int (-2)], " AND x") := by decide +kernel

end Query

end StagedSql
