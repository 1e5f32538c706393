import StagedSql.Json.Reader
import StagedSql.Proofs.Value.Numerals
import StagedSql.Query.Literal

/-!
# The tokens of literals

A text is cut into words, quoted texts and marks without regard to where it comes from. The literal of a value is
cut into SQL literals, commas and balanced parentheses, with one exception: a number that is not finite is
written as a bare word, unless it stands inside an object.
-/

namespace StagedSql

/-- Every number is finite that does not stand inside an object. -/
inductive Value.IsBounded : Value → Prop
  | null : IsBounded .null
  | bool (b : Bool) : IsBounded (.bool b)
  | int (i : Int) : IsBounded (.int i)
  | float {x : Binary64} (h : x.isFinite) : IsBounded (.float x)
  | text (s : String) : IsBounded (.text s)
  | list {items : List Value} (h : ∀ v ∈ items, IsBounded v) : IsBounded (.list items)
  | object (fields : List (String × Value)) : IsBounded (.object fields)

namespace Query

/-! ### Cutting a text -/

inductive LiteralToken where
  | word (s : List Char)
  | text (s : List Char)
  | unclosed
  | comma
  | openList
  | closeList
  deriving DecidableEq, Repr

/-- Where the pass stands; `atQuote` is behind a quote that ends the text unless another one follows. Characters
of a word or text are kept last first. -/
inductive Lexing where
  | between
  | inWord (chars : List Char)
  | inText (chars : List Char)
  | atQuote (chars : List Char)

def mark? (c : Char) : Option LiteralToken :=
  match c with
  | ',' => some .comma
  | '(' => some .openList
  | ')' => some .closeList
  | _ => none

def isSeparator (c : Char) : Bool := c = ' ' || (mark? c).isSome

/-- What a character between tokens begins, and the token that it is itself. -/
def enter (c : Char) : Lexing × List LiteralToken :=
  if c = ' ' then (.between, [])
  else if c = '\'' then (.inText [], [])
  else
    match mark? c with
    | some t => (.between, [t])
    | none => (.inWord [c], [])

def tokensFrom : Lexing → List Char → List LiteralToken
  | .between, [] => []
  | .inWord w, [] => [.word w.reverse]
  | .inText _, [] => [.unclosed]
  | .atQuote s, [] => [.text s.reverse]
  | .between, c :: rest => (enter c).2 ++ tokensFrom (enter c).1 rest
  | .inWord w, c :: rest =>
    if isSeparator c || c = '\'' then .word w.reverse :: ((enter c).2 ++ tokensFrom (enter c).1 rest)
    else tokensFrom (.inWord (c :: w)) rest
  | .inText s, c :: rest => tokensFrom (if c = '\'' then .atQuote s else .inText (c :: s)) rest
  | .atQuote s, c :: rest =>
    if c = '\'' then tokensFrom (.inText ('\'' :: s)) rest
    else .text s.reverse :: ((enter c).2 ++ tokensFrom (enter c).1 rest)

def literalTokens (s : String) : List LiteralToken := tokensFrom .between s.toList

example : literalTokens "(-1, 'it''s', ab)" =
    [.openList, .word ['-', '1'], .comma, .text "it's".toList, .comma, .word ['a', 'b'],
      .closeList] := by decide

def valueWords : List (List Char) := ["NULL".toList, "true".toList, "false".toList]

/-- A literal of the language, or a mark between literals. -/
def LiteralToken.IsLiteral : LiteralToken → Prop
  | .word s => s ∈ valueWords ∨ Value.IsNumeral s
  | .text _ | .comma | .openList | .closeList => True
  | .unclosed => False

inductive Balanced : List LiteralToken → Prop
  | nil : Balanced []
  | token {t : LiteralToken} (hopen : t ≠ .openList) (hclose : t ≠ .closeList) : Balanced [t]
  | append {ts ts' : List LiteralToken} (h : Balanced ts) (h' : Balanced ts') : Balanced (ts ++ ts')
  | enclosed {ts : List LiteralToken} (h : Balanced ts) : Balanced (.openList :: ts ++ [.closeList])

/-! ### Parts of a text -/

/-- The text ends here, or goes on with a blank or a mark. -/
def Ends (rest : List Char) : Prop := ∀ c ∈ rest.head?, isSeparator c

/-- The characters are cut into these tokens wherever they stand before an end. -/
def Cuts (s : List Char) (ts : List LiteralToken) : Prop :=
  ∀ rest, Ends rest → tokensFrom .between (s ++ rest) = ts ++ tokensFrom .between rest

section

variable {s s' rest : List Char} {ts ts' : List LiteralToken} {c : Char} {t : LiteralToken}

theorem Ends.nil : Ends [] := nofun

theorem Ends.cons (h : isSeparator c) (rest : List Char) : Ends (c :: rest) := by
  rintro _ ⟨⟩
  exact h

theorem Cuts.nil : Cuts [] [] := fun _ _ => rfl

theorem isSeparator_of_mark (h : mark? c = some t) : isSeparator c := by
  simp [isSeparator, h]

theorem enter_mark (h : mark? c = some t) : enter c = (.between, [t]) := by
  unfold mark? at h
  split at h <;> cases h <;> rfl

theorem ne_quote_of_isSeparator (h : isSeparator c) : c ≠ '\'' := by
  rintro rfl
  exact absurd h (by decide)

theorem Cuts.append_mark (hs : Cuts s ts) (hm : mark? c = some t) (hs' : Cuts s' ts') :
    Cuts (s ++ c :: s') (ts ++ t :: ts') := by
  intro rest hrest
  have hbegin : tokensFrom .between (c :: (s' ++ rest)) = t :: tokensFrom .between (s' ++ rest) := by
    rw [tokensFrom, enter_mark hm, List.singleton_append]
  rw [List.append_assoc, List.cons_append, hs _ (.cons (isSeparator_of_mark hm) _), hbegin,
    hs' _ hrest, List.append_assoc, List.cons_append]

theorem Cuts.cons_mark (hm : mark? c = some t) (h : Cuts s ts) : Cuts (c :: s) (t :: ts) :=
  Cuts.nil.append_mark hm h

theorem Cuts.cons_blank (h : Cuts s ts) : Cuts (' ' :: s) ts := h

theorem tokensFrom_word (hs : ∀ c ∈ s, isSeparator c = false ∧ c ≠ '\'') (w : List Char)
    (hrest : Ends rest) : tokensFrom (.inWord w) (s ++ rest) =
      .word (w.reverse ++ s) :: tokensFrom .between rest := by
  induction s generalizing w with
  | nil =>
    cases rest with
    | nil => simp [tokensFrom]
    | cons c rest => simp [tokensFrom, hrest c rfl]
  | cons c s ih =>
    obtain ⟨⟨hseparator, hquote⟩, hs⟩ := List.forall_mem_cons.mp hs
    simp [tokensFrom, hseparator, hquote, ih hs]

theorem cuts_word (hne : s ≠ []) (hs : ∀ c ∈ s, isSeparator c = false ∧ c ≠ '\'') :
    Cuts s [.word s] := by
  intro rest hrest
  cases s with
  | nil => exact absurd rfl hne
  | cons c s =>
    obtain ⟨⟨hseparator, hquote⟩, hs⟩ := List.forall_mem_cons.mp hs
    simp only [isSeparator, Bool.or_eq_false_iff, decide_eq_false_iff_not,
      Option.isSome_eq_false_iff, Option.isNone_iff_eq_none] at hseparator
    have henter : enter c = (.inWord [c], []) := by
      simp [enter, hseparator.1, hquote, hseparator.2]
    rw [List.cons_append, tokensFrom, henter, List.nil_append, tokensFrom_word hs _ hrest]
    rfl

theorem tokensFrom_text (s before : List Char) (hrest : Ends rest) :
    tokensFrom (.inText before) (Text.doubleQuotes s ++ '\'' :: rest) =
      .text (before.reverse ++ s) :: tokensFrom .between rest := by
  induction s generalizing before with
  | nil =>
    cases rest with
    | nil => simp [tokensFrom]
    | cons c rest => simp [tokensFrom, ne_quote_of_isSeparator (hrest c rfl)]
  | cons c s ih =>
    have hcons : Text.doubleQuotes (c :: s) =
        (if c = '\'' then ['\'', '\''] else [c]) ++ Text.doubleQuotes s := rfl
    by_cases hquote : c = '\''
    · subst hquote
      simp [hcons, tokensFrom, ih]
    · simp [hcons, tokensFrom, hquote, ih]

theorem cuts_quotedLiteral (s : List Char) : Cuts (quotedLiteral s) [.text s] := by
  intro rest hrest
  have henter : enter '\'' = (.inText [], []) := rfl
  rw [quotedLiteral, List.append_assoc, List.cons_append, tokensFrom, henter]
  simpa using tokensFrom_text s [] hrest

/-! ### Literals -/

theorem not_isSeparator_of_isWordChar (h : Json.isWordChar c) : isSeparator c = false ∧ c ≠ '\'' := by
  constructor
  · refine Bool.eq_false_iff.mpr fun hseparator => ?_
    unfold isSeparator mark? at hseparator
    split at hseparator
    · exact absurd h (by decide)
    · exact absurd h (by decide)
    · exact absurd h (by decide)
    · obtain rfl : c = ' ' := by simpa using hseparator
      exact absurd h (by decide)
  · rintro rfl
    exact absurd h (by decide)

end

mutual

def literalTokensOf : Value → List LiteralToken
  | .null => [.word "NULL".toList]
  | .bool true => [.word "true".toList]
  | .bool false => [.word "false".toList]
  | .int i => [.word (Value.intChars i)]
  | .float x => [.word (Value.floatChars x)]
  | .text s => [.text s.toList]
  | .list items => .openList :: literalTokensOfItems items ++ [.closeList]
  | .object fields => [.text (Value.shownChars (.object fields))]

def literalTokensOfItems : List Value → List LiteralToken
  | [] => []
  | [v] => literalTokensOf v
  | v :: w :: rest => literalTokensOf v ++ .comma :: literalTokensOfItems (w :: rest)

end

theorem cuts_wordChars {s : List Char} (hne : s ≠ []) (hs : s.all Json.isWordChar) :
    Cuts s [.word s] :=
  cuts_word hne fun c hc => not_isSeparator_of_isWordChar (List.all_eq_true.mp hs c hc)

theorem cuts_intChars (i : Int) : Cuts (Value.intChars i) [.word (Value.intChars i)] :=
  cuts_word (Json.intChars_ne_nil i) fun _ hc => not_isSeparator_of_isWordChar (Json.isWordChar_intChars hc)

theorem cuts_floatChars (x : Binary64) : Cuts (Value.floatChars x) [.word (Value.floatChars x)] := by
  cases x with
  | finite negative m e =>
    exact cuts_word (Json.layout_ne_nil _ _ _) fun _ hc => not_isSeparator_of_isWordChar
      (Json.isWordChar_layout (fun _ hd => Json.isWordChar_of_isDigit ((Value.isDigits_shortest m e).2 _ hd))
        _ _ _ hc)
  | infinite negative => cases negative <;> exact cuts_wordChars (by decide) (by decide)
  | nan => exact cuts_wordChars (by decide) (by decide)

mutual

/-- The literal for a value is cut into its tokens. -/
theorem cuts_literalChars : ∀ v, Cuts (literalChars v) (literalTokensOf v)
  | .null => cuts_wordChars (by decide) (by decide)
  | .bool true => cuts_wordChars (by decide) (by decide)
  | .bool false => cuts_wordChars (by decide) (by decide)
  | .int i => cuts_intChars i
  | .float x => cuts_floatChars x
  | .text s => cuts_quotedLiteral s.toList
  | .list items => ((cuts_literalItems items).append_mark rfl .nil).cons_mark rfl
  | .object fields => cuts_quotedLiteral _

theorem cuts_literalItems : ∀ items, Cuts (literalItems items) (literalTokensOfItems items)
  | [] => .nil
  | [v] => cuts_literalChars v
  | v :: w :: rest => by
    have hmore := (cuts_literalChars v).append_mark (c := ',') rfl
      (cuts_literalItems (w :: rest)).cons_blank
    simpa [literalItems, literalTokensOfItems] using hmore

end

theorem literalTokens_literal (v : Value) : literalTokens (literal v) = literalTokensOf v := by
  have hcuts := cuts_literalChars v [] .nil
  rw [List.append_nil] at hcuts
  rw [literalTokens, literal, String.toList_ofList, hcuts]
  exact List.append_nil _

mutual

theorem balanced_literalTokensOf : ∀ v, Balanced (literalTokensOf v)
  | .null | .bool true | .bool false | .int _ | .float _ | .text _ | .object _ => .token nofun nofun
  | .list items => (balanced_literalTokensOfItems items).enclosed

theorem balanced_literalTokensOfItems : ∀ items, Balanced (literalTokensOfItems items)
  | [] => .nil
  | [v] => balanced_literalTokensOf v
  | v :: w :: rest =>
    have hcomma : Balanced [.comma] := .token nofun nofun
    (balanced_literalTokensOf v).append (hcomma.append (balanced_literalTokensOfItems (w :: rest)))

end

/-! ### What is no literal -/

/-- A word that a number is written with which is not finite. -/
def LiteralToken.IsUnbounded (t : LiteralToken) : Prop :=
  ∃ x : Binary64, x.isFinite = false ∧ t = .word (Value.floatChars x)

theorem forall_mem_literalTokensOfItems {P : LiteralToken → Prop} (hcomma : P .comma)
    (items : List Value) : (∀ t ∈ literalTokensOfItems items, P t) ↔
      ∀ v ∈ items, ∀ t ∈ literalTokensOf v, P t := by
  induction items with
  | nil => simp [literalTokensOfItems]
  | cons v rest ih =>
    cases rest with
    | nil => simp [literalTokensOfItems]
    | cons w rest => simp only [literalTokensOfItems, List.forall_mem_append, List.forall_mem_cons, hcomma,
        true_and, ih]

theorem forall_mem_literalTokensOf_list {P : LiteralToken → Prop} (hcomma : P .comma)
    (hopen : P .openList) (hclose : P .closeList) (items : List Value) :
    (∀ t ∈ literalTokensOf (.list items), P t) ↔ ∀ v ∈ items, ∀ t ∈ literalTokensOf v, P t := by
  simp [literalTokensOf, hopen, hclose, forall_mem_literalTokensOfItems hcomma, or_imp, forall_and]

theorem isLiteral_word_int (i : Int) : (LiteralToken.word (Value.intChars i)).IsLiteral :=
  .inr (Value.isNumeral_intChars i)

theorem isLiteral_word_float_iff (x : Binary64) :
    (LiteralToken.word (Value.floatChars x)).IsLiteral ↔ x.isFinite := by
  have hwords : x.isFinite = false → Value.floatChars x ∉ valueWords := by
    cases x with
    | finite negative m e => nofun
    | infinite negative => cases negative <;> decide
    | nan => decide
  constructor
  · rintro (hword | hnumeral)
    · exact Bool.of_not_eq_false fun hunbounded => hwords hunbounded hword
    · exact (Value.isNumeral_floatChars_iff x).mp hnumeral
  · exact fun hfinite => .inr ((Value.isNumeral_floatChars_iff x).mpr hfinite)

mutual

theorem isLiteral_tokens_iff : ∀ v : Value, (∀ t ∈ literalTokensOf v, t.IsLiteral) ↔ v.IsBounded
  | .null => iff_of_true (List.forall_mem_singleton.mpr (.inl (by decide))) .null
  | .bool true => iff_of_true (List.forall_mem_singleton.mpr (.inl (by decide))) (.bool true)
  | .bool false => iff_of_true (List.forall_mem_singleton.mpr (.inl (by decide))) (.bool false)
  | .int i => iff_of_true (List.forall_mem_singleton.mpr (isLiteral_word_int i)) (.int i)
  | .float x => by
    rw [literalTokensOf, List.forall_mem_singleton, isLiteral_word_float_iff]
    exact ⟨.float, fun h => by cases h; assumption⟩
  | .text s => iff_of_true (List.forall_mem_singleton.mpr trivial) (.text s)
  | .list items => by
    rw [forall_mem_literalTokensOf_list trivial trivial trivial, isLiteral_items_iff]
    exact ⟨.list, fun h => by cases h; assumption⟩
  | .object fields => iff_of_true (List.forall_mem_singleton.mpr trivial) (.object fields)

theorem isLiteral_items_iff : ∀ items : List Value,
    (∀ v ∈ items, ∀ t ∈ literalTokensOf v, t.IsLiteral) ↔ ∀ v ∈ items, v.IsBounded
  | [] => iff_of_true (List.forall_mem_nil _) (List.forall_mem_nil _)
  | v :: rest => by
    rw [List.forall_mem_cons, List.forall_mem_cons, isLiteral_tokens_iff v, isLiteral_items_iff rest]

end

mutual

theorem isLiteral_or_isUnbounded : ∀ v : Value, ∀ t ∈ literalTokensOf v, t.IsLiteral ∨ t.IsUnbounded
  | .null => List.forall_mem_singleton.mpr (.inl (.inl (by decide)))
  | .bool true => List.forall_mem_singleton.mpr (.inl (.inl (by decide)))
  | .bool false => List.forall_mem_singleton.mpr (.inl (.inl (by decide)))
  | .int i => List.forall_mem_singleton.mpr (.inl (isLiteral_word_int i))
  | .float x => List.forall_mem_singleton.mpr ((Bool.eq_false_or_eq_true x.isFinite).imp
      (isLiteral_word_float_iff x).mpr fun h => ⟨x, h, rfl⟩)
  | .text _ => List.forall_mem_singleton.mpr (.inl trivial)
  | .list items => by
    rw [forall_mem_literalTokensOf_list (.inl trivial) (.inl trivial) (.inl trivial)]
    exact isLiteral_or_isUnbounded_items items
  | .object _ => List.forall_mem_singleton.mpr (.inl trivial)

theorem isLiteral_or_isUnbounded_items : ∀ items : List Value,
    ∀ v ∈ items, ∀ t ∈ literalTokensOf v, t.IsLiteral ∨ t.IsUnbounded
  | [] => List.forall_mem_nil _
  | v :: rest => List.forall_mem_cons.mpr
      ⟨isLiteral_or_isUnbounded v, isLiteral_or_isUnbounded_items rest⟩

end

/-- The literal of every value is cut into tokens with balanced parentheses. All of them are literals, commas
and parentheses exactly if every number outside objects is finite, and the only other ones are the words for a
number that is not. -/
theorem literalTokens_literal_iff (v : Value) : Balanced (literalTokens (literal v)) ∧
    ((∀ t ∈ literalTokens (literal v), t.IsLiteral) ↔ v.IsBounded) ∧
    ∀ t ∈ literalTokens (literal v), t.IsLiteral ∨ t.IsUnbounded := by
  rw [literalTokens_literal]
  exact ⟨balanced_literalTokensOf v, isLiteral_tokens_iff v, isLiteral_or_isUnbounded v⟩

/-- A numeral of the interchange format beyond the range of numbers is read as an infinity, and that is written
as a word. -/
theorem beyondRange_is_no_literal :
    Json.read "1e999".toList = .ok (.float (.infinite false)) ∧
      literalTokens (literal (.float (.infinite false))) = [.word "inf".toList] ∧
      ¬ (LiteralToken.word "inf".toList).IsLiteral :=
  ⟨by decide +kernel, by decide, fun h => nomatch (isLiteral_word_float_iff (.infinite false)).mp h⟩

end Query

end StagedSql
