import StagedSql.Json.Writer
import StagedSql.Json.Token

/-!
# The tokens of a written value

A written value is cut into the tokens that it was put together from. Words end where a mark follows
them, so a part of the text is cut the same way wherever it stands.
-/

namespace StagedSql

namespace Json

/-! ### Tokens -/

mutual

def tokensOf : Value → List Token
  | .null => [.word "null".toList]
  | .bool true => [.word "true".toList]
  | .bool false => [.word "false".toList]
  | .int i => [.word (Value.intChars i)]
  | .float x => [.word ((x.text? numbers).getD "null".toList)]
  | .text s => [.text s.toList]
  | .list items => .openList :: tokensOfItems items ++ [.closeList]
  | .object fields => .openObject :: tokensOfFields fields ++ [.closeObject]

def tokensOfItems : List Value → List Token
  | [] => []
  | [v] => tokensOf v
  | v :: w :: rest => tokensOf v ++ .comma :: tokensOfItems (w :: rest)

def tokensOfFields : List (String × Value) → List Token
  | [] => []
  | [(k, v)] => .text k.toList :: .colon :: tokensOf v
  | (k, v) :: f :: rest =>
    .text k.toList :: .colon :: tokensOf v ++ .comma :: tokensOfFields (f :: rest)

end

/-- The pass with the word that it stands in, if any, put among the tokens. -/
def settle : Lexing × List Token → Lexing × List Token
  | (.inWord chars, tokens) => (.idle, .word chars.reverse :: tokens)
  | st => st

theorem step_settle {c : Char} (h : isWordChar c = false) (st : Lexing × List Token) :
    step (settle st) c = step st c := by
  obtain ⟨lexing, tokens⟩ := st
  cases lexing with
  | inWord chars => simp [settle, step, h]
  | _ => rfl

theorem finish_settle (st : Lexing × List Token) : finish (settle st) = finish st := by
  obtain ⟨lexing, tokens⟩ := st
  cases lexing <;> rfl

/-- The characters are cut into these tokens, whatever has been read before. -/
def Cuts (s : List Char) (ts : List Token) : Prop :=
  ∀ before, settle (s.foldl step (.idle, before)) = (.idle, ts.reverse ++ before)

section

variable {s s' : List Char} {ts ts' : List Token} {c : Char} {t : Token}

theorem Cuts.nil : Cuts [] [] := fun _ => rfl

theorem Cuts.tokens_eq (h : Cuts s ts) : tokens s = ts := by
  have hcut := h []
  unfold tokens
  rw [← finish_settle, hcut]
  simp [finish]

theorem stepIdle_mark (h : mark? c = some t) (before : List Token) :
    stepIdle before c = (.idle, t :: before) := by
  unfold mark? at h
  split at h <;> cases h <;> rfl

theorem isWordChar_of_mark (h : mark? c = some t) : isWordChar c = false := by
  unfold mark? at h
  split at h <;> cases h <;> rfl

theorem Cuts.append_mark (hs : Cuts s ts) (hm : mark? c = some t) (hs' : Cuts s' ts') :
    Cuts (s ++ c :: s') (ts ++ t :: ts') := by
  intro before
  have hstep : step (s.foldl step (.idle, before)) c = (.idle, t :: (ts.reverse ++ before)) := by
    rw [← step_settle (isWordChar_of_mark hm), hs before]
    exact stepIdle_mark hm _
  rw [List.foldl_append, List.foldl_cons, hstep, hs']
  simp

theorem Cuts.cons_mark (hm : mark? c = some t) (h : Cuts s ts) : Cuts (c :: s) (t :: ts) :=
  Cuts.nil.append_mark hm h

end

/-! ### Words -/

theorem foldl_word {chars : List Char} (h : ∀ c ∈ chars, isWordChar c) (read : List Char)
    (before : List Token) :
    chars.foldl step (.inWord read, before) = (.inWord (chars.reverse ++ read), before) := by
  induction chars generalizing read with
  | nil => rfl
  | cons c rest ih =>
    have hc : step (.inWord read, before) c = (.inWord (c :: read), before) := by
      simp [step, h c (List.mem_cons_self ..)]
    rw [List.foldl_cons, hc, ih fun d hd => h d (List.mem_cons_of_mem _ hd)]
    simp

theorem stepIdle_word {c : Char} (h : isWordChar c) (before : List Token) :
    stepIdle before c = (.inWord [c], before) := by
  have hblank : isJsonBlank c = false := by
    refine Bool.eq_false_iff.mpr fun hblank => ?_
    simp only [isJsonBlank, Bool.or_eq_true, decide_eq_true_eq] at hblank
    obtain ((rfl | rfl) | rfl) | rfl := hblank <;> exact absurd h (by decide)
  have hquote : c ≠ '"' := by
    rintro rfl
    exact absurd h (by decide)
  simp [stepIdle, hblank, hquote, h]

theorem cuts_word {chars : List Char} (hne : chars ≠ []) (h : ∀ c ∈ chars, isWordChar c) :
    Cuts chars [.word chars] := by
  intro before
  cases chars with
  | nil => exact absurd rfl hne
  | cons c rest =>
    have hfirst : step (.idle, before) c = (.inWord [c], before) :=
      stepIdle_word (h c (List.mem_cons_self ..)) before
    rw [List.foldl_cons, hfirst, foldl_word fun d hd => h d (List.mem_cons_of_mem _ hd)]
    simp [settle]

theorem mem_intChars {i : Int} {c : Char} (h : c ∈ Value.intChars i) : c = '-' ∨ c.isDigit := by
  have hdigit : c ∈ Nat.toDigits 10 i.natAbs → c.isDigit := fun hc =>
    Nat.isDigit_of_mem_toDigits (by decide) (by decide) hc
  unfold Value.intChars at h
  split at h
  · rcases List.mem_cons.mp h with h | h
    · exact .inl h
    · exact .inr (hdigit h)
  · exact .inr (hdigit h)

theorem intChars_ne_nil (i : Int) : Value.intChars i ≠ [] := by
  unfold Value.intChars
  split
  · exact List.cons_ne_nil _ _
  · exact Nat.toDigits_ne_nil

theorem isWordChar_of_isDigit {c : Char} (h : c.isDigit) : isWordChar c := by
  simp [isWordChar, Char.isAlphanum, h]

theorem isWordChar_intChars {i : Int} {c : Char} (h : c ∈ Value.intChars i) : isWordChar c := by
  rcases mem_intChars h with rfl | hdigit
  · decide
  · exact isWordChar_of_isDigit hdigit

theorem isDigit_of_mem_shortest {m : Nat} {e : Int} {c : Char}
    (h : c ∈ (Binary64.shortest m e).digits) : c.isDigit := by
  have hdecimal : ∀ (n : Nat) (s : Int), c ∈ (Binary64.decimalOf n s).digits → c.isDigit := by
    intro n s hc
    have hmem := List.mem_reverse.mp ((List.dropWhile_sublist _).mem (List.mem_reverse.mp hc))
    exact Nat.isDigit_of_mem_toDigits (by decide) (by decide) hmem
  have hzero : c ∈ ['0'] → c.isDigit := by
    intro hc
    rw [List.mem_singleton.mp hc]
    decide
  unfold Binary64.shortest at h
  split at h
  · exact hzero h
  · dsimp only at h
    generalize hfound : List.findSome? _ _ = found at h
    cases found with
    | none => exact hzero h
    | some d =>
      obtain ⟨n, -, hn⟩ := List.exists_of_findSome?_eq_some hfound
      obtain ⟨digits, -, rfl⟩ := Option.map_eq_some_iff.mp hn
      exact hdecimal _ _ h

theorem isWordChar_toDigits (n : Nat) : ∀ c ∈ Nat.toDigits 10 n, isWordChar c := fun _ hc =>
  isWordChar_of_isDigit (Nat.isDigit_of_mem_toDigits (by decide) (by decide) hc)

theorem isWordChar_zeros (n : Nat) : ∀ c ∈ List.replicate n '0', isWordChar c := by
  intro c hc
  rw [List.eq_of_mem_replicate hc]
  decide

section

variable {d : Binary64.Decimal} (h : ∀ c ∈ d.digits, isWordChar c)
include h

theorem isWordChar_positional : ∀ c ∈ Binary64.Layout.positional d, isWordChar c := by
  unfold Binary64.Layout.positional
  split
  · simp only [List.cons_append, List.forall_mem_cons, List.forall_mem_append]
    exact ⟨by decide, by decide, isWordChar_zeros _, h⟩
  · dsimp only
    split
    · simp only [List.forall_mem_append]
      exact ⟨⟨h, isWordChar_zeros _⟩, List.all_eq_true.mp (by decide)⟩
    · simp only [List.forall_mem_append, List.forall_mem_cons]
      exact ⟨fun c hc => h c (List.mem_of_mem_take hc), by decide,
        fun c hc => h c (List.mem_of_mem_drop hc)⟩

theorem isWordChar_scientific (l : Binary64.Layout) : ∀ c ∈ l.scientific d, isWordChar c := by
  have hsign : ∀ c ∈ (if d.point - 1 < 0 then ['-'] else if l.plusSign then ['+'] else []),
      isWordChar c := by
    split
    · exact List.all_eq_true.mp (by decide)
    · split
      · exact List.all_eq_true.mp (by decide)
      · simp
  simp only [Binary64.Layout.scientific, List.forall_mem_append, List.forall_mem_cons]
  refine ⟨⟨⟨?_, by decide, hsign⟩, isWordChar_zeros _⟩, isWordChar_toDigits _⟩
  split
  · next first second more heq =>
    rw [heq] at h
    simp only [List.forall_mem_cons] at h ⊢
    exact ⟨h.1, by decide, h.2⟩
  · exact h

theorem isWordChar_layout (l : Binary64.Layout) (negative : Bool) :
    ∀ c ∈ l.write negative d, isWordChar c := by
  unfold Binary64.Layout.write
  refine List.forall_mem_append.mpr ⟨?_, ?_⟩
  · cases negative <;> exact List.all_eq_true.mp (by decide)
  · split
    · exact isWordChar_positional h
    · exact isWordChar_scientific h l

end

def floatChars (x : Binary64) : List Char := (x.text? numbers).getD "null".toList

theorem isWordChar_floatChars {x : Binary64} {c : Char} (h : c ∈ floatChars x) : isWordChar c := by
  have hnull : ∀ c ∈ "null".toList, isWordChar c := List.all_eq_true.mp (by decide)
  cases x with
  | finite negative m e =>
    exact isWordChar_layout (fun d hd => isWordChar_of_isDigit (isDigit_of_mem_shortest hd)) _ _ c h
  | infinite negative => exact hnull c h
  | nan => exact hnull c h

theorem layout_ne_nil (l : Binary64.Layout) (negative : Bool) (d : Binary64.Decimal) :
    l.write negative d ≠ [] := by
  have hpositional : Binary64.Layout.positional d ≠ [] := by
    unfold Binary64.Layout.positional
    dsimp only
    split
    · simp
    · split <;> simp
  have hscientific : l.scientific d ≠ [] := by simp [Binary64.Layout.scientific]
  unfold Binary64.Layout.write
  refine List.append_ne_nil_of_right_ne_nil _ ?_
  split
  · exact hpositional
  · exact hscientific

theorem floatChars_ne_nil (x : Binary64) : floatChars x ≠ [] := by
  have hnull : "null".toList ≠ [] := by decide
  cases x with
  | finite negative m e => exact layout_ne_nil _ _ _
  | infinite negative => exact hnull
  | nan => exact hnull

/-! ### Texts -/

theorem isHighUnit_toNat (c : Char) : isHighUnit c.toNat = false ∧ isLowUnit c.toNat = false := by
  have hvalid := c.valid
  simp only [UInt32.isValidChar, Nat.isValidChar] at hvalid
  have htoNat : c.toNat = c.val.toNat := rfl
  constructor
  · simp only [isHighUnit, Bool.and_eq_false_iff, decide_eq_false_iff_not]
    omega
  · simp only [isLowUnit, Bool.and_eq_false_iff, decide_eq_false_iff_not]
    omega

theorem unitChar_toNat (c : Char) : unitChar c.toNat = c := by
  obtain ⟨hhigh, hlow⟩ := isHighUnit_toNat c
  simp [unitChar, hhigh, hlow]

theorem joinUnits_toNat (s : List Char) : joinUnits (s.map Char.toNat) = s := by
  induction s with
  | nil => rfl
  | cons c rest ih =>
    cases rest with
    | nil => simp [joinUnits, unitChar_toNat]
    | cons d more =>
      have hhigh := (isHighUnit_toNat c).1
      simp only [List.map_cons] at ih
      simp [joinUnits, hhigh, unitChar_toNat, ih]

theorem hexValue?_digitChar : ∀ d < 16, Text.hexValue? (Nat.digitChar d) = some d := by decide

theorem hexDigits_four {n : Nat} (h : n < 0x20) :
    Text.hexDigits 4 n = ['0', '0', Nat.digitChar (n / 16), Nat.digitChar (n % 16)] := by
  have hzero : n / 16 / 16 = 0 := by omega
  have hsmall : n / 16 % 16 = n / 16 := by omega
  simp [Text.hexDigits, hzero, hsmall]

theorem foldl_escapeChar (c : Char) (units : List Nat) (before : List Token) :
    (escapeChar c).foldl step (.inText units, before) = (.inText (c.toNat :: units), before) := by
  unfold escapeChar
  split
  · rfl
  · rfl
  · rfl
  · rfl
  · rfl
  next hquote hslash _ _ _ =>
    split
    · next hcode => rw [hcode]; rfl
    split
    · next hcode => rw [hcode]; rfl
    split
    · next hcontrol =>
      have hzero : Text.hexValue? '0' = some 0 := by decide
      have hhigh := hexValue?_digitChar (c.toNat / 16) (by omega)
      have hlow := hexValue?_digitChar (c.toNat % 16) (by omega)
      have hcode : c.toNat / 16 * 16 + c.toNat % 16 = c.toNat := by omega
      rw [hexDigits_four hcontrol]
      simp [step, hzero, hhigh, hlow, hcode]
    · next hplain =>
      have hquote : c ≠ '"' := hquote
      have hslash : c ≠ '\\' := hslash
      simp [step, hquote, hslash, hplain]

/-- Only the quote, the backslash and the control characters are escaped. -/
theorem escapeChar_eq_self_iff (c : Char) :
    escapeChar c = [c] ↔ c ≠ '"' ∧ c ≠ '\\' ∧ 0x20 ≤ c.toNat := by
  unfold escapeChar
  split
  · simp
  · simp
  · simp
  · simp
  · simp
  next hquote hslash _ _ _ =>
    have hquote : c ≠ '"' := hquote
    have hslash : c ≠ '\\' := hslash
    split
    · next hcode => simp [hcode]
    split
    · next hcode => simp [hcode]
    split
    · next hcontrol => simp [Nat.not_le.mpr hcontrol]
    · next hplain => simp [hquote, hslash, Nat.not_lt.mp hplain]

theorem foldl_escaped (s : List Char) (units : List Nat) (before : List Token) :
    (s.flatMap escapeChar).foldl step (.inText units, before) =
      (.inText ((s.map Char.toNat).reverse ++ units), before) := by
  induction s generalizing units with
  | nil => rfl
  | cons c rest ih =>
    rw [List.flatMap_cons, List.foldl_append, foldl_escapeChar, ih]
    simp

theorem cuts_text {s s' : List Char} {ts : List Token} (h : Cuts s' ts) :
    Cuts (textChars s ++ s') (.text s :: ts) := by
  intro before
  have hopen : step (.idle, before) '"' = (.inText [], before) := rfl
  have hclose : step (.inText ((s.map Char.toNat).reverse ++ []), before) '"' =
      (.idle, .text s :: before) := by
    simp [step, joinUnits_toNat]
  have hs := h (.text s :: before)
  rw [textChars, List.cons_append, List.cons_append, List.foldl_cons, hopen, List.foldl_append,
    List.foldl_append, foldl_escaped, List.foldl_cons, hclose, List.foldl_nil, hs]
  simp

/-! ### Values -/

mutual

/-- A written value is cut into its tokens. -/
theorem cuts_write : ∀ v, Cuts (write v) (tokensOf v)
  | .null => cuts_word (by decide) (List.all_eq_true.mp (by decide))
  | .bool true => cuts_word (by decide) (List.all_eq_true.mp (by decide))
  | .bool false => cuts_word (by decide) (List.all_eq_true.mp (by decide))
  | .int i => cuts_word (intChars_ne_nil i) fun _ hc => isWordChar_intChars hc
  | .float x => cuts_word (floatChars_ne_nil x) fun _ hc => isWordChar_floatChars hc
  | .text s => by
    have htext := cuts_text (s := s.toList) Cuts.nil
    rwa [List.append_nil] at htext
  | .list items => ((cuts_items items).append_mark rfl .nil).cons_mark rfl
  | .object fields => ((cuts_fields fields).append_mark rfl .nil).cons_mark rfl

theorem cuts_items : ∀ items, Cuts (writeItems items) (tokensOfItems items)
  | [] => .nil
  | [v] => cuts_write v
  | v :: w :: rest => (cuts_write v).append_mark rfl (cuts_items (w :: rest))

theorem cuts_fields : ∀ fields, Cuts (writeFields fields) (tokensOfFields fields)
  | [] => .nil
  | [(k, v)] => cuts_text ((cuts_write v).cons_mark rfl)
  | (k, v) :: f :: rest => by
    have hmember := (cuts_write v).cons_mark (c := ':') rfl
    have htext := cuts_text (s := k.toList) (hmember.append_mark (c := ',') rfl (cuts_fields (f :: rest)))
    simpa [writeFields, tokensOfFields] using htext

end

theorem tokens_write (v : Value) : tokens (write v) = tokensOf v := (cuts_write v).tokens_eq

/-! ### One line -/

/-- There are no control characters, and so no ends of lines. -/
def Visible (s : List Char) : Prop := ∀ c ∈ s, 0x20 ≤ c.toNat

section

variable {s s' : List Char} {c : Char}

theorem Visible.nil : Visible [] := by simp [Visible]

theorem Visible.cons (hc : 0x20 ≤ c.toNat) (hs : Visible s) : Visible (c :: s) :=
  List.forall_mem_cons.mpr ⟨hc, hs⟩

theorem Visible.append (hs : Visible s) (hs' : Visible s') : Visible (s ++ s') :=
  List.forall_mem_append.mpr ⟨hs, hs'⟩

theorem visible_of_isWordChar (h : ∀ c ∈ s, isWordChar c) : Visible s := by
  have hcontrol : ∀ n < 0x20, isWordChar (Char.ofNat n) = false := by decide
  intro c hc
  refine Nat.not_lt.mp fun hlt => ?_
  have hword := hcontrol c.toNat hlt
  rw [Char.ofNat_toNat, h c hc] at hword
  cases hword

theorem visible_escapeChar (c : Char) : Visible (escapeChar c) := by
  have hhex : ∀ d < 16, 0x20 ≤ (Nat.digitChar d).toNat := by decide
  unfold escapeChar
  split
  · simp [Visible]
  · simp [Visible]
  · simp [Visible]
  · simp [Visible]
  · simp [Visible]
  next =>
    split
    · simp [Visible]
    split
    · simp [Visible]
    split
    · next hcontrol =>
      rw [hexDigits_four hcontrol]
      exact .cons (by decide) (.cons (by decide) (.cons (by decide) (.cons (by decide)
        (.cons (hhex _ (by omega)) (.cons (hhex _ (by omega)) .nil)))))
    · next hplain => exact .cons (Nat.not_lt.mp hplain) .nil

theorem visible_text (s : List Char) : Visible (textChars s) := by
  have hescaped : Visible (s.flatMap escapeChar) := by
    intro c hc
    obtain ⟨d, -, hd⟩ := List.mem_flatMap.mp hc
    exact visible_escapeChar d c hd
  exact .cons (by decide) (hescaped.append (.cons (by decide) .nil))

end

mutual

theorem visible_write : ∀ v, Visible (write v)
  | .null => visible_of_isWordChar (List.all_eq_true.mp (by decide))
  | .bool true => visible_of_isWordChar (List.all_eq_true.mp (by decide))
  | .bool false => visible_of_isWordChar (List.all_eq_true.mp (by decide))
  | .int i => visible_of_isWordChar fun _ hc => isWordChar_intChars hc
  | .float x => visible_of_isWordChar fun _ hc => isWordChar_floatChars hc
  | .text s => visible_text s.toList
  | .list items => .cons (by decide) ((visible_items items).append (.cons (by decide) .nil))
  | .object fields => .cons (by decide) ((visible_fields fields).append (.cons (by decide) .nil))

theorem visible_items : ∀ items, Visible (writeItems items)
  | [] => .nil
  | [v] => visible_write v
  | v :: w :: rest => (visible_write v).append (.cons (by decide) (visible_items (w :: rest)))

theorem visible_fields : ∀ fields, Visible (writeFields fields)
  | [] => .nil
  | [(k, v)] => (visible_text k.toList).append (.cons (by decide) (visible_write v))
  | (k, v) :: f :: rest =>
    ((visible_text k.toList).append (.cons (by decide) (visible_write v))).append
      (.cons (by decide) (visible_fields (f :: rest)))

end

end Json

end StagedSql
