import StagedSql.Value.Display
import StagedSql.Proofs.Json.RoundTrip

/-!
# Numbers are written as numerals

A numeral is a decimal with an optional sign, fraction and exponent. Whole numbers and finite fractions of
every size are written as one. The infinities and the value that is no number are written as words, which
hold no digit.
-/

namespace StagedSql.Value

/-! ### Numerals -/

def IsDigits (s : List Char) : Prop := s ≠ [] ∧ ∀ c ∈ s, c.isDigit

def IsSign (s : List Char) : Prop := s = [] ∨ s = ['-'] ∨ s = ['+']

inductive IsFraction : List Char → Prop
  | absent : IsFraction []
  | point {s : List Char} (h : IsDigits s) : IsFraction ('.' :: s)

inductive IsExponent : List Char → Prop
  | absent : IsExponent []
  | power {mark : Char} {sign s : List Char} (hmark : mark = 'e' ∨ mark = 'E') (hsign : IsSign sign)
      (h : IsDigits s) : IsExponent (mark :: sign ++ s)

/-- A decimal with an optional sign, fraction and exponent. -/
inductive IsNumeral : List Char → Prop
  | mk {sign whole fraction exponent : List Char} (hsign : IsSign sign) (hwhole : IsDigits whole)
      (hfraction : IsFraction fraction) (hexponent : IsExponent exponent) :
      IsNumeral (sign ++ (whole ++ fraction ++ exponent))

section

variable {s t : List Char}

theorem IsDigits.append (hs : IsDigits s) (ht : ∀ c ∈ t, c.isDigit) : IsDigits (s ++ t) :=
  ⟨List.append_ne_nil_of_left_ne_nil hs.1 _, List.forall_mem_append.mpr ⟨hs.2, ht⟩⟩

theorem isDigit_zeros (n : Nat) : ∀ c ∈ List.replicate n '0', c.isDigit := by
  intro c hc
  rw [List.eq_of_mem_replicate hc]
  decide

theorem IsDigits.zeros_append (hs : IsDigits s) (n : Nat) : IsDigits (List.replicate n '0' ++ s) :=
  ⟨List.append_ne_nil_of_right_ne_nil _ hs.1, List.forall_mem_append.mpr ⟨isDigit_zeros n, hs.2⟩⟩

theorem isDigits_toDigits (n : Nat) : IsDigits (Nat.toDigits 10 n) :=
  ⟨Nat.toDigits_ne_nil, fun _ hc => Nat.isDigit_of_mem_toDigits (by decide) (by decide) hc⟩

theorem IsNumeral.exists_digit (h : IsNumeral s) : ∃ c ∈ s, c.isDigit := by
  obtain ⟨-, ⟨hne, hdigits⟩, -, -⟩ := h
  obtain ⟨c, hc⟩ := List.exists_mem_of_ne_nil _ hne
  exact ⟨c, by simp [hc], hdigits c hc⟩

theorem isNumeral_intChars (i : Int) : IsNumeral (intChars i) := by
  have hminus : IsSign ['-'] := .inr (.inl rfl)
  have hnone : IsSign [] := .inl rfl
  have hdigits := isDigits_toDigits i.natAbs
  unfold intChars
  split
  · simpa using IsNumeral.mk hminus hdigits .absent .absent
  · simpa using IsNumeral.mk hnone hdigits .absent .absent

end

/-! ### The digits of a fraction -/

theorem pos_of_nearestNeighbour? {m a b c : Nat} {narrow : Bool} (hm : 0 < m) (ha : 0 < a)
    (h : Binary64.nearestNeighbour? m narrow a b = some c) : 0 < c := by
  have hzero : Binary64.readsBack m narrow a b 0 = false := by
    have hgap : a < a * (if narrow then 4 * m else 2 * m) := by
      split
      · exact (Nat.lt_mul_iff_one_lt_right ha).mpr (by omega)
      · exact (Nat.lt_mul_iff_one_lt_right ha).mpr (by omega)
    have hnone : ¬ (a * (if narrow then 4 * m else 2 * m) ≤ a) := Nat.not_le.mpr hgap
    simp only [Binary64.readsBack, Nat.zero_mul, Nat.zero_le, if_true, Nat.sub_zero, hnone,
      Nat.not_lt_of_lt hgap, decide_false, ite_self]
  rcases Nat.eq_zero_or_pos (a / b) with hlow | hlow
  · unfold Binary64.nearestNeighbour? at h
    simp only [hlow, hzero, Bool.false_and, Bool.false_eq_true, if_false] at h
    split at h
    · rw [← Option.some.inj h]
      omega
    · cases h
  · unfold Binary64.nearestNeighbour? at h
    dsimp only at h
    grind

theorem digits_decimalOf_ne_nil {c : Nat} (hc : 0 < c) (s : Int) :
    (Binary64.decimalOf c s).digits ≠ [] := by
  intro hnil
  -- only zeros would be cut off at the end, and a positive number does not begin with one
  have hzeros := List.dropWhile_eq_nil_iff.mp (List.reverse_eq_nil_iff.mp hnil)
  cases hdigits : Nat.toDigits 10 c with
  | nil => exact Nat.toDigits_ne_nil hdigits
  | cons d rest =>
    have hd : d = '0' := by
      simpa using hzeros d (by rw [hdigits]; simp)
    refine Json.head_toDigits hc ?_
    rw [hdigits, hd]
    rfl

theorem onGrid_pos {num : Nat} (h : 0 < num) (den : Nat) (s : Int) :
    0 < (Binary64.onGrid num den s).1 := by
  unfold Binary64.onGrid
  split
  · exact h
  · exact Nat.mul_pos h (Nat.pow_pos (by decide))

theorem scaleDown_pos {num : Nat} (h : 0 < num) (den : Nat) (e : Int) :
    0 < (Binary64.scaleDown num den e).1 := by
  unfold Binary64.scaleDown
  split
  · exact h
  · exact Nat.mul_pos h (Nat.pow_pos (by decide))

theorem digits_shortest_ne_nil (m : Nat) (e : Int) : (Binary64.shortest m e).digits ≠ [] := by
  have hzero : ['0'] ≠ [] := List.cons_ne_nil _ _
  unfold Binary64.shortest
  split
  · exact hzero
  · next hm =>
    have hm : 0 < m := Nat.pos_of_ne_zero hm
    dsimp only
    generalize hfound : List.findSome? _ _ = found
    cases found with
    | none => exact hzero
    | some d =>
      obtain ⟨n, -, hn⟩ := List.exists_of_findSome?_eq_some hfound
      obtain ⟨c, hc, rfl⟩ := Option.map_eq_some_iff.mp hn
      exact digits_decimalOf_ne_nil
        (pos_of_nearestNeighbour? hm (onGrid_pos (scaleDown_pos hm _ _) _ _) hc) _

theorem isDigits_shortest (m : Nat) (e : Int) : IsDigits (Binary64.shortest m e).digits :=
  ⟨digits_shortest_ne_nil m e, fun _ hc => Json.isDigit_of_mem_shortest hc⟩

/-! ### Layout -/

section

variable {d : Binary64.Decimal} (h : IsDigits d.digits)
include h

theorem positional_eq : ∃ whole fraction, Binary64.Layout.positional d = whole ++ '.' :: fraction ∧
    IsDigits whole ∧ IsDigits fraction := by
  unfold Binary64.Layout.positional
  split
  · exact ⟨['0'], _, rfl, ⟨List.cons_ne_nil _ _, isDigit_zeros 1⟩, h.zeros_append _⟩
  · next hpoint =>
    dsimp only
    split
    · exact ⟨_, ['0'], rfl, h.append (isDigit_zeros _), List.cons_ne_nil _ _, isDigit_zeros 1⟩
    · next hlength =>
      refine ⟨_, _, rfl, ⟨?_, ?_⟩, ?_, ?_⟩
      · have hpos : d.point.toNat ≠ 0 := by omega
        simp [List.take_eq_nil_iff, hpos, h.1]
      · exact fun c hc => h.2 c (List.mem_of_mem_take hc)
      · simp only [ne_eq, List.drop_eq_nil_iff]
        omega
      · exact fun c hc => h.2 c (List.mem_of_mem_drop hc)

theorem scientific_eq (l : Binary64.Layout) : ∃ whole fraction exponent,
    l.scientific d = whole ++ fraction ++ exponent ∧ IsDigits whole ∧ IsFraction fraction ∧
      IsExponent exponent := by
  have hsign : IsSign (if d.point - 1 < 0 then ['-'] else if l.plusSign then ['+'] else []) := by
    unfold IsSign
    grind
  have hexponent := IsExponent.power (.inl rfl) hsign ((isDigits_toDigits (d.point - 1).natAbs).zeros_append
    (l.exponentWidth - (Nat.toDigits 10 (d.point - 1).natAbs).length))
  unfold Binary64.Layout.scientific
  dsimp only
  split
  · next first second more heq =>
    rw [heq] at h
    have hfirst : IsDigits [first] := ⟨by simp, by simpa using h.2 first (by simp)⟩
    have hmore : IsDigits (second :: more) := ⟨by simp, fun c hc => h.2 c (List.mem_cons_of_mem _ hc)⟩
    exact ⟨[first], '.' :: second :: more, _, by simp, hfirst, .point hmore, hexponent⟩
  · exact ⟨d.digits, [], _, by simp, h, .absent, hexponent⟩

theorem isNumeral_write (l : Binary64.Layout) (negative : Bool) : IsNumeral (l.write negative d) := by
  have hsign : IsSign (if negative then ['-'] else []) := by
    cases negative
    · exact .inl rfl
    · exact .inr (.inl rfl)
  unfold Binary64.Layout.write
  generalize (if negative then ['-'] else []) = sign at hsign ⊢
  split
  · obtain ⟨whole, fraction, heq, hwhole, hfraction⟩ := positional_eq h
    rw [heq, ← List.append_nil (whole ++ _)]
    exact .mk hsign hwhole (.point hfraction) .absent
  · obtain ⟨whole, fraction, exponent, heq, hwhole, hfraction, hexponent⟩ := scientific_eq h l
    rw [heq]
    exact .mk hsign hwhole hfraction hexponent

end

/-- The finite numbers, and no others, are written as numerals. -/
theorem isNumeral_floatChars_iff (x : Binary64) : IsNumeral (floatChars x) ↔ x.isFinite := by
  have hword : ∀ w : List Char, w.any Char.isDigit = false → ¬ IsNumeral w := by
    intro w hw hnumeral
    obtain ⟨c, hc, hdigit⟩ := hnumeral.exists_digit
    exact List.any_eq_false.mp hw c hc hdigit
  cases x with
  | finite negative m e =>
    exact iff_of_true (isNumeral_write (isDigits_shortest m e) _ _) rfl
  | infinite negative =>
    refine iff_of_false (hword _ ?_) nofun
    cases negative <;> decide
  | nan => exact iff_of_false (hword _ (by decide)) nofun

example : floatChars (.ofDecimal true 15 16) = "-1.5e+17".toList := by decide +kernel

end StagedSql.Value
