import StagedSql.Proofs.Text.Blank
import StagedSql.TableName
import StagedSql.Text.Case

/-!
# Identifiers

A letter or an underscore, then letters, digits and underscores. An identifier holds nothing that is cut off or
that has an upper case outside ASCII, so a name that is trimmed and put in upper case stays one.
-/

namespace StagedSql

namespace Identifier

theorem toNat_of_isPart {c : Char} (h : isPart c) : c.toNat < 0x80 := by
  simp only [isPart, isStart, Text.isAsciiDigit, Bool.or_eq_true, Bool.and_eq_true, decide_eq_true_eq,
    Char.le_def, UInt32.le_iff_toNat_le] at h
  have hbound : c.toNat = c.val.toNat := rfl
  have hupper : ('Z').val.toNat = 90 := rfl
  have hlower : ('z').val.toNat = 122 := rfl
  have hdigit : ('9').val.toNat = 57 := rfl
  rcases h with ((⟨-, h⟩ | ⟨-, h⟩) | rfl) | ⟨-, h⟩
  · omega
  · omega
  · decide
  · omega

theorem forall_of_ascii {P : Char → Prop} [DecidablePred P]
    (h : ∀ n < 0x80, isPart (Char.ofNat n) → P (Char.ofNat n)) {c : Char} (hc : isPart c) : P c := by
  have hn := h c.toNat (toNat_of_isPart hc)
  rw [Char.ofNat_toNat] at hn
  exact hn hc

theorem isBlank_of_isPart {c : Char} : isPart c → Text.isBlank c = false :=
  forall_of_ascii (P := fun c => Text.isBlank c = false) (by decide)

theorem isPart_toUpper {c : Char} : isPart c → isPart c.toUpper :=
  forall_of_ascii (P := fun c => isPart c.toUpper) (by decide)

theorem isStart_toUpper {c : Char} (h : isStart c) : isStart c.toUpper :=
  forall_of_ascii (P := fun c => isStart c → isStart c.toUpper) (by decide)
    (by rw [isPart, h, Bool.true_or]) h

theorem upperChars_eq_map {s : List Char} (h : ∀ c ∈ s, isPart c) :
    Text.upperChars s = s.map Char.toUpper := by
  have hsingle : ∀ c ∈ s, Text.upperChar c = [c.toUpper] := fun c hc =>
    Text.upperChar_ascii (toNat_of_isPart (h c hc))
  rw [Text.upperChars, List.flatMap_congr hsingle, List.map_eq_flatMap]

theorem isPart_of_toUpper {c : Char} (h : isPart c.toUpper) : isPart c := by
  unfold Char.toUpper at h
  split at h
  · next hlower =>
    have hrange : ('a' ≤ c && c ≤ 'z') = true := by
      rw [Bool.and_eq_true, decide_eq_true_eq, decide_eq_true_eq]
      exact hlower
    simp [isPart, isStart, hrange]
  · exact h

theorem upper_stripped_spelled {word s : String} (hword : ∀ c ∈ word.toList, isPart c)
    {before letters after : List Char} (hs : s.toList = before ++ letters ++ after)
    (hbefore : ∀ c ∈ before, Text.isBlank c) (hafter : ∀ c ∈ after, Text.isBlank c)
    (hletters : letters.map Char.toUpper = word.toList) : Text.upper (Text.stripped s) = word := by
  have hparts : ∀ c ∈ letters, isPart c := fun c hc =>
    isPart_of_toUpper (hword c.toUpper (hletters ▸ List.mem_map_of_mem hc))
  have htrim : Text.trim s.toList = letters := by
    rw [hs]
    exact Text.trim_surrounded hbefore (fun c hc => isBlank_of_isPart (hparts c hc)) hafter
  rw [Text.upper, Text.stripped, String.toList_ofList, htrim, upperChars_eq_map hparts, hletters,
    String.ofList_toList]

theorem mem_withoutLineEnd {s : List Char} {c : Char} (h : c ∈ s) : c ∈ withoutLineEnd s ∨ c = '\n' := by
  unfold withoutLineEnd
  split
  · next hlast =>
    rw [← List.dropLast_append_getLast? '\n' hlast] at h
    simpa using h
  · exact .inl h

theorem forall_withoutLineEnd_iff {s : List Char} : (∀ c ∈ withoutLineEnd s, isPart c) ↔
    (∀ c ∈ s, isPart c) ∨ ∃ front, (∀ c ∈ front, isPart c) ∧ s = front ++ ['\n'] := by
  have hline : ¬ isPart '\n' := by decide
  unfold withoutLineEnd
  split
  · next hlast =>
    have hsplit := List.dropLast_append_getLast? '\n' hlast
    constructor
    · exact fun h => .inr ⟨s.dropLast, h, hsplit.symm⟩
    · rintro (h | ⟨front, h, rfl⟩)
      · exact absurd (h _ (List.mem_of_getLast? hlast)) hline
      · rwa [List.dropLast_concat]
  · next hlast =>
    refine ⟨.inl, ?_⟩
    rintro (h | ⟨front, -, rfl⟩)
    · exact h
    · exact absurd List.getLast?_concat hlast

theorem isPart_of_isSafe {name : String} (h : isSafe name) {c : Char} (hc : c ∈ name.toList) :
    isPart c ∨ c = '\n' := by
  unfold isSafe at h
  split at h
  · exact absurd h Bool.false_ne_true
  · next first rest hchars =>
    obtain ⟨hfirst, hrest⟩ := (Bool.and_eq_true_iff).mp h
    rw [hchars] at hc
    rcases List.mem_cons.mp hc with rfl | hc
    · exact .inl (by rw [isPart, hfirst, Bool.true_or])
    · exact (mem_withoutLineEnd hc).imp_left fun hmem => List.all_eq_true.mp hrest c hmem

theorem not_mem_of_isSafe {name : String} (h : isSafe name) {c : Char} (hpart : ¬ isPart c)
    (hline : c ≠ '\n') : c ∉ name.toList :=
  fun hmem => (isPart_of_isSafe h hmem).elim hpart hline

end Identifier

/-- A letter or an underscore, then letters, digits and underscores. -/
def IsIdentifier (s : String) : Prop :=
  s.toList.head?.any Identifier.isStart ∧ ∀ c ∈ s.toList, Identifier.isPart c

instance : DecidablePred IsIdentifier := fun s =>
  decidable_of_iff ((s.toList.head?.any Identifier.isStart && s.toList.all Identifier.isPart) = true)
    (by rw [Bool.and_eq_true, List.all_eq_true, IsIdentifier])

section

variable {s : String}

theorem IsIdentifier.ne_nil (h : IsIdentifier s) : s.toList ≠ [] := by
  intro hnil
  rw [IsIdentifier, hnil] at h
  exact Bool.false_ne_true h.1

theorem IsIdentifier.upper_stripped (h : IsIdentifier s) : IsIdentifier (Text.upper (Text.stripped s)) := by
  have hstripped : Text.stripped s = s := by
    rw [Text.stripped, Text.trim_eq_self fun c hc => Identifier.isBlank_of_isPart (h.2 c hc),
      String.ofList_toList]
  rw [hstripped, IsIdentifier, Text.upper, String.toList_ofList, Identifier.upperChars_eq_map h.2]
  obtain ⟨hstart, hparts⟩ := h
  constructor
  · obtain ⟨c, hc, hc'⟩ := (Option.any_eq_true _ _).mp hstart
    rw [List.head?_map, hc]
    exact Identifier.isStart_toUpper hc'
  · intro c hc
    obtain ⟨d, hd, rfl⟩ := List.mem_map.mp hc
    exact Identifier.isPart_toUpper (hparts d hd)

theorem isIdentifier_iff_of_cons {first : Char} {rest : List Char}
    (h : s.toList = first :: rest) :
    IsIdentifier s ↔ Identifier.isStart first ∧ ∀ c ∈ rest, Identifier.isPart c := by
  rw [IsIdentifier, h, List.head?_cons, Option.any_some, List.forall_mem_cons]
  exact and_congr_right fun hstart => and_iff_right (by rw [Identifier.isPart, hstart, Bool.true_or])

theorem not_isIdentifier_append_lineEnd (t : String) : ¬ IsIdentifier (t ++ "\n") := by
  intro h
  have hmem : '\n' ∈ (t ++ "\n").toList := by
    rw [String.toList_append]
    exact List.mem_append_right _ (by decide)
  have hpart := h.2 _ hmem
  revert hpart
  decide

theorem Identifier.isSafe_iff :
    isSafe s = true ↔ IsIdentifier s ∨ ∃ t, IsIdentifier t ∧ s = t ++ "\n" := by
  have hend : "\n".toList = ['\n'] := by decide
  unfold isSafe
  cases hs : s.toList with
  | nil =>
    refine iff_of_false Bool.false_ne_true ?_
    rintro (h | ⟨t, -, rfl⟩)
    · exact h.ne_nil hs
    · simp [hend] at hs
  | cons first rest =>
    -- An identifier before the line feed begins as the whole name does.
    have hbefore : (∃ t, IsIdentifier t ∧ s = t ++ "\n") ↔
        isStart first ∧ ∃ front, (∀ c ∈ front, isPart c) ∧ rest = front ++ ['\n'] := by
      constructor
      · rintro ⟨t, ht, rfl⟩
        obtain ⟨c, front, hchars⟩ := List.exists_cons_of_ne_nil ht.ne_nil
        rw [String.toList_append, hchars, hend] at hs
        obtain ⟨rfl, rfl⟩ := List.cons.inj hs
        obtain ⟨hstart, hparts⟩ := (isIdentifier_iff_of_cons hchars).mp ht
        exact ⟨hstart, front, hparts, rfl⟩
      · rintro ⟨hstart, front, hparts, rfl⟩
        refine ⟨String.ofList (first :: front), ?_, String.toList_injective ?_⟩
        · exact (isIdentifier_iff_of_cons String.toList_ofList).mpr ⟨hstart, hparts⟩
        · rw [hs, String.toList_append, String.toList_ofList, hend, List.cons_append]
    rw [isIdentifier_iff_of_cons hs, hbefore, ← and_or_left, ← forall_withoutLineEnd_iff,
      Bool.and_eq_true, List.all_eq_true]

end

end StagedSql
