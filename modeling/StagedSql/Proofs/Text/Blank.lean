import Mathlib.Data.List.DropRight
import StagedSql.Text.Blank

/-!
# Texts between blanks

Trimming takes away the blanks on both sides of a text, and nothing else.
-/

namespace StagedSql.Text

/-- Nothing is left to trim: there is no blank at either end. -/
structure Flush (s : List Char) : Prop where
  head : ∀ c ∈ s.head?, isBlank c = false
  last : ∀ c ∈ s.getLast?, isBlank c = false

/-- Trimming gives the one part without blanks at its ends that has only blanks around it. -/
theorem trim_between {before s after : List Char} (hbefore : ∀ c ∈ before, isBlank c) (hs : Flush s)
    (hafter : ∀ c ∈ after, isBlank c) : trim (before ++ s ++ after) = s := by
  rw [trim, List.append_assoc, List.dropWhile_append_of_pos hbefore]
  cases s with
  | nil =>
    rw [List.nil_append, List.dropWhile_eq_nil_iff.mpr hafter]
    rfl
  | cons c rest =>
    have hc : isBlank c = false := hs.head c rfl
    rw [List.cons_append, List.dropWhile_cons_of_neg (by simp [hc]), ← List.cons_append, dropTrailing,
      List.reverse_append, List.dropWhile_append_of_pos fun a ha => hafter a (List.mem_reverse.mp ha)]
    have hlast : (c :: rest).rdropWhile isBlank = c :: rest := by
      refine List.rdropWhile_eq_self_iff.mpr fun hne => ?_
      rw [hs.last _ (List.getLast_mem_getLast? hne)]
      exact Bool.false_ne_true
    exact hlast

theorem Flush.of_solid {s : List Char} (hs : ∀ c ∈ s, isBlank c = false) : Flush s :=
  ⟨fun c hc => hs c (List.mem_of_mem_head? hc), fun c hc => hs c (List.mem_of_getLast? hc)⟩

theorem trim_surrounded {before s after : List Char} (hbefore : ∀ c ∈ before, isBlank c)
    (hs : ∀ c ∈ s, isBlank c = false) (hafter : ∀ c ∈ after, isBlank c) :
    trim (before ++ s ++ after) = s :=
  trim_between hbefore (.of_solid hs) hafter

theorem isBlank_last_rdropWhile {s : List Char} {c : Char}
    (h : c ∈ (s.rdropWhile isBlank).getLast?) : isBlank c = false := by
  obtain ⟨hne, rfl⟩ := List.mem_getLast?_eq_getLast h
  simpa using List.rdropWhile_last_not isBlank _ hne

theorem exists_eq_trim (s : List Char) :
    ∃ before after, s = before ++ trim s ++ after ∧ Flush (trim s) ∧
      (∀ c ∈ before, isBlank c) ∧ ∀ c ∈ after, isBlank c := by
  have htrim : trim s = (s.dropWhile isBlank).rdropWhile isBlank := rfl
  refine ⟨s.takeWhile isBlank, (s.dropWhile isBlank).rtakeWhile isBlank, ?_,
    ⟨?_, fun c hc => isBlank_last_rdropWhile (htrim ▸ hc)⟩,
    fun c hc => List.mem_takeWhile_imp hc, fun c hc => List.mem_rtakeWhile_imp hc⟩
  · rw [htrim, List.append_assoc, List.rdropWhile_append_rtakeWhile, List.takeWhile_append_dropWhile]
  · intro c hc
    rw [htrim] at hc
    have hhead := List.head?_dropWhile_not isBlank s
    obtain ⟨rest, hrest⟩ := List.rdropWhile_prefix isBlank (s.dropWhile isBlank)
    rw [← hrest, List.head?_append, hc] at hhead
    exact hhead

theorem trim_of_flush {s : List Char} (hs : Flush s) : trim s = s := by
  have hbetween : trim ([] ++ s ++ []) = s := trim_between nofun hs nofun
  rwa [List.append_nil] at hbetween

theorem trim_eq_self {s : List Char} (hs : ∀ c ∈ s, isBlank c = false) : trim s = s :=
  trim_of_flush (.of_solid hs)

theorem trim_trim (s : List Char) : trim (trim s) = trim s := by
  obtain ⟨-, -, -, hs, -, -⟩ := exists_eq_trim s
  exact trim_of_flush hs

theorem trim_cons_of_isBlank {c : Char} (hc : isBlank c) (s : List Char) : trim (c :: s) = trim s := by
  rw [trim, List.dropWhile_cons_of_pos hc, ← trim]

theorem trim_append_of_isBlank (s : List Char) {after : List Char} (hafter : ∀ c ∈ after, isBlank c) :
    trim (s ++ after) = trim s := by
  obtain ⟨first, last, hsplit, hs, hfirst, hlast⟩ := exists_eq_trim s
  conv_lhs => rw [hsplit, List.append_assoc]
  exact trim_between hfirst hs (List.forall_mem_append.mpr ⟨hlast, hafter⟩)

theorem exists_trim_append_cons (s : List Char) {d : Char} (hd : isBlank d = false) (rest : List Char) :
    ∃ blanks more, trim (s ++ d :: rest) = trim s ++ (blanks ++ d :: more) ∧
      ∀ c ∈ blanks, isBlank c := by
  obtain ⟨more, last, hrest, hlast, hmore⟩ : ∃ more last, rest = more ++ last ∧
      (∀ c ∈ last, isBlank c) ∧ ∀ c ∈ (d :: more).getLast?, isBlank c = false := by
    refine ⟨rest.rdropWhile isBlank, rest.rtakeWhile isBlank,
      List.rdropWhile_append_rtakeWhile.symm, fun c hc => List.mem_rtakeWhile_imp hc, fun c hc => ?_⟩
    rw [List.getLast?_cons] at hc
    cases hend : (rest.rdropWhile isBlank).getLast? with
    | none =>
      rw [hend] at hc
      obtain rfl : d = c := Option.some.inj hc
      exact hd
    | some e =>
      rw [hend] at hc
      obtain rfl : e = c := Option.some.inj hc
      exact isBlank_last_rdropWhile hend
  obtain ⟨before, after, hsplit, hs, hbefore, hafter⟩ := exists_eq_trim s
  cases htrim : trim s with
  | nil =>
    have hblank : ∀ c ∈ s, isBlank c := by
      rw [hsplit, htrim, List.append_nil]
      exact List.forall_mem_append.mpr ⟨hbefore, hafter⟩
    refine ⟨[], more, ?_, nofun⟩
    have hwhole : s ++ d :: rest = s ++ d :: more ++ last := by simp [hrest]
    rw [hwhole]
    exact trim_between hblank ⟨by simpa using hd, hmore⟩ hlast
  | cons c middle =>
    refine ⟨after, more, ?_, hafter⟩
    have hwhole : s ++ d :: rest = before ++ (c :: middle ++ (after ++ d :: more)) ++ last := by
      rw [hrest]
      conv_lhs => rw [hsplit, htrim]
      simp
    rw [htrim] at hs
    rw [hwhole]
    refine trim_between hbefore ⟨hs.head, ?_⟩ hlast
    rw [← List.append_assoc, List.getLast?_append_of_ne_nil _ (List.cons_ne_nil _ _)]
    exact hmore

end StagedSql.Text
