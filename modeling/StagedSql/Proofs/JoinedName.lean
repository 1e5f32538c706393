import StagedSql.Proofs.EngineName

/-!
# Names of joins

The name of a join is made of the names of its tables with underscores between them, and these may hold
underscores too. So the name tells the tables only up to the underscore at which it is cut.
-/

namespace StagedSql

/-- Where a list is cut at two marks, the part between them belongs to the right of the first cut and to
the left of the second. -/
theorem append_mark_eq_iff {α : Type} {mark : α} {l m l' m' : List α} :
    l ++ mark :: m = l' ++ mark :: m' ↔
      (l = l' ∧ m = m') ∨ (∃ x, l' = l ++ mark :: x ∧ m = x ++ mark :: m') ∨
        ∃ x, l = l' ++ mark :: x ∧ m' = x ++ mark :: m := by
  constructor
  · intro h
    rcases List.append_eq_append_iff.mp h with ⟨between, hl, hm⟩ | ⟨between, hl, hm⟩
    · cases between with
      | nil => exact .inl ⟨by rw [hl, List.append_nil], (List.cons.inj hm).2⟩
      | cons first x =>
        obtain ⟨rfl, hrest⟩ := List.cons.inj hm
        exact .inr (.inl ⟨x, hl, hrest⟩)
    · cases between with
      | nil => exact .inl ⟨by rw [hl, List.append_nil], (List.cons.inj hm).2.symm⟩
      | cons first x =>
        obtain ⟨rfl, hrest⟩ := List.cons.inj hm
        exact .inr (.inr ⟨x, hl, hrest⟩)
  · rintro (⟨rfl, rfl⟩ | ⟨x, rfl, rfl⟩ | ⟨x, rfl, rfl⟩)
    · rfl
    · rw [List.append_assoc, List.cons_append]
    · rw [List.append_assoc, List.cons_append]

namespace TableName

open Identifier

/-- What follows `a` and an underscore in `c` is also what stands before an underscore and `d` in `b`. -/
def Overlaps (a b c d : String) : Prop := ∃ x, c = a ++ "_" ++ x ∧ b = x ++ "_" ++ d

/-- Two pairs of names that are one, or of which each is cut from the same text at an underscore of
its own. -/
def CutAlike (a b c d : String) : Prop := (a = c ∧ b = d) ∨ Overlaps a b c d ∨ Overlaps c d a b

variable {a b c d : String}

theorem toList_joined (left right : String) :
    (joined left right).toList = "joined_".toList ++ (left.toList ++ '_' :: right.toList) := by
  have hunder : "_".toList = ['_'] := by decide
  simp only [joined, String.toList_append, hunder, List.append_assoc, List.singleton_append]

theorem overlaps_iff : Overlaps a b c d ↔
    ∃ x, c.toList = a.toList ++ '_' :: x ∧ b.toList = x ++ '_' :: d.toList := by
  have hunder : "_".toList = ['_'] := by decide
  constructor
  · rintro ⟨x, rfl, rfl⟩
    exact ⟨x.toList, by simp [hunder], by simp [hunder]⟩
  · rintro ⟨x, hc, hb⟩
    refine ⟨String.ofList x, String.toList_injective ?_, String.toList_injective ?_⟩
    · simp [hc, hunder]
    · simp [hb, hunder]

/-- The name of a join tells the pair of its tables up to the place of the cut. -/
theorem joined_eq_iff : joined a b = joined c d ↔ CutAlike a b c d := by
  rw [← String.toList_inj, toList_joined, toList_joined, List.append_right_inj,
    append_mark_eq_iff, CutAlike, overlaps_iff, overlaps_iff, String.toList_inj,
    String.toList_inj]

instance : Decidable (CutAlike a b c d) := decidable_of_iff _ joined_eq_iff

/-! ### Views as the engine reads them -/

def lowered (name : String) : String := String.ofList (name.toList.map Char.toLower)

theorem withoutLineEnd_append_cons {c : Char} (hc : c ≠ '\n') (l m : List Char) :
    withoutLineEnd (l ++ c :: m) = l ++ c :: withoutLineEnd m := by
  cases m with
  | nil => simp [withoutLineEnd, hc]
  | cons first rest =>
    unfold withoutLineEnd
    rw [List.getLast?_append, List.getLast?_cons_cons,
      List.dropLast_append_of_ne_nil (List.cons_ne_nil _ _),
      List.dropLast_cons_of_ne_nil (List.cons_ne_nil _ _),
      List.getLast?_eq_some_getLast (List.cons_ne_nil _ _), Option.some_or]
    split <;> rfl

theorem denoted_joined (left right : String) :
    denoted (joined left right) = joined (lowered left) (denoted right) := by
  have hprefix : "joined_".toList.map Char.toLower = "joined_".toList := by decide
  apply String.toList_injective
  rw [denoted, toList_joined, toList_joined, ← List.append_assoc,
    withoutLineEnd_append_cons (by decide), lowered, denoted]
  simp only [String.toList_ofList, List.map_append, List.map_cons, hprefix, List.append_assoc]
  rfl

/-- The names of two joins stand for one view exactly if their tables, as the engine reads the names, are
cut from one text. -/
theorem sameTable_joined_iff : SameTable (joined a b) (joined c d) ↔
    CutAlike (lowered a) (denoted b) (lowered c) (denoted d) := by
  rw [SameTable, denoted_joined, denoted_joined, joined_eq_iff]

example : joined "a_b" "c" = joined "a" "b_c" := by decide
example : ¬ CutAlike "orders" "items" "orders" "items_old" := by decide

end TableName

end StagedSql
