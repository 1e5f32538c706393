import StagedSql.Proofs.Identifier
import StagedSql.Proofs.TableName

/-!
# Names as the engine reads them

The engine reads an unquoted name without regard to the case of its ASCII letters, and a line feed
at its end separates it from what follows. The names of results and of the tables of files are written
as the engine reads them.
-/

namespace StagedSql

namespace Identifier

theorem isPart_of_isNameChar {c : Char} (h : isNameChar c) : isPart c := by
  simp only [isNameChar, Bool.or_eq_true, decide_eq_true_eq] at h
  simp only [isPart, isStart, Bool.or_eq_true, decide_eq_true_eq]
  tauto

theorem toLower_of_isNameChar {c : Char} (h : isNameChar c) : c.toLower = c ∧ c ≠ '\n' :=
  forall_of_ascii (P := fun c => isNameChar c → c.toLower = c ∧ c ≠ '\n') (by decide)
    (isPart_of_isNameChar h) h

theorem subset_joinUnderscores (after : Bool) (s : List Char) : joinUnderscores after s ⊆ s := by
  induction s generalizing after with
  | nil => exact List.Subset.refl _
  | cons c rest ih =>
    unfold joinUnderscores
    split
    · next hc =>
      split
      · exact List.subset_cons_of_subset c (ih true)
      · exact hc ▸ List.cons_subset_cons c (ih true)
    · exact List.cons_subset_cons c (ih false)

theorem isNameChar_of_mem_sanitize {s : List Char} {c : Char} (h : c ∈ sanitize s) :
    isNameChar c := by
  have hdropped := (List.rdropWhile_prefix (· = '_') _).subset h
  have hjoined := (List.dropWhile_suffix (· = '_')).subset hdropped
  obtain ⟨x, -, hx⟩ := List.mem_map.mp (subset_joinUnderscores false _ hjoined)
  rw [← hx]
  split
  · assumption
  · decide

end Identifier

namespace TableName

open Identifier

/-- The name as the engine reads it. -/
def denoted (name : String) : String :=
  String.ofList ((withoutLineEnd name.toList).map Char.toLower)

/-- The two names stand for one table of the engine. -/
def SameTable (a b : String) : Prop := denoted a = denoted b

instance (a b : String) : Decidable (SameTable a b) := inferInstanceAs (Decidable (_ = _))

theorem denoted_of_nameChars {name : String} (h : ∀ c ∈ name.toList, isNameChar c) :
    denoted name = name := by
  have hend : withoutLineEnd name.toList = name.toList := by
    refine if_neg fun hlast => ?_
    exact (toLower_of_isNameChar (h _ (List.mem_of_getLast? hlast))).2 rfl
  have hmap : name.toList.map Char.toLower = name.toList :=
    (List.map_congr_left fun c hc => (toLower_of_isNameChar (h c hc)).1).trans (List.map_id _)
  rw [denoted, hend, hmap, String.ofList_toList]

theorem isNameChar_result (i : Nat) (kind : StageKind) :
    ∀ c ∈ (result i kind).toList, isNameChar c := by
  have hstart : ∀ c ∈ "result_stage_".toList, isNameChar c := List.all_eq_true.mp (by decide)
  have hkind : ∀ k ∈ StageKind.all, (Text.lower k.name).toList.all isNameChar = true := by
    decide +kernel
  have hnumber : ∀ c ∈ (toString i).toList, isNameChar c := by
    intro c hc
    rw [Nat.toString_eq_repr, Nat.toList_repr] at hc
    have hdigit := Text.isAsciiDigit_of_isDigit
      (Nat.isDigit_of_mem_toDigits (by decide) (by decide) hc)
    simp only [isNameChar, hdigit, Bool.or_true, Bool.true_or]
  intro c hc
  simp only [result_eq, String.toList_append, List.mem_append] at hc
  rcases hc with ((hc | hc) | hc) | hc
  · exact hstart c hc
  · exact hnumber c hc
  · rw [List.mem_singleton.mp hc]
    decide
  · exact List.all_eq_true.mp (hkind kind (StageKind.mem_all kind)) c hc

theorem isNameChar_ofFile (file : String) : ∀ c ∈ (ofFile file).toList, isNameChar c := by
  have hstart : ∀ c ∈ "table_".toList, isNameChar c := List.all_eq_true.mp (by decide)
  have hdata : ∀ c ∈ "data".toList, isNameChar c := List.all_eq_true.mp (by decide)
  intro c hc
  unfold ofFile at hc
  generalize FileName.split (FileName.base file.toList) = parts at hc
  obtain ⟨stem, suffix⟩ := parts
  simp only [String.toList_ofList, List.mem_append] at hc
  rcases hc with (hc | hc) | hc
  · exact hstart c hc
  · split at hc
    · exact hdata c hc
    · exact isNameChar_of_mem_sanitize hc
  · split at hc
    · cases hc
    · rcases List.mem_cons.mp hc with rfl | hc
      · decide
      · exact isNameChar_of_mem_sanitize hc

theorem denoted_result (i : Nat) (kind : StageKind) : denoted (result i kind) = result i kind :=
  denoted_of_nameChars (isNameChar_result i kind)

theorem denoted_ofFile (file : String) : denoted (ofFile file) = ofFile file :=
  denoted_of_nameChars (isNameChar_ofFile file)

example : SameTable "Orders\n" "orders" := by decide
example : ¬ SameTable "orders_" "orders" := by decide

end TableName

end StagedSql
