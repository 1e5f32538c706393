import Mathlib.Data.List.Chain
import Mathlib.Data.List.DropRight
import StagedSql.TableName

/-!
# Kinds of table names

Staging names end in two underscores and a word. Neither the name of a result nor the name of a
file's table does, so a staging table never stands in the place of one of these.
-/

namespace StagedSql

namespace TableName

def IsResult (name : String) : Prop := ∃ i kind, name = result i kind

def IsStaging (name : String) : Prop := ∃ table, name = staging table

theorem isResult_result (i : Nat) (kind : StageKind) : IsResult (result i kind) := ⟨i, kind, rfl⟩

theorem toList_staging (table : String) :
    (staging table).toList = table.toList ++ "__staging".toList := by
  rw [staging, String.toList_append]

/-! ### Results -/

theorem result_eq (i : Nat) (kind : StageKind) :
    result i kind = "result_stage_" ++ toString i ++ "_" ++ Text.lower kind.name := rfl

theorem underscore_not_mem_number (n : Nat) : '_' ∉ (toString n).toList := by
  intro hmem
  rw [Nat.toString_eq_repr, Nat.toList_repr] at hmem
  have hdigit := Nat.isDigit_of_mem_toDigits (by decide) (by decide) hmem
  revert hdigit
  decide

theorem takeWhile_number (n : Nat) (rest : List Char) :
    ((toString n).toList ++ '_' :: rest).takeWhile (· ≠ '_') = (toString n).toList := by
  have hdigits : ∀ c ∈ (toString n).toList, decide (c ≠ '_') = true := by
    intro c hc
    refine decide_eq_true ?_
    rintro rfl
    exact underscore_not_mem_number n hc
  rw [List.takeWhile_append_of_pos hdigits]
  simp

theorem result_injective {i j : Nat} {kind other : StageKind} (h : result i kind = result j other) :
    i = j := by
  have hunder : "_".toList = ['_'] := by decide
  have hlist := congrArg String.toList h
  simp only [result_eq, String.toList_append, List.append_assoc, hunder, List.singleton_append]
    at hlist
  have hrest := congrArg (List.takeWhile (· ≠ '_')) (List.append_cancel_left hlist)
  rw [takeWhile_number, takeWhile_number] at hrest
  simp only [Nat.toString_eq_repr, Nat.toList_repr] at hrest
  have hnumber := congrArg (fun digits => Nat.ofDigitChars 10 digits 0) hrest
  simpa only [Nat.ofDigitChars_ten_toDigits] using hnumber

/-- The name of a join and that of a result differ in their first letter. -/
theorem joined_ne_result (left right : String) (i : Nat) (kind : StageKind) :
    joined left right ≠ result i kind := by
  intro h
  have hhead := congrArg (fun s : String => s.toList.head?) h
  have hjoined : "joined_".toList.head? = some 'j' := by decide
  have hresult : "result_stage_".toList.head? = some 'r' := by decide
  simp only [joined, result_eq, String.toList_append, List.append_assoc, List.head?_append, hjoined,
    hresult, Option.some_or] at hhead
  cases hhead

theorem getLast?_lower_name (kind : StageKind) :
    ∃ c, (Text.lower kind.name).toList.getLast? = some c ∧ c ≠ 'g' := by
  have h : ∀ k ∈ StageKind.all, ((Text.lower k.name).toList.getLast?).any (· ≠ 'g') := by
    decide +kernel
  obtain ⟨c, hc, hne⟩ := (Option.any_eq_true _ _).mp (h kind (StageKind.mem_all kind))
  exact ⟨c, hc, by simpa using hne⟩

theorem not_isStaging_of_isResult {name : String} (h : IsResult name) : ¬ IsStaging name := by
  rintro ⟨table, hname⟩
  obtain ⟨i, kind, rfl⟩ := h
  obtain ⟨c, hc, hne⟩ := getLast?_lower_name kind
  have hresult : (result i kind).toList.getLast? = some c := by
    rw [result_eq, String.toList_append, List.getLast?_append, hc, Option.some_or]
  have hg : "__staging".toList.getLast? = some 'g' := by decide
  have hstaging : (staging table).toList.getLast? = some 'g' := by
    rw [toList_staging, List.getLast?_append, hg, Option.some_or]
  rw [hname, hstaging] at hresult
  exact hne (Option.some.inj hresult).symm

end TableName

/-! ### Files -/

namespace Identifier

def Single (s : List Char) : Prop := s.IsChain fun a b => ¬ (a = '_' ∧ b = '_')

theorem single_append {s t : List Char} (hs : Single s) (ht : Single t)
    (h : s.getLast? ≠ some '_' ∨ t.head? ≠ some '_') : Single (s ++ t) := by
  refine List.IsChain.append hs ht ?_
  rintro a ha b hb ⟨rfl, rfl⟩
  rcases h with h | h
  · exact h ha
  · exact h hb

theorem single_joinUnderscores (after : Bool) (s : List Char) :
    Single (joinUnderscores after s) ∧
      (after = true → (joinUnderscores after s).head? ≠ some '_') := by
  induction s generalizing after with
  | nil => exact ⟨.nil, by simp [joinUnderscores]⟩
  | cons c rest ih =>
    unfold joinUnderscores
    by_cases hc : c = '_'
    · cases after with
      | true => simpa [hc] using ih true
      | false =>
        obtain ⟨hsingle, hhead⟩ := ih true
        refine ⟨?_, by simp⟩
        simp only [hc, if_true, Bool.false_eq_true, if_false]
        refine hsingle.cons ?_
        rintro b hb ⟨-, rfl⟩
        exact hhead rfl hb
    · simp only [hc, if_false]
      refine ⟨(ih false).1.cons ?_, by simp [hc]⟩
      rintro b - ⟨h, -⟩
      exact hc h

structure Tidy (s : List Char) : Prop where
  single : Single s
  head : s.head? ≠ some '_'
  last : s.getLast? ≠ some '_'

theorem tidy_trim {s : List Char} (h : Single s) :
    Tidy ((s.dropWhile (· = '_')).rdropWhile (· = '_')) := by
  obtain ⟨tail, htail⟩ := List.rdropWhile_prefix (· = '_') (s.dropWhile (· = '_'))
  refine ⟨?_, ?_, ?_⟩
  · have hdropped := h.suffix (List.dropWhile_suffix (· = '_'))
    rw [← htail] at hdropped
    exact hdropped.left_of_append
  · intro hhead
    have hdropped : (s.dropWhile (· = '_')).head? = some '_' := by
      rw [← htail, List.head?_append, hhead, Option.some_or]
    have hnot := List.head?_dropWhile_not (· = '_') s
    rw [hdropped] at hnot
    simp at hnot
  · intro hlast
    by_cases hne : (s.dropWhile (· = '_')).rdropWhile (· = '_') = []
    · rw [hne] at hlast
      cases hlast
    · have hnot := List.rdropWhile_last_not (· = '_') (s.dropWhile (· = '_')) hne
      rw [List.getLast?_eq_some_getLast hne] at hlast
      simp [Option.some.inj hlast] at hnot

theorem tidy_sanitize (s : List Char) : Tidy (sanitize s) :=
  tidy_trim (single_joinUnderscores false _).1

end Identifier

namespace TableName

open Identifier

theorem single_ofFile (file : String) : Single (ofFile file).toList := by
  unfold ofFile
  generalize FileName.split (FileName.base file.toList) = parts
  obtain ⟨stem, suffix⟩ := parts
  simp only [String.toList_ofList]
  have hstem : Tidy (if sanitize stem = [] then "data".toList else sanitize stem) ∧
      (if sanitize stem = [] then "data".toList else sanitize stem) ≠ [] := by
    split
    · exact ⟨⟨by unfold Single; decide, by decide, by decide⟩, by decide⟩
    · next hne => exact ⟨tidy_sanitize stem, hne⟩
  generalize (if sanitize stem = [] then "data".toList else sanitize stem) = stem at hstem
  obtain ⟨htidy, hne⟩ := hstem
  have hend := tidy_sanitize (suffix.dropWhile (· = '.'))
  generalize sanitize (suffix.dropWhile (· = '.')) = ending at hend
  have htable : Single ("table_".toList ++ stem) :=
    single_append (by unfold Single; decide) htidy.single (.inr htidy.head)
  refine single_append htable ?_ (.inl ?_)
  · split
    · exact .nil
    · refine hend.single.cons ?_
      rintro b hb ⟨-, rfl⟩
      exact hend.head hb
  · rw [List.getLast?_append, List.getLast?_eq_some_getLast hne, Option.some_or,
      ← List.getLast?_eq_some_getLast hne]
    exact htidy.last

theorem not_isStaging_ofFile (file : String) : ¬ IsStaging (ofFile file) := by
  rintro ⟨table, hname⟩
  have hsingle := single_ofFile file
  rw [hname, toList_staging] at hsingle
  have hstaging : ¬ Single "__staging".toList := by unfold Single; decide
  exact hstaging (List.IsChain.right_of_append hsingle)

theorem not_isResult_ofFile (file : String) : ¬ IsResult (ofFile file) := by
  rintro ⟨i, kind, hname⟩
  have hhead := congrArg (fun s : String => s.toList.head?) hname
  unfold ofFile at hhead
  generalize FileName.split (FileName.base file.toList) = parts at hhead
  have htable : "table_".toList.head? = some 't' := by decide
  have hresult : "result_stage_".toList.head? = some 'r' := by decide
  simp only [String.toList_ofList, result_eq, String.toList_append, List.append_assoc,
    List.head?_append, htable, hresult, Option.some_or] at hhead
  cases hhead

end TableName

end StagedSql
