import Mathlib.Logic.Function.Basic
import StagedSql.Proofs.EngineName

/-!
# Generated names

The pipeline makes up names of three kinds: for results, for the staging tables that results are built
under, and for the tables of files. Within a kind a name tells what it was made for, as far as a name can,
and no name of one kind is a name of another.
-/

namespace StagedSql

/-- A letter in lower case or an underscore, then such letters, digits and underscores. -/
def IsLowerIdentifier (s : String) : Prop :=
  ∃ c rest, s.toList = c :: rest ∧ ('a' ≤ c ∧ c ≤ 'z' ∨ c = '_') ∧
    ∀ d ∈ rest, 'a' ≤ d ∧ d ≤ 'z' ∨ '0' ≤ d ∧ d ≤ '9' ∨ d = '_'

namespace Identifier

theorem isNameChar_iff {c : Char} :
    isNameChar c ↔ 'a' ≤ c ∧ c ≤ 'z' ∨ '0' ≤ c ∧ c ≤ '9' ∨ c = '_' := by
  simp only [isNameChar, Text.isAsciiDigit, Bool.or_eq_true, Bool.and_eq_true, decide_eq_true_eq,
    or_assoc]

theorem Single.no_pair {s : List Char} (h : Single s) : ¬ ['_', '_'] <:+: s := by
  intro hpair
  have hsingle : Single ['_', '_'] := List.IsChain.infix h hpair
  revert hsingle
  unfold Single
  decide

end Identifier

namespace TableName

open Identifier

theorem resultOf_eq (i : Nat) (kind : StageKind) :
    resultOf (.int i) (.text kind.name) = .ok (result i kind) := by
  have hnumber : Value.display (.int i) = toString i := by
    rw [Nat.toString_eq_repr, Nat.repr]
    rfl
  have hpos : ¬ (i : Int) < 0 := Int.not_lt.mpr (Int.natCast_nonneg i)
  simp only [resultOf, hnumber, Value.display_text]
  rw [if_neg hpos, result_eq]

theorem lower_name_injective {kind other : StageKind}
    (h : Text.lower kind.name = Text.lower other.name) : kind = other := by
  have hall : ∀ j ∈ StageKind.all, ∀ k ∈ StageKind.all,
      Text.lower j.name = Text.lower k.name → j = k := by
    decide +kernel
  exact hall kind (StageKind.mem_all kind) other (StageKind.mem_all other) h

theorem result_eq_iff {i j : Nat} {kind other : StageKind} :
    result i kind = result j other ↔ i = j ∧ kind = other := by
  constructor
  · intro h
    obtain rfl := result_injective h
    rw [result_eq, result_eq, String.append_right_inj] at h
    exact ⟨rfl, lower_name_injective h⟩
  · rintro ⟨rfl, rfl⟩
    rfl

theorem staging_injective : Function.Injective staging := by
  intro table other h
  have hlist := congrArg String.toList h
  rw [toList_staging, toList_staging] at hlist
  exact String.toList_injective (List.append_cancel_right hlist)

theorem isLowerIdentifier_ofFile (file : String) : IsLowerIdentifier (ofFile file) := by
  have hchars := isNameChar_ofFile file
  obtain ⟨rest, hrest⟩ : ∃ rest, (ofFile file).toList = 't' :: rest := by
    unfold ofFile
    generalize FileName.split (FileName.base file.toList) = parts
    simp only [String.toList_ofList, List.append_assoc]
    exact ⟨_, rfl⟩
  rw [hrest] at hchars
  exact ⟨'t', rest, hrest, .inl (by decide), fun d hd =>
    isNameChar_iff.mp (hchars d (List.mem_cons_of_mem _ hd))⟩

/-- The name of a result, which a position and a kind given as values lead to as well, tells the position
and the kind of its stage. A staging name tells its table, and the name of a file's table is an
identifier in lower case with single underscores. The staging name of a result, the name of a result and
the name of a file's table are three different names. -/
theorem generated_apart :
    (∀ (i : Nat) kind, resultOf (.int i) (.text kind.name) = .ok (result i kind)) ∧
    (∀ i j kind other, result i kind = result j other ↔ i = j ∧ kind = other) ∧
    Function.Injective staging ∧
    (∀ i kind, (∀ j other, staging (result i kind) ≠ result j other) ∧
      ∀ file, staging (result i kind) ≠ ofFile file) ∧
    ∀ file, IsLowerIdentifier (ofFile file) ∧ ¬ ['_', '_'] <:+: (ofFile file).toList ∧
      ∀ j other, ofFile file ≠ result j other := by
  refine ⟨resultOf_eq, fun _ _ _ _ => result_eq_iff, staging_injective, fun i kind => ⟨?_, ?_⟩,
    fun file => ⟨isLowerIdentifier_ofFile file, (single_ofFile file).no_pair, ?_⟩⟩
  · intro j other heq
    exact not_isStaging_of_isResult (isResult_result j other) ⟨_, heq.symm⟩
  · intro file heq
    exact not_isStaging_ofFile file ⟨_, heq.symm⟩
  · intro j other heq
    exact not_isResult_ofFile file (heq ▸ isResult_result j other)

end TableName

end StagedSql
