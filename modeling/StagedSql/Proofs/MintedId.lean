import StagedSql.Stage.Basic
import StagedSql.Table

/-!
# Minted ids

Different counts give different ids.
-/

namespace StagedSql

theorem Text.zeroPadded_injective {width m n : Nat} (h : zeroPadded width m = zeroPadded width n) :
    m = n := by
  have hlist := congrArg (fun s : String => Nat.ofDigitChars 10 s.toList 0) h
  simpa [zeroPadded, Nat.ofDigitChars_append, Nat.ofDigitChars_replicate_zero,
    Nat.ofDigitChars_ten_toDigits] using hlist

theorem Table.mintedId_injective {m n : Nat} (h : mintedId m = mintedId n) : m = n :=
  Text.zeroPadded_injective (String.append_right_inj _ |>.mp h)

theorem Table.mintedId_ne_empty (n : Nat) : mintedId n ≠ "" := by
  intro h
  have := congrArg (fun s : String => s.toList.length) h
  simp [mintedId] at this

theorem Stage.mintedId_injective {m n : Nat} (h : mintedId m = mintedId n) : m = n :=
  Text.zeroPadded_injective (String.append_right_inj _ |>.mp h)

theorem Stage.mintedId_ne_of_short {id : String} (h : id.toList.length < 6) (n : Nat) :
    mintedId n ≠ id := by
  rintro rfl
  simp only [mintedId, String.toList_append, List.length_append] at h
  have hprefix : "stage_".toList.length = 6 := by decide
  omega

theorem Stage.mintedId_not_mem_of_short {ids : List String}
    (h : ∀ id ∈ ids, id.toList.length < 6) (n : Nat) : mintedId n ∉ ids :=
  fun hmem => mintedId_ne_of_short (h _ hmem) n rfl

end StagedSql
