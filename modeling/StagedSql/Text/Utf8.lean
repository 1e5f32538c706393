/-!
# Reading UTF-8

Bytes as characters. Every maximal run of bytes that begins a character without finishing it, and
every byte that begins none, becomes one replacement character.
-/

namespace StagedSql.Text

/-- What a first byte announces: the count of bytes that follow, the range of the first of them and
the bits of the first byte itself. -/
structure Utf8Lead where
  more : Nat
  low : Nat
  high : Nat
  bits : Nat
  deriving DecidableEq, Repr

def utf8Lead? (b : Nat) : Option Utf8Lead :=
  if 0xC2 ≤ b ∧ b ≤ 0xDF then some ⟨1, 0x80, 0xBF, b - 0xC0⟩
  else if b = 0xE0 then some ⟨2, 0xA0, 0xBF, 0⟩
  else if b = 0xED then some ⟨2, 0x80, 0x9F, 0xD⟩
  else if 0xE1 ≤ b ∧ b ≤ 0xEF then some ⟨2, 0x80, 0xBF, b - 0xE0⟩
  else if b = 0xF0 then some ⟨3, 0x90, 0xBF, 0⟩
  else if 0xF1 ≤ b ∧ b ≤ 0xF3 then some ⟨3, 0x80, 0xBF, b - 0xF0⟩
  else if b = 0xF4 then some ⟨3, 0x80, 0x8F, 4⟩
  else none

/-- The bytes at the front that continue a character: at most `more`, the first one in a range of
its own. -/
def utf8Tail (more low high : Nat) : List Nat → List Nat
  | [] => []
  | b :: rest =>
    match more with
    | 0 => []
    | more + 1 => if low ≤ b ∧ b ≤ high then b :: utf8Tail more 0x80 0xBF rest else []

def replacement : Char := Char.ofNat 0xFFFD

def ofUtf8 : List Nat → List Char
  | [] => []
  | b :: rest =>
    if b < 0x80 then Char.ofNat b :: ofUtf8 rest
    else
      match utf8Lead? b with
      | none => replacement :: ofUtf8 rest
      | some lead =>
        let tail := utf8Tail lead.more lead.low lead.high rest
        let code := tail.foldl (fun bits b => bits * 64 + (b - 0x80)) lead.bits
        (if tail.length = lead.more then Char.ofNat code else replacement) ::
          ofUtf8 (rest.drop tail.length)
termination_by bytes => bytes.length
decreasing_by all_goals simp only [List.length_cons, List.length_drop]; omega

def utf8Bytes (c : Char) : List Nat := (String.utf8EncodeChar c).map UInt8.toNat

end StagedSql.Text
