import StagedSql.Json.Token
import StagedSql.Text.Utf8

/-!
# The encoding of a JSON text

A JSON text in bytes begins with two ASCII characters, so the zeros among its first bytes tell how
its characters are written: in one byte and more, in pairs or in groups of four. A byte order mark in
front of a text of the first kind is passed over.
-/

namespace StagedSql.Json

/-- How characters are written in bytes. In units of two or four bytes the greatest byte stands first
or last. -/
inductive Encoding where
  | bytes
  | pairs (greatestFirst : Bool)
  | groups (greatestFirst : Bool)
  deriving DecidableEq, Repr

def encodingOf : List Nat → Encoding
  | a :: b :: c :: d :: _ =>
    if a = 0 then if b ≠ 0 then .pairs true else .groups true
    else if b = 0 then if c ≠ 0 ∨ d ≠ 0 then .pairs false else .groups false
    else .bytes
  | [a, b] => if a = 0 then .pairs true else if b = 0 then .pairs false else .bytes
  | _ => .bytes

def pairUnits? (greatestFirst : Bool) : List Nat → Option (List Nat)
  | [] => some []
  | a :: b :: rest =>
    (pairUnits? greatestFirst rest).map ((if greatestFirst then 256 * a + b else 256 * b + a) :: ·)
  | [_] => none

/-- The code points in groups of four bytes, if they come out even and are code points. -/
def groupUnits? (greatestFirst : Bool) : List Nat → Option (List Nat)
  | [] => some []
  | a :: b :: c :: d :: rest =>
    let pair (high low : Nat) : Nat := 256 * high + low
    let point :=
      if greatestFirst then 0x10000 * pair a b + pair c d else 0x10000 * pair d c + pair b a
    if point < 0x110000 then (groupUnits? greatestFirst rest).map (point :: ·) else none
  | _ => none

def byteOrderMark : Char := Char.ofNat 0xFEFF

def decoded? (bytes : List Nat) : Option (List Char) :=
  match encodingOf bytes with
  | .bytes =>
    let s := Text.ofUtf8 bytes
    some (if s.head? = some byteOrderMark then s.tail else s)
  | .pairs greatestFirst => (pairUnits? greatestFirst bytes).map joinUnits
  | .groups greatestFirst => (groupUnits? greatestFirst bytes).map (·.map unitChar)

example : decoded? [0x5B, 0, 0x5D, 0] = some "[]".toList := by decide +kernel
example : decoded? [0, 0, 0, 0x37] = some "7".toList := by decide +kernel

end StagedSql.Json
