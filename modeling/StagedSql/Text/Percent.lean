import StagedSql.Text.Digit
import StagedSql.Text.Quoted
import StagedSql.Text.Utf8

/-!
# Percent escapes

An address holds few characters as they are. Any other one is written byte by byte, each byte of its
UTF-8 form as a percent sign and two hexadecimal digits.
-/

namespace StagedSql.Text

/-! ### Writing -/

def byteEscape (b : Nat) : List Char := '%' :: (hexDigits 2 b).map Char.toUpper

/-- The text with an escape for every character that is not kept. Where the percent sign and the
hexadecimal digits are kept, so are the escapes in the text. -/
def escapedUnless (keep : Char → Bool) (s : List Char) : List Char :=
  s.flatMap fun c => if keep c then [c] else (utf8Bytes c).flatMap byteEscape

/-! ### Reading -/

/-- The bytes of a text, an escape as the byte it stands for. A percent sign without two hexadecimal
digits stands for itself. -/
def unescapedBytes : List Char → List Nat
  | [] => []
  | '%' :: a :: b :: rest =>
    match hexValue? a, hexValue? b with
    | some high, some low => (16 * high + low) :: unescapedBytes rest
    | _, _ => '%'.toNat :: unescapedBytes (a :: b :: rest)
  | c :: rest => utf8Bytes c ++ unescapedBytes rest

def unescaped (s : List Char) : List Char := ofUtf8 (unescapedBytes s)

example : escapedUnless Char.isAlphanum "a é".toList = "a%20%C3%A9".toList := by decide +kernel
example : unescaped "%C3%A9%2".toList = "é%2".toList := by decide +kernel

end StagedSql.Text
