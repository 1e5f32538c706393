import StagedSql.Text.Blank
import StagedSql.Text.Digit
import StagedSql.Binary64.Basic

/-!
# Numbers in free text

Whole numbers and fractions as a person types them: blanks around the number, a sign, decimal digits
of any script and single underscores between digits are accepted.
-/

namespace StagedSql.Text

/-- The blanks around a number: all but the four information separators. -/
def isNumberBlank (c : Char) : Bool := isBlank c && !(0x1C ≤ c.toNat && c.toNat ≤ 0x1F)

def bareNumber (s : List Char) : List Char := dropTrailing isNumberBlank (s.dropWhile isNumberBlank)

/-- The text without blanks around it, with every decimal digit in its ASCII form. -/
def numberChars (s : String) : List Char :=
  (bareNumber s.toList).map fun c => ((digitValue? c).map Nat.digitChar).getD c

/-- Splits off a sign; the first part tells whether it is a minus. -/
def splitSign : List Char → Bool × List Char
  | '-' :: rest => (true, rest)
  | '+' :: rest => (false, rest)
  | rest => (false, rest)

/-- The text without its underscores, if each stands between two digits. -/
def joinDigitGroups? : List Char → Option (List Char)
  | [] => some []
  | '_' :: _ => none
  | [c] => some [c]
  | c :: '_' :: d :: rest =>
    if isAsciiDigit c && isAsciiDigit d then (joinDigitGroups? (d :: rest)).map (c :: ·) else none
  | c :: d :: rest => (joinDigitGroups? (d :: rest)).map (c :: ·)

inductive WholeError where
  | notANumber
  | tooLong (digits : Nat)
  deriving DecidableEq, Repr

def isDigitOrMark (c : Char) : Bool := isAsciiDigit c || c = '_'

/-- The whole number that `s` shows. Too many digits are told even if something follows them that is
no part of a number. -/
def readWhole (s : String) : Except WholeError Int :=
  let (negative, rest) := splitSign (numberChars s)
  match joinDigitGroups? (rest.takeWhile isDigitOrMark) with
  | none | some [] => .error .notANumber
  | some digits =>
    if longestWhole < digits.length then .error (.tooLong digits.length)
    else if rest.dropWhile isDigitOrMark ≠ [] then .error .notANumber
    else
      let n := Int.ofNat (Nat.ofDigitChars 10 digits 0)
      .ok (if negative then -n else n)

def readExponent? : List Char → Option Int
  | [] => some 0
  | e :: rest =>
    let (negative, digits) := splitSign rest
    if (e = 'e' ∨ e = 'E') ∧ digits ≠ [] ∧ digits.all isAsciiDigit then
      let n := Int.ofNat (Nat.ofDigitChars 10 digits 0)
      some (if negative then -n else n)
    else none

def readMagnitude? (negative : Bool) (s : List Char) : Option Binary64 :=
  let whole := s.takeWhile isAsciiDigit
  let rest := s.dropWhile isAsciiDigit
  let tail := if rest.head? = some '.' then rest.tail else []
  let fraction := tail.takeWhile isAsciiDigit
  let rest := if rest.head? = some '.' then tail.dropWhile isAsciiDigit else rest
  if whole = [] ∧ fraction = [] then none
  else
    (readExponent? rest).map fun e =>
      .ofDecimal negative (Nat.ofDigitChars 10 (whole ++ fraction) 0)
        (e - Int.ofNat fraction.length)

/-- The number that `s` shows: a fraction with or without exponent, an infinity or no number. -/
def readFraction? (s : String) : Option Binary64 :=
  match joinDigitGroups? (numberChars s) with
  | none => none
  | some chars =>
    let (negative, rest) := splitSign chars
    let word := rest.map Char.toLower
    if word = "inf".toList ∨ word = "infinity".toList then some (.infinite negative)
    else if word = "nan".toList then some .nan
    else readMagnitude? negative rest

example : (readWhole " 1_000 ").toOption = some 1000 := by decide +kernel
example : (readWhole "1__0").toOption = none := by decide +kernel
example : readFraction? "2.5e1" = some (.ofDecimal false 25 0) := by decide +kernel

end StagedSql.Text
