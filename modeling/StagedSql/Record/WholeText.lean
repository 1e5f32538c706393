import StagedSql.Record.Problem
import StagedSql.Text.Number

/-!
# Whole numbers written in records

A record takes a whole number also as a text. Blanks around it, a plus, zeros in front, a decimal
part of zeros and single underscores inside are passed over; what is left has to be an optional
minus and the digits of the number.
-/

namespace StagedSql.Record.WholeText

/-! ### Passing over -/

/-- What is left behind a zero, where `last` is the zero or underscore just passed: the text from the
first other digit or minus on, and `last` itself if the number ends there. -/
def afterZero (last : Char) : List Char → Option (List Char)
  | [] => some [last]
  | c :: rest =>
    if c = '0' ∨ c = '_' then afterZero c rest
    else if Text.isAsciiDigit c ∨ c = '-' then some (c :: rest)
    else if c = '.' then some (last :: c :: rest)
    else none

/-- The text without the zeros in front. It has to begin with a digit or a minus. -/
def withoutZeros : List Char → Option (List Char)
  | [] => none
  | c :: rest =>
    if c = '0' then afterZero c rest
    else if Text.isAsciiDigit c ∨ c = '-' then some (c :: rest)
    else none

/-- The text without a point that only zeros follow, at least one of them. -/
def withoutFraction (s : List Char) : List Char :=
  let fraction := (s.dropWhile (· ≠ '.')).drop 1
  if fraction ≠ [] ∧ fraction.all (· = '0') then s.takeWhile (· ≠ '.') else s

/-- The text without its underscores, if none stands at an end or beside another one. -/
def withoutUnderscores (s : List Char) : List Char :=
  if s.head? = some '_' ∨ s.getLast? = some '_' ∨ Text.occursIn ['_', '_'] s then s
  else s.filter (· ≠ '_')

def bare? (s : List Char) : Option (List Char) :=
  let s := Text.bareNumber s
  let unsigned := if s.head? = some '+' then s.tail else s
  if s.head? = some '+' ∧ unsigned.head? = some '-' then none
  else if unsigned.head? = some '-' then
    (withoutZeros unsigned.tail).map fun t => '-' :: withoutUnderscores (withoutFraction t)
  else (withoutZeros unsigned).map fun t => withoutUnderscores (withoutFraction t)

/-! ### Reading -/

/-- The number that digits at the front of `s` show. Nothing may follow them, unless they are too
many, which is told first. -/
def readDigits (negative : Bool) (s : List Char) : Except Complaint Int :=
  let digits := s.takeWhile Text.isAsciiDigit
  if digits.head? = some '0' ∧ s ≠ ['0'] then .error .unreadableWhole
  else if Text.longestWhole < digits.length then .error .longWhole
  else if digits = [] ∨ digits.length ≠ s.length then .error .unreadableWhole
  else
    let n := Int.ofNat (Nat.ofDigitChars 10 digits 0)
    .ok (if negative then -n else n)

def read (s : List Char) : Except Complaint Int :=
  match bare? s with
  | none => .error .unreadableWhole
  | some ('-' :: rest) => readDigits true rest
  | some rest => readDigits false rest

example : (read " +1_000.00 ".toList).toOption = some 1000 := by decide +kernel
example : (read "00-5".toList).toOption = some (-5) := by decide +kernel
example : (read "5.".toList).toOption = none := by decide +kernel
example : (read "1__0".toList).toOption = none := by decide +kernel

end StagedSql.Record.WholeText
