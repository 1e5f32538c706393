import StagedSql.Domain.Label
import StagedSql.Text.Case
import StagedSql.Text.Percent

/-!
# Hosts

The host of an address is a number in dotted or bracketed form or a name. Numbers have to be well
formed; names are written in lower case, and those with characters beyond ASCII in the ASCII form of
international names.
-/

namespace StagedSql.Url

/-- The printable ASCII characters other than the space, without those of `excluded`. -/
def isKept (excluded : String) (c : Char) : Bool :=
  '!' ≤ c && c ≤ '~' && !excluded.toList.contains c

/-! ### Dotted numbers -/

/-- How many places in a run of digits can be taken as separators between digits. -/
def spareSeparators (run : List Char) : Nat := (run.length - 1) / 2

/-- Four runs of digits with any character between them. A separator may itself be a digit. -/
def looksDotted (s : List Char) : Bool :=
  let runs := s.splitOnP (!Text.isAsciiDigit ·)
  runs.all (!·.isEmpty) && runs.length ≤ 4 &&
    4 ≤ runs.foldl (fun found run => found + 1 + spareSeparators run) 0

def isOctet (s : List Char) : Bool :=
  !s.isEmpty && s.all Text.isAsciiDigit && s.length ≤ 3 && (s.length = 1 || s.head? ≠ some '0') &&
    Nat.ofDigitChars 10 s 0 < 256

def isDotted (s : List Char) : Bool :=
  let octets := s.splitOn '.'
  octets.length = 4 && octets.all isOctet

/-! ### Bracketed numbers -/

def isHextet (s : List Char) : Bool :=
  !s.isEmpty && s.length ≤ 4 && s.all fun c => (Text.hexValue? c).isSome

/-- The parts between colons; a dotted number at the end counts as two parts. -/
def hextets? (s : List Char) : Option (List (List Char)) :=
  let parts := s.splitOn ':'
  match parts.getLast? with
  | none => none
  | some last =>
    if parts.length < 3 then none
    else if '.' ∈ last then
      if isDotted last then some (parts.dropLast ++ [['0'], ['0']]) else none
    else some parts

/-- The parts on one side of a gap: an empty one at the far end stands alone. -/
def besideGap (parts : List (List Char)) : List (List Char) := if parts = [[]] then [] else parts

/-- Eight parts, or fewer with one gap between two colons that stands for the missing ones. -/
def isHexadecimal (s : List Char) : Bool :=
  match hextets? s with
  | none => false
  | some parts =>
    let inner := (parts.drop 1).dropLast
    match inner.idxOf? [] with
    | none => parts.length = 8 && parts.all isHextet
    | some i =>
      let before := besideGap (parts.take (i + 1))
      let after := besideGap (parts.drop (i + 2))
      before.length + after.length < 8 && (before ++ after).all isHextet

/-- A number with eight parts, and behind a percent sign the name of a zone. -/
def isBracketed (s : List Char) : Bool :=
  let zone := s.dropWhile (· ≠ '%')
  isHexadecimal (s.takeWhile (· ≠ '%')) && (zone = [] || zone ≠ ['%'] && !zone.tail.contains '%')

/-! ### Hosts -/

def hostExcluded : String := "#/:<>?@[]^"

/-- The host in its normal form, if it is well formed. Brackets around a number are left out. -/
def readHost? (s : List Char) : Option (List Char) :=
  if looksDotted s then if isDotted s then some s else none
  else if s.head? = some '[' ∧ s.getLast? = some ']' then
    let number := s.tail.dropLast
    if isBracketed number then some number else none
  else
    let name := Text.lowerChars s
    if s.all Domain.Punycode.isBasic then some (Text.escapedUnless (isKept hostExcluded) name)
    else Domain.toAscii? name

example : readHost? "AZ.Example".toList = some "az.example".toList := by decide +kernel
example : readHost? "[::1]".toList = some "::1".toList := by decide +kernel
example : readHost? "1.2.3.400".toList = none := by decide +kernel

end StagedSql.Url
