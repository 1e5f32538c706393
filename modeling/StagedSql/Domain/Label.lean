import StagedSql.Domain.Composition
import StagedSql.Domain.ContextTable
import StagedSql.Domain.LetterTable
import StagedSql.Domain.Punycode
import StagedSql.Text.Basic

/-!
# Labels of international names

A label is well formed if it is in the normal form, its hyphens stand between other characters, no
mark stands in front, every character is allowed between its neighbours, and letters of both
directions do not mix. In an ASCII name a label with other characters is written in punycode behind
a mark of its own.
-/

namespace StagedSql.Domain

/-! ### Characters -/

def isLetter (c : Char) : Bool :=
  Text.inRanges letterRanges c ||
    alternatingRanges.any fun r => r.1 ≤ c.toNat && c.toNat ≤ r.2 && (c.toNat - r.1) % 2 == 0

def isNonspacing (c : Char) : Bool := Text.inRanges nonspacingRanges c

def isMark (c : Char) : Bool := isNonspacing c || Text.inRanges spacingRanges c

/-- A mark that takes the vowel from a letter has a class of its own. -/
def killsVowel (c : Char) : Bool := combiningClass c.toNat = 9

def joinsNext (c : Char) : Bool :=
  Text.inRanges dualJoiningRanges c || Text.inRanges leftJoiningRanges c

def joinsPrevious (c : Char) : Bool :=
  Text.inRanges dualJoiningRanges c || Text.inRanges rightJoiningRanges c

def zeroWidthNonJoiner : Nat := 0x200C
def zeroWidthJoiner : Nat := 0x200D
def middleDot : Nat := 0xB7
def greekNumeralSign : Nat := 0x375
def geresh : Nat := 0x5F3
def gershayim : Nat := 0x5F4
def katakanaMiddleDot : Nat := 0x30FB

/-- The digits of Arabic; no label has them beside those of Persian. -/
def isArabicDigit (c : Char) : Bool := 0x660 ≤ c.toNat && c.toNat ≤ 0x669

def isPersianDigit (c : Char) : Bool := 0x6F0 ≤ c.toNat && c.toNat ≤ 0x6F9

/-- Whether a non-joiner has something to separate: letters that would join, marks passed over. -/
def separatesJoin (before after : List Char) : Bool :=
  (before.dropWhile isNonspacing).head?.any joinsNext &&
    (after.dropWhile isNonspacing).head?.any joinsPrevious

/-- Whether `c` may stand between its neighbours; `before` is nearest first. -/
def isAllowed (before : List Char) (c : Char) (after : List Char) : Bool :=
  let n := c.toNat
  if n = zeroWidthNonJoiner then before.head?.any killsVowel || separatesJoin before after
  else if n = zeroWidthJoiner then before.head?.any killsVowel
  else if n = middleDot then before.head? = some 'l' && after.head? = some 'l'
  else if n = greekNumeralSign then after.head?.any (Text.inRanges greekRanges)
  else if n = geresh ∨ n = gershayim then before.head?.any (Text.inRanges hebrewRanges)
  else if n = katakanaMiddleDot then (before ++ after).any (Text.inRanges japaneseRanges)
  else if isArabicDigit c then !(before ++ after).any isPersianDigit
  else if isPersianDigit c then !(before ++ after).any isArabicDigit
  else isLetter c

def allAllowed (before : List Char) : List Char → Bool
  | [] => true
  | c :: rest => isAllowed before c rest && allAllowed (c :: before) rest

/-! ### Directions -/

def isRightToLeft (c : Char) : Bool := Text.inRanges rightToLeftRanges c

def isArabicNumber (c : Char) : Bool := Text.inRanges arabicNumberRanges c

def isEuropeanNumber (c : Char) : Bool := Text.inRanges europeanNumberRanges c

def isLeftToRight (c : Char) : Bool :=
  !(isRightToLeft c || isArabicNumber c || isEuropeanNumber c || isNonspacing c ||
    Text.inRanges neutralRanges c)

/-- Whether a label with letters written from right to left keeps to them: it begins with one, holds
no letter of the other direction, has numbers of one sort and, marks apart, ends with a letter or a
number. Labels without such letters have one direction anyway. -/
def hasOneDirection (label : List Char) : Bool :=
  if label.any fun c => isRightToLeft c || isArabicNumber c then
    label.head?.any isRightToLeft && !label.any isLeftToRight &&
      !(label.any isArabicNumber && label.any isEuropeanNumber) &&
      (label.reverse.dropWhile isNonspacing).head?.any fun c =>
        isRightToLeft c || isArabicNumber c || isEuropeanNumber c
  else true

/-! ### Labels -/

namespace Label

/-- No hyphen stands at an end, and none in the third and the fourth place at once. -/
def hyphensFit (label : List Char) : Bool :=
  label.head? ≠ some '-' && label.getLast? ≠ some '-' && (label.drop 2).take 2 ≠ ['-', '-']

def isWellFormed (label : List Char) : Bool :=
  !label.isEmpty && hyphensFit label && !label.head?.any isMark && allAllowed [] label &&
    hasOneDirection label && isComposed label

/-- What a label in punycode begins with. -/
def codeMark : List Char := "xn--".toList

def ofAscii? (label : List Char) : Option (List Char) :=
  if codeMark.isPrefixOf label then
    let code := label.drop codeMark.length
    if code = [] ∨ code.getLast? = some '-' then none else Punycode.decode? code
  else some label

def longest : Nat := 63

def toAscii? (label : List Char) : Option (List Char) :=
  let isAscii := label.all Punycode.isBasic
  let ascii := if isAscii then label else codeMark ++ Punycode.encode label
  let full := if isAscii then ofAscii? label else some label
  if ascii.length ≤ longest ∧ full.any isWellFormed then some ascii else none

end Label

/-! ### Names -/

def isDot (c : Char) : Bool := [0x2E, 0x3002, 0xFF0E, 0xFF61].contains c.toNat

/-- The most characters of a name in ASCII, a point at its end apart. -/
def longestName : Nat := 253

/-- The name in ASCII, if its labels are well formed and it is not too long. A name may end in a
point. -/
def toAscii? (name : List Char) : Option (List Char) :=
  let labels := (name.map fun c => if isDot c then '.' else c).splitOn '.'
  let isRooted := labels.length ≠ 1 && labels.getLast? = some []
  ((if isRooted then labels.dropLast else labels).mapM Label.toAscii?).bind fun labels =>
    let text := List.intercalate ['.'] labels
    if text.length ≤ longestName then some (text ++ if isRooted then ['.'] else []) else none

example : toAscii? "é.example".toList = some "xn--9ca.example".toList := by decide +kernel
example : toAscii? "a_b.é".toList = none := by decide +kernel

end StagedSql.Domain
