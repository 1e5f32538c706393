import StagedSql.Text.Basic

/-!
# Blank characters

The white space of the Unicode standard together with the four information separators.
-/

namespace StagedSql.Text

def blankRanges : List (Nat × Nat) :=
  [(0x9, 0xD), (0x1C, 0x20), (0x85, 0x85), (0xA0, 0xA0), (0x1680, 0x1680), (0x2000, 0x200A),
   (0x2028, 0x2029), (0x202F, 0x202F), (0x205F, 0x205F), (0x3000, 0x3000)]

def isBlank (c : Char) : Bool := inRanges blankRanges c

def trim (s : List Char) : List Char := dropTrailing isBlank (s.dropWhile isBlank)

def stripped (s : String) : String := String.ofList (trim s.toList)

end StagedSql.Text
