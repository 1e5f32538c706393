import StagedSql.Text.Basic
import StagedSql.Text.CaseTable

/-!
# Upper and lower case

The full mappings of the Unicode standard: one character may become several, and a capital sigma at
the end of a word becomes the final small sigma.
-/

namespace StagedSql.Text

def mapByRuns (runs : List CaseRun) (c : Char) : Char :=
  match runs.find? (·.covers c.toNat) with
  | some r => r.apply c.toNat
  | none => c

def upperChar (c : Char) : List Char :=
  if c.toNat < 0x80 then [c.toUpper]
  else
    match upperExpansions.find? (·.1 == c.toNat) with
    | some e => e.2.map Char.ofNat
    | none => [mapByRuns upperRuns c]

/-- The lower case of one character, seen without its neighbours. -/
def lowerChar (c : Char) : List Char :=
  if c.toNat < 0x80 then [c.toLower]
  else if c.toNat = 0x130 then [Char.ofNat 0x69, Char.ofNat 0x307]
  else [mapByRuns lowerRuns c]

def isCaseIgnorable (c : Char) : Bool := inRanges caseIgnorableRanges c

def isCased (c : Char) : Bool := c.isAlpha || inRanges casedRanges c

/-- Whether the first character that is not ignorable has a case. -/
def startsCased (s : List Char) : Bool :=
  match s.dropWhile isCaseIgnorable with
  | [] => false
  | c :: _ => isCased c

/-- Lower case of `s`, where `earlier` is what stands before it, nearest character first. -/
def lowerAfter (earlier : List Char) : List Char → List Char
  | [] => []
  | c :: rest =>
    (if c.toNat = 0x3A3 then
      if startsCased earlier && !startsCased rest then [Char.ofNat 0x3C2] else [Char.ofNat 0x3C3]
     else lowerChar c) ++ lowerAfter (c :: earlier) rest

def upperChars (s : List Char) : List Char := s.flatMap upperChar

def lowerChars (s : List Char) : List Char := lowerAfter [] s

def upper (s : String) : String := String.ofList (upperChars s.toList)

def lower (s : String) : String := String.ofList (lowerChars s.toList)

theorem upperChar_ascii {c : Char} (h : c.toNat < 0x80) : upperChar c = [c.toUpper] := by
  simp only [upperChar, h, if_true]

end StagedSql.Text
