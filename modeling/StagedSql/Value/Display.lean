import StagedSql.Value.Basic
import StagedSql.Binary64.Shortest
import StagedSql.Text.Quoted

/-!
# Values inside messages

The text of a value where a message or a statement mentions it: a text stands for itself, and
everything inside a list or an object is shown with its quotes. Whole numbers have a text here at any
length and containers at any depth; where a literal is not written for these reasons is told by
`Query.render`.
-/

namespace StagedSql.Value

/-- Fractions in messages are positional from `0.0001` up to sixteen places before the point. -/
def messageNumbers : Binary64.Layout where
  leastPoint := -3
  greatestPoint := 16
  plusSign := true
  exponentWidth := 2

def intChars (i : Int) : List Char :=
  if i < 0 then '-' :: Nat.toDigits 10 i.natAbs else Nat.toDigits 10 i.natAbs

def floatChars (x : Binary64) : List Char :=
  match x with
  | .finite .. => (x.text? messageNumbers).getD []
  | .infinite true => "-inf".toList
  | .infinite false => "inf".toList
  | .nan => "nan".toList

mutual

/-- The value with its quotes. -/
def shownChars : Value → List Char
  | .null => "None".toList
  | .bool true => "True".toList
  | .bool false => "False".toList
  | .int i => intChars i
  | .float x => floatChars x
  | .text s => Text.quotedChars s.toList
  | .list items => '[' :: shownItems items ++ [']']
  | .object fields => '{' :: shownFields fields ++ ['}']

def shownItems : List Value → List Char
  | [] => []
  | [v] => shownChars v
  | v :: w :: rest => shownChars v ++ ", ".toList ++ shownItems (w :: rest)

def shownFields : List (String × Value) → List Char
  | [] => []
  | [(k, v)] => Text.quotedChars k.toList ++ ": ".toList ++ shownChars v
  | (k, v) :: f :: rest =>
    Text.quotedChars k.toList ++ ": ".toList ++ shownChars v ++ ", ".toList ++
      shownFields (f :: rest)

end

def shown (v : Value) : String := String.ofList (shownChars v)

def displayChars : Value → List Char
  | .text s => s.toList
  | v => shownChars v

def display (v : Value) : String := String.ofList (displayChars v)

def shownTexts (texts : List String) : String := shown (.list (texts.map .text))

@[simp] theorem display_text (s : String) : display (.text s) = s := String.ofList_toList

example : shown (.list [.int 1, .text "a", .null]) = "[1, 'a', None]" := by decide +kernel
example : display (.float (.ofDecimal false 25 (-1))) = "2.5" := by decide +kernel
example : display (.float (.ofDecimal false 1 16)) = "1e+16" := by decide +kernel
example : display (.float (.ofDecimal false 1 (-5))) = "1e-05" := by decide +kernel

end StagedSql.Value
