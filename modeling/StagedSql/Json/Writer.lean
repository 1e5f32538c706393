import StagedSql.Value.Display

/-!
# Writing JSON

The compact form without blanks. Only the quote, the backslash and the control characters below the
space are escaped; numbers that are not finite are written as null.
-/

namespace StagedSql.Json

/-- Fractions in JSON are positional from `0.00001` up to sixteen places before the point; an exponent
has its sign. -/
def numbers : Binary64.Layout where
  leastPoint := -4
  greatestPoint := 16
  plusSign := true
  exponentWidth := 1

def escapeChar (c : Char) : List Char :=
  match c with
  | '"' => ['\\', '"']
  | '\\' => ['\\', '\\']
  | '\n' => ['\\', 'n']
  | '\r' => ['\\', 'r']
  | '\t' => ['\\', 't']
  | _ =>
    if c.toNat = 0x8 then ['\\', 'b']
    else if c.toNat = 0xC then ['\\', 'f']
    else if c.toNat < 0x20 then '\\' :: 'u' :: Text.hexDigits 4 c.toNat
    else [c]

def textChars (s : List Char) : List Char := '"' :: s.flatMap escapeChar ++ ['"']

mutual

def write : Value → List Char
  | .null => "null".toList
  | .bool true => "true".toList
  | .bool false => "false".toList
  | .int i => Value.intChars i
  | .float x => (x.text? numbers).getD "null".toList
  | .text s => textChars s.toList
  | .list items => '[' :: writeItems items ++ [']']
  | .object fields => '{' :: writeFields fields ++ ['}']

def writeItems : List Value → List Char
  | [] => []
  | [v] => write v
  | v :: w :: rest => write v ++ ',' :: writeItems (w :: rest)

def writeFields : List (String × Value) → List Char
  | [] => []
  | [(k, v)] => textChars k.toList ++ ':' :: write v
  | (k, v) :: f :: rest => textChars k.toList ++ ':' :: write v ++ ',' :: writeFields (f :: rest)

end

def render (v : Value) : String := String.ofList (write v)

example : render (.object [("a", .list [.int 1, .bool true]), ("b", .text "x\"y")]) =
    "\x7b\"a\":[1,true],\"b\":\"x\\\"y\"\x7d" := by decide +kernel

end StagedSql.Json
