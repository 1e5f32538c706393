import StagedSql.Value.Basic
import StagedSql.Text.Digit

/-!
# Tokens of a JSON text

A JSON text is cut into marks, texts and words in one pass; a word is a run of the characters that
numbers and names are made of. Everything that no token can start with ends the pass with the token
`bad`, so that a reader meets the mistakes of a text in the order in which they stand in it.
-/

namespace StagedSql.Json

inductive Token where
  | openList
  | closeList
  | openObject
  | closeObject
  | comma
  | colon
  | text (s : List Char)
  | word (s : List Char)
  | bad
  deriving DecidableEq, Repr

/-! ### Texts -/

/-- A code unit of the pairs that stand for one character beyond the basic plane: the first one. -/
def isHighUnit (u : Nat) : Bool := 0xD800 ≤ u && u < 0xDC00

def isLowUnit (u : Nat) : Bool := 0xDC00 ≤ u && u < 0xE000

/-- The character of one unit; a half of a pair alone has none and becomes the replacement
character. -/
def unitChar (u : Nat) : Char :=
  if isHighUnit u || isLowUnit u then Char.ofNat 0xFFFD else Char.ofNat u

/-- Joins the two units of a pair and leaves the others as they are. -/
def joinUnits : List Nat → List Char
  | [] => []
  | [u] => [unitChar u]
  | u :: v :: rest =>
    if isHighUnit u && isLowUnit v then
      Char.ofNat (0x10000 + (u - 0xD800) * 0x400 + (v - 0xDC00)) :: joinUnits rest
    else unitChar u :: joinUnits (v :: rest)

def escaped? (c : Char) : Option Nat :=
  match c with
  | '"' => some 0x22
  | '\\' => some 0x5C
  | '/' => some 0x2F
  | 'b' => some 0x8
  | 'f' => some 0xC
  | 'n' => some 0xA
  | 'r' => some 0xD
  | 't' => some 0x9
  | _ => none

/-! ### The pass -/

/-- Where the pass stands. Units and characters read so far are kept last first. -/
inductive Lexing where
  | idle
  | inText (units : List Nat)
  | escape (units : List Nat)
  | codeUnit (units : List Nat) (digits : Nat) (value : Nat)
  | inWord (chars : List Char)
  | failed
  deriving DecidableEq, Repr

def isJsonBlank (c : Char) : Bool := c = ' ' || c = '\t' || c = '\n' || c = '\r'

def isWordChar (c : Char) : Bool := c.isAlphanum || c = '-' || c = '+' || c = '.'

def mark? (c : Char) : Option Token :=
  match c with
  | '[' => some .openList
  | ']' => some .closeList
  | '{' => some .openObject
  | '}' => some .closeObject
  | ',' => some .comma
  | ':' => some .colon
  | _ => none

/-- One character between tokens; `tokens` are those read so far, last first. -/
def stepIdle (tokens : List Token) (c : Char) : Lexing × List Token :=
  if isJsonBlank c then (.idle, tokens)
  else if c = '"' then (.inText [], tokens)
  else if isWordChar c then (.inWord [c], tokens)
  else
    match mark? c with
    | some t => (.idle, t :: tokens)
    | none => (.failed, .bad :: tokens)

def step : Lexing × List Token → Char → Lexing × List Token
  | (.idle, tokens), c => stepIdle tokens c
  | (.inWord chars, tokens), c =>
    if isWordChar c then (.inWord (c :: chars), tokens)
    else stepIdle (.word chars.reverse :: tokens) c
  | (.inText units, tokens), c =>
    if c = '"' then (.idle, .text (joinUnits units.reverse) :: tokens)
    else if c = '\\' then (.escape units, tokens)
    else if c.toNat < 0x20 then (.failed, .bad :: tokens)
    else (.inText (c.toNat :: units), tokens)
  | (.escape units, tokens), c =>
    if c = 'u' then (.codeUnit units 0 0, tokens)
    else
      match escaped? c with
      | some u => (.inText (u :: units), tokens)
      | none => (.failed, .bad :: tokens)
  | (.codeUnit units digits value, tokens), c =>
    match Text.hexValue? c with
    | none => (.failed, .bad :: tokens)
    | some d =>
      if digits = 3 then (.inText ((value * 16 + d) :: units), tokens)
      else (.codeUnit units (digits + 1) (value * 16 + d), tokens)
  | (.failed, tokens), _ => (.failed, tokens)

def finish : Lexing × List Token → List Token
  | (.idle, tokens) => tokens.reverse
  | (.inWord chars, tokens) => (.word chars.reverse :: tokens).reverse
  | (.failed, tokens) => tokens.reverse
  | (_, tokens) => (.bad :: tokens).reverse

def tokens (s : List Char) : List Token := finish (s.foldl step (.idle, []))

example : tokens "[1, \"a\\u00e9\"]".toList =
    [.openList, .word ['1'], .comma, .text ['a', 'é'], .closeList] := by decide +kernel

end StagedSql.Json
