/-!
# Punycode

A label with characters beyond ASCII as a label of letters, digits and hyphens: first the ASCII
characters, then, in ascending order, the places of the others. Each place is written as a
difference to the one before, in digits of base 36 whose thresholds follow the size of the
differences.
-/

namespace StagedSql.Domain.Punycode

/-! ### Digits -/

/-- The digit of a value below 36: letters first, then decimal digits. -/
def digitChar (d : Nat) : Char :=
  if d < 26 then Char.ofNat ('a'.toNat + d) else Char.ofNat ('0'.toNat + (d - 26))

def digitValue? (c : Char) : Option Nat :=
  if 'a' ≤ c ∧ c ≤ 'z' then some (c.toNat - 'a'.toNat)
  else if 'A' ≤ c ∧ c ≤ 'Z' then some (c.toNat - 'A'.toNat)
  else if '0' ≤ c ∧ c ≤ '9' then some (c.toNat - '0'.toNat + 26)
  else none

/-- A digit below the threshold ends a number. `place` is 36 for the first digit and grows by 36. -/
def threshold (bias place : Nat) : Nat := max 1 (min 26 (place - bias))

theorem threshold_pos (bias place : Nat) : 1 ≤ threshold bias place := by
  simp only [threshold]
  omega

def settle (difference bias : Nat) : Nat :=
  if 455 < difference then settle (difference / 35) (bias + 36)
  else bias + 36 * difference / (difference + 38)
termination_by difference
decreasing_by exact Nat.div_lt_self (by omega) (by omega)

def adapted (difference count : Nat) (first : Bool) : Nat :=
  let scaled := if first then difference / 700 else difference / 2
  settle (scaled + scaled / count) 0

def number (bias place n : Nat) : List Char :=
  let t := threshold bias place
  if n < t then [digitChar n]
  else digitChar (t + (n - t) % (36 - t)) :: number bias (place + 36) ((n - t) / (36 - t))
termination_by n
decreasing_by
  have h1 := threshold_pos bias place
  have h2 := Nat.div_le_self (n - threshold bias place) (36 - threshold bias place)
  omega

/-! ### Encoding -/

/-- The state of encoding. Characters below `n` are placed, `placed` of them; `difference` counts the
places passed since the last one that was written. -/
structure Encoding where
  n : Nat
  placed : Nat
  difference : Nat
  bias : Nat
  output : List Char

/-- Passes one character of the label while those of code point `e.n` are placed. -/
def Encoding.pass (basic : Nat) (e : Encoding) (c : Char) : Encoding :=
  if c.toNat < e.n then { e with difference := e.difference + 1 }
  else if c.toNat = e.n then
    { e with
      placed := e.placed + 1
      difference := 0
      bias := adapted e.difference (e.placed + 1) (e.placed = basic)
      output := e.output ++ number e.bias 36 e.difference }
  else e

def Encoding.place (label : List Char) (basic : Nat) (e : Encoding) (n : Nat) : Encoding :=
  let start := { e with n, difference := e.difference + (n - e.n) * (e.placed + 1) }
  let done := label.foldl (Encoding.pass basic) start
  { done with n := n + 1, difference := done.difference + 1 }

def isBasic (c : Char) : Bool := c.toNat < 0x80

def extendedPoints (label : List Char) : List Nat :=
  ((label.filter (!isBasic ·)).map Char.toNat).mergeSort.eraseDups

def encode (label : List Char) : List Char :=
  let basic := label.filter isBasic
  let start : Encoding := ⟨0x80, basic.length, 0, 72, []⟩
  let done := (extendedPoints label).foldl (Encoding.place label basic.length) start
  (if basic = [] then [] else basic ++ ['-']) ++ done.output

/-! ### Decoding -/

/-- Reads a number of digits worth `weight` and more on top of `n`; hands out what follows it. -/
def readNumber? (bias place weight n : Nat) : List Char → Option (Nat × List Char)
  | [] => none
  | c :: rest =>
    match digitValue? c with
    | none => none
    | some d =>
      let t := threshold bias place
      if d < t then some (n + d * weight, rest)
      else readNumber? bias (place + 36) (weight * (36 - t)) (n + d * weight) rest

theorem readNumber?_length {bias place weight n m : Nat} {s rest : List Char}
    (h : readNumber? bias place weight n s = some (m, rest)) : rest.length < s.length := by
  induction s generalizing place weight n with
  | nil => simp [readNumber?] at h
  | cons c s ih =>
    simp only [readNumber?] at h
    split at h
    · simp at h
    · split at h
      · simp only [Option.some.injEq, Prod.mk.injEq] at h
        simp [h.2]
      · have := ih h
        simp only [List.length_cons]
        omega

def char? (n : Nat) : Option Char :=
  if n < 0xD800 ∨ 0xDFFF < n ∧ n < 0x110000 then some (Char.ofNat n) else none

/-- Inserts characters at the places that the digits tell, from code point `n` and place `i` on. -/
def insertAll? (bias n i : Nat) (label s : List Char) : Option (List Char) :=
  if s = [] then some label
  else
    match _h : readNumber? bias 36 1 i s with
    | none => none
    | some (j, rest) =>
      let count := label.length + 1
      let n := n + j / count
      match char? n with
      | none => none
      | some c =>
        insertAll? (adapted (j - i) count (i = 0)) n (j % count + 1)
          (label.take (j % count) ++ c :: label.drop (j % count)) rest
termination_by s.length
decreasing_by exact readNumber?_length ‹_›

/-- The label that an encoded one stands for: its last hyphen ends the ASCII characters. -/
def decode? (s : List Char) : Option (List Char) :=
  let digits := (s.reverse.takeWhile (· ≠ '-')).reverse
  insertAll? 72 0x80 0 (s.take (s.length - digits.length - 1)) digits

example : encode "é".toList = "9ca".toList := by decide +kernel
example : encode "bücher".toList = "bcher-kva".toList := by decide +kernel
example : decode? "bcher-kva".toList = some "bücher".toList := by decide +kernel

end StagedSql.Domain.Punycode
