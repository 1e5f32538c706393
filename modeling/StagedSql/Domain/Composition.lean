import StagedSql.Domain.CompositionTable
import StagedSql.Domain.MarkTable

/-!
# Composed labels

A letter with marks can be written as one character or as several. The normal form takes every
character apart, orders the marks on each letter by their classes and puts together again what has a
character of its own.
-/

namespace StagedSql.Domain

/-- The class by which a mark is ordered among the marks on one letter, zero for other characters. -/
def combiningClass (c : Nat) : Nat :=
  ((combiningClasses.find? fun r => r.1 ≤ c && c ≤ r.2.1).map (·.2.2)).getD 0

def composite? (a b : Nat) : Option Nat :=
  (compositions.find? fun r => r.1 = a && r.2.1 = b).map (·.2.2)

/-- A character taken apart as often as `depth` allows. -/
def apart : Nat → Nat → List Nat
  | 0, c => [c]
  | depth + 1, c =>
    match compositions.find? (·.2.2 = c) with
    | some r => apart depth r.1 ++ [r.2.1]
    | none => [c]

/-- No letter carries more marks than this in one character. -/
def mostMarks : Nat := 4

/-- Puts a mark behind the marks at the end of the list whose class is not greater; `marks` is last
first. -/
def insertMark (c : Nat) : List Nat → List Nat
  | [] => [c]
  | d :: earlier =>
    if combiningClass c ≠ 0 ∧ combiningClass c < combiningClass d then d :: insertMark c earlier
    else c :: d :: earlier

def ordered (s : List Nat) : List Nat := (s.foldl (fun marks c => insertMark c marks) []).reverse

/-- What is put together so far: the letter that marks may still join, the marks behind it that have
not joined, last first, and what stands before the letter, last first. -/
structure Joining where
  before : List Nat
  letter : Option Nat
  marks : List Nat

/-- The character that `c` forms with the letter, if no mark stands in the way. -/
def Joining.join? (j : Joining) (c : Nat) : Option Nat :=
  let free := j.marks.head?.all fun m => combiningClass m < combiningClass c
  if free then j.letter.bind fun a => composite? a c else none

def Joining.take (j : Joining) (c : Nat) : Joining :=
  match j.join? c with
  | some d => { j with letter := some d }
  | none =>
    if combiningClass c = 0 then ⟨j.marks ++ (j.letter.toList ++ j.before), some c, []⟩
    else { j with marks := c :: j.marks }

def composed (s : List Nat) : List Nat :=
  let done := (ordered (s.flatMap (apart mostMarks))).foldl Joining.take ⟨[], none, []⟩
  (done.marks ++ (done.letter.toList ++ done.before)).reverse

def isComposed (s : List Char) : Bool := composed (s.map Char.toNat) = s.map Char.toNat

example : isComposed "é".toList = true := by decide +kernel
example : isComposed ['e', Char.ofNat 0x301] = false := by decide +kernel

end StagedSql.Domain
