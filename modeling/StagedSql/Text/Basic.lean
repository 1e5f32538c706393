/-!
# Texts as lists of characters

Cutting, searching and joining. Positions and lengths count code points.
-/

namespace StagedSql.Text

/-- Whether `part` occurs in the list as a block of neighbours. -/
def occursIn (part : List Char) : List Char → Bool
  | [] => part.isEmpty
  | c :: rest => part.isPrefixOf (c :: rest) || occursIn part rest

/-- What stands before the first occurrence of `mark`, or everything if there is none. -/
def before (mark : List Char) : List Char → List Char
  | [] => []
  | c :: rest => if mark.isPrefixOf (c :: rest) then [] else c :: before mark rest

/-- The index that a bound of a slice stands for: a negative bound counts from the end. -/
def sliceBound (length : Nat) (bound : Int) : Nat :=
  if bound < 0 then (Int.ofNat length + bound).toNat else bound.toNat

/-- The items before `bound`, which counts from the end if it is negative. -/
def takeUpTo (bound : Int) (items : List α) : List α := items.take (sliceBound items.length bound)

def dropTrailing (p : α → Bool) (items : List α) : List α := (items.reverse.dropWhile p).reverse

def inRanges (ranges : List (Nat × Nat)) (c : Char) : Bool :=
  ranges.any fun r => r.1 ≤ c.toNat && c.toNat ≤ r.2

/-- Each quote `'` is written twice, so that a text can stand between such quotes. -/
def doubleQuotes (s : List Char) : List Char :=
  s.flatMap fun c => if c = '\'' then ['\'', '\''] else [c]

def zeroPadded (width n : Nat) : String :=
  let digits := Nat.toDigits 10 n
  String.ofList (List.replicate (width - digits.length) '0' ++ digits)

@[simp] theorem doubleQuotes_nil : doubleQuotes [] = [] := rfl

end StagedSql.Text
