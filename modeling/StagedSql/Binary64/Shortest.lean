import StagedSql.Binary64.Basic

/-!
# The shortest decimal that reads back

Of the decimals that round to a given number, the one with the fewest digits, and of several with
that many digits the nearest. How such a decimal is laid out (where the point stands, when an
exponent is written) is a record of its own, chosen by the format that writes it.
-/

namespace StagedSql.Binary64

/-- The decimal `0.d₁d₂… * 10 ^ point`. -/
structure Decimal where
  digits : List Char
  point : Int
  deriving DecidableEq, Repr

/-- The position of the point before the first digit of `num / den`, or one place less at an exact
power of ten below one. -/
def pointOf (num den : Nat) : Int :=
  if den ≤ num then Int.ofNat (Nat.toDigits 10 (num / den)).length
  else 1 - Int.ofNat (Nat.toDigits 10 (den / num)).length

/-- `num / den / 10 ^ s` as a quotient of whole numbers. -/
def onGrid (num den : Nat) (s : Int) : Nat × Nat :=
  if 0 ≤ s then (num, den * Nat.pow 10 s.toNat) else (num * Nat.pow 10 (-s).toNat, den)

/-- Whether the decimal `c` reads back as the number with mantissa `m` whose exact value is `a / b`
in the units of `c`. Half a unit of the last place is `a / b / (2 * m)`, and half of that below a
power of two, which is `narrow`. -/
def readsBack (m : Nat) (narrow : Bool) (a b c : Nat) : Bool :=
  let gap := if c * b ≤ a then (a - c * b) * (if narrow then 4 * m else 2 * m)
    else (c * b - a) * (2 * m)
  if m % 2 = 0 then gap ≤ a else gap < a

/-- The nearest of the two neighbours of `a / b` that read back. -/
def nearestNeighbour? (m : Nat) (narrow : Bool) (a b : Nat) : Option Nat :=
  let low := a / b
  let lowFits := readsBack m narrow a b low
  let highFits := readsBack m narrow a b (low + 1)
  let lowGap := a - low * b
  let highGap := (low + 1) * b - a
  if lowFits && highFits then
    if lowGap < highGap ∨ lowGap = highGap ∧ low % 2 = 0 then some low else some (low + 1)
  else if lowFits then some low
  else if highFits then some (low + 1)
  else none

/-- The decimal `c * 10 ^ s` without trailing zeros. -/
def decimalOf (c : Nat) (s : Int) : Decimal :=
  let digits := Nat.toDigits 10 c
  ⟨(digits.reverse.dropWhile (· == '0')).reverse, Int.ofNat digits.length + s⟩

/-- The shortest decimal for `m * 2 ^ e`. Seventeen digits are always enough. -/
def shortest (m : Nat) (e : Int) : Decimal :=
  if m = 0 then ⟨['0'], 1⟩
  else
    let (num, den) := scaleDown m 1 (-e)
    let point := pointOf num den
    let narrow := m == Nat.pow 2 52 && leastExponent < e
    let tryDigits (n : Nat) : Option Decimal :=
      let s := point - Int.ofNat n
      let (a, b) := onGrid num den s
      (nearestNeighbour? m narrow a b).map (decimalOf · s)
    ((List.range 18).findSome? tryDigits).getD ⟨['0'], 1⟩

/-! ### Layout -/

/-- How a format writes a decimal: positionally when the point stands within the two bounds, and
otherwise with an exponent of at least `exponentWidth` digits. -/
structure Layout where
  leastPoint : Int
  greatestPoint : Int
  plusSign : Bool
  exponentWidth : Nat

namespace Layout

/-- A number with a point and at least one digit on either side of it. -/
def positional (d : Decimal) : List Char :=
  if d.point ≤ 0 then '0' :: '.' :: List.replicate (-d.point).toNat '0' ++ d.digits
  else
    let n := d.point.toNat
    if d.digits.length ≤ n then
      d.digits ++ List.replicate (n - d.digits.length) '0' ++ ['.', '0']
    else d.digits.take n ++ '.' :: d.digits.drop n

def scientific (l : Layout) (d : Decimal) : List Char :=
  let e := d.point - 1
  let width := Nat.toDigits 10 e.natAbs
  let significand :=
    match d.digits with
    | first :: second :: more => first :: '.' :: second :: more
    | digits => digits
  let sign := if e < 0 then ['-'] else if l.plusSign then ['+'] else []
  significand ++ 'e' :: sign ++ List.replicate (l.exponentWidth - width.length) '0' ++ width

def write (l : Layout) (negative : Bool) (d : Decimal) : List Char :=
  (if negative then ['-'] else []) ++
    (if l.leastPoint ≤ d.point ∧ d.point ≤ l.greatestPoint then positional d else l.scientific d)

end Layout

def text? (l : Layout) : Binary64 → Option (List Char)
  | .finite negative m e => some (l.write negative (shortest m e))
  | _ => none

example : shortest 7205759403792794 (-56) = ⟨['1'], 0⟩ := by decide +kernel
example : shortest 1 (-1074) = ⟨['5'], -323⟩ := by decide +kernel

end StagedSql.Binary64
