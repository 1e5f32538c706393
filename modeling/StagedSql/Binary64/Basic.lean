/-!
# Binary floating-point numbers of 64 bits

A finite number is a sign, a whole mantissa below `2 ^ 53` and a power of two, so all arithmetic on
it is exact arithmetic on integers. Reading a decimal goes to the nearest such number, and a tie to
the one with the even mantissa.
-/

namespace StagedSql

/-- `finite negative m e` is the number `± m * 2 ^ e`. -/
inductive Binary64 where
  | finite (negative : Bool) (mantissa : Nat) (exponent : Int)
  | infinite (negative : Bool)
  | nan
  deriving DecidableEq, Repr

namespace Binary64

def leastExponent : Int := -1074

def greatestExponent : Int := 971

/-- The whole number nearest to `num / den`, of two equally near the even one. -/
def roundHalfEven (num den : Nat) : Nat :=
  let q := num / den
  let r := num % den
  if 2 * r < den then q
  else if den < 2 * r then q + 1
  else if q % 2 = 0 then q else q + 1

/-- `num / den / 2 ^ e` as a quotient of whole numbers. -/
def scaleDown (num den : Nat) (e : Int) : Nat × Nat :=
  if 0 ≤ e then (num, den * Nat.pow 2 e.toNat) else (num * Nat.pow 2 (-e).toNat, den)

/-- The exponent at which `num / den` has a mantissa below `2 ^ 53`, as small as the format allows. -/
def exponentFor (num den : Nat) : Int :=
  let e := max (Int.ofNat num.log2 - Int.ofNat den.log2 - 53) leastExponent
  let (a, b) := scaleDown num den e
  if a / b < Nat.pow 2 53 then e else e + 1

def ofRatio (negative : Bool) (num den : Nat) : Binary64 :=
  if num = 0 then .finite negative 0 leastExponent
  else
    let e := exponentFor num den
    let (a, b) := scaleDown num den e
    let m := roundHalfEven a b
    if m < Nat.pow 2 53 then
      if e ≤ greatestExponent then .finite negative m e else .infinite negative
    else if e < greatestExponent then .finite negative (Nat.pow 2 52) (e + 1)
    else .infinite negative

/-- A power of ten beyond which every decimal is infinite, or below which it is zero. -/
def decimalReach : Int := 400

/-- The number nearest to `± digits * 10 ^ exponent`. -/
def ofDecimal (negative : Bool) (digits : Nat) (exponent : Int) : Binary64 :=
  let magnitude := Int.ofNat (Nat.toDigits 10 digits).length + exponent
  if digits = 0 ∨ magnitude < -decimalReach then .finite negative 0 leastExponent
  else if decimalReach < magnitude then .infinite negative
  else if 0 ≤ exponent then ofRatio negative (digits * Nat.pow 10 exponent.toNat) 1
  else ofRatio negative digits (Nat.pow 10 (-exponent).toNat)

def isFinite : Binary64 → Bool
  | .finite .. => true
  | _ => false

def isZero : Binary64 → Bool
  | .finite _ m _ => m == 0
  | _ => false

def truncated (negative : Bool) (mantissa : Nat) (exponent : Int) : Int :=
  let (a, b) := scaleDown mantissa 1 (-exponent)
  if negative then -Int.ofNat (a / b) else Int.ofNat (a / b)

def whole? : Binary64 → Option Int
  | .finite negative m e =>
    let (a, b) := scaleDown m 1 (-e)
    if a % b = 0 then some (truncated negative m e) else none
  | _ => none

example : ofDecimal false 1 (-1) = .finite false 7205759403792794 (-56) := by decide +kernel
example : ofDecimal false 1 400 = .infinite false := by decide +kernel
example : ofDecimal true 5 (-324) = .finite true 1 (-1074) := by decide +kernel

end Binary64

end StagedSql
