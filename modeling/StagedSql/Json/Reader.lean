import StagedSql.Json.Token

/-!
# Reading JSON

The tokens of a text drive a machine with a stack of open containers. Besides the numbers of the
JSON grammar the words `NaN`, `Infinity` and `-Infinity` are numbers. A key that occurs again keeps
its place and takes the later value. Whole numbers of more than `Text.longestWhole` digits are refused
with an error of their own, and so are texts with too many containers inside one another.
-/

namespace StagedSql.Json

inductive Error where
  | malformed
  | longNumber (digits : Nat)
  | tooDeep
  deriving DecidableEq, Repr

/-! ### Words -/

/-- The digits after a point, and what follows them. A point without a digit after it is no part of
the number. -/
def fraction (s : List Char) : List Char × List Char :=
  match s with
  | '.' :: rest =>
    match rest.takeWhile Text.isAsciiDigit with
    | [] => ([], s)
    | digits => (digits, rest.dropWhile Text.isAsciiDigit)
  | _ => ([], s)

/-- The exponent, and what follows it. A mark without a digit after it is no part of the number. -/
def exponent (s : List Char) : Option Int × List Char :=
  match s with
  | [] => (none, [])
  | e :: rest =>
    let negative := rest.head? = some '-'
    let rest := if negative ∨ rest.head? = some '+' then rest.tail else rest
    let digits := rest.takeWhile Text.isAsciiDigit
    if (e = 'e' ∨ e = 'E') ∧ digits ≠ [] then
      let n := Int.ofNat (Nat.ofDigitChars 10 digits 0)
      (some (if negative then -n else n), rest.dropWhile Text.isAsciiDigit)
    else (none, s)

/-- The digits of a whole number at the front: a zero stands alone. -/
def wholeDigits (s : List Char) : List Char :=
  if s.head? = some '0' then ['0'] else s.takeWhile Text.isAsciiDigit

/-- The number after its sign. The number is as long as the characters allow; that a whole number
has too many digits is told before what may be wrong behind it. -/
def unsignedNumber (negative : Bool) (s : List Char) : Except Error Value :=
  let whole := wholeDigits s
  let (decimals, rest) := fraction (s.drop whole.length)
  let (e, rest) := exponent rest
  if whole = [] then .error .malformed
  else if decimals = [] ∧ e = none ∧ Text.longestWhole < whole.length then
    .error (.longNumber whole.length)
  else if rest ≠ [] then .error .malformed
  else if decimals = [] ∧ e = none then
    let n := Int.ofNat (Nat.ofDigitChars 10 whole 0)
    .ok (.int (if negative then -n else n))
  else
    .ok (.float (.ofDecimal negative (Nat.ofDigitChars 10 (whole ++ decimals) 0)
      (e.getD 0 - Int.ofNat decimals.length)))

def wordValue (s : List Char) : Except Error Value :=
  if s = "null".toList then .ok .null
  else if s = "true".toList then .ok (.bool true)
  else if s = "false".toList then .ok (.bool false)
  else if s = "NaN".toList then .ok (.float .nan)
  else if s = "Infinity".toList then .ok (.float (.infinite false))
  else if s = "-Infinity".toList then .ok (.float (.infinite true))
  else
    match s with
    | '-' :: rest => unsignedNumber true rest
    | _ => unsignedNumber false s

/-! ### The machine -/

/-- A container that is not closed yet. Items are kept last first; a `member` waits for the value of
its key. -/
inductive Frame where
  | items (before : List Value)
  | fields (before : Fields)
  | member (before : Fields) (key : String)

inductive Expected where
  | value
  | valueOrClose
  | commaOrClose
  | key
  | keyOrClose
  | colon
  | nothing (result : Value)

structure Machine where
  stack : List Frame
  expected : Expected

namespace Machine

def start : Machine := ⟨[], .value⟩

/-- Hands a finished value to the innermost open container. -/
def deliver (v : Value) : List Frame → Except Error Machine
  | [] => .ok ⟨[], .nothing v⟩
  | .items before :: outer => .ok ⟨.items (v :: before) :: outer, .commaOrClose⟩
  | .member before key :: outer => .ok ⟨.fields (before.put key v) :: outer, .commaOrClose⟩
  | .fields _ :: _ => .error .malformed

def closeList : List Frame → Except Error Machine
  | .items before :: outer => deliver (.list before.reverse) outer
  | _ => .error .malformed

def closeObject : List Frame → Except Error Machine
  | .fields before :: outer => deliver (.object before) outer
  | _ => .error .malformed

/-- The most containers that may be open at once. -/
def deepest : Nat := 990

def open? (frame : Frame) (expected : Expected) (stack : List Frame) : Except Error Machine :=
  if stack.length < deepest then .ok ⟨frame :: stack, expected⟩ else .error .tooDeep

def takeValue (stack : List Frame) : Token → Except Error Machine
  | .openList => open? (.items []) .valueOrClose stack
  | .openObject => open? (.fields []) .keyOrClose stack
  | .text s => deliver (.text (String.ofList s)) stack
  | .word s => wordValue s >>= fun v => deliver v stack
  | _ => .error .malformed

def takeKey : List Frame → Token → Except Error Machine
  | .fields before :: outer, .text s => .ok ⟨.member before (String.ofList s) :: outer, .colon⟩
  | _, _ => .error .malformed

def step (m : Machine) (t : Token) : Except Error Machine :=
  match m.expected with
  | .value => takeValue m.stack t
  | .valueOrClose => if t = .closeList then closeList m.stack else takeValue m.stack t
  | .commaOrClose =>
    match t, m.stack with
    | .comma, .items _ :: _ => .ok ⟨m.stack, .value⟩
    | .comma, .fields _ :: _ => .ok ⟨m.stack, .key⟩
    | .closeList, stack => closeList stack
    | .closeObject, stack => closeObject stack
    | _, _ => .error .malformed
  | .key => takeKey m.stack t
  | .keyOrClose => if t = .closeObject then closeObject m.stack else takeKey m.stack t
  | .colon => if t = .colon then .ok ⟨m.stack, .value⟩ else .error .malformed
  | .nothing _ => .error .malformed

def result (m : Machine) : Except Error Value :=
  match m.expected with
  | .nothing v => .ok v
  | _ => .error .malformed

end Machine

def read (s : List Char) : Except Error Value :=
  (tokens s).foldlM Machine.step Machine.start >>= Machine.result

example : (read "[1, \x7b\"a\": -2, \"a\": []\x7d, null]".toList).toOption =
    some (.list [.int 1, .object [("a", .list [])], .null]) := by decide +kernel
example : (read "[1,]".toList).toOption = none := by decide +kernel

end StagedSql.Json
