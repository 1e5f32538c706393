import StagedSql.Chat.Request
import StagedSql.Json.Encoding
import StagedSql.Json.Reader

/-!
# Calling the language model

A question is put until an attempt gives an answer, fails in a way that a further attempt cannot
mend, or the attempts are used up. The pause before the next attempt doubles each time.
-/

namespace StagedSql.Chat

/-! ### Answers -/

inductive Body where
  | value (v : Value)
  | text (s : String)
  deriving DecidableEq, Repr

inductive Outcome where
  | answered (status : Int) (body : Body)
  | unreachable (reason : String)
  | timedOut (reason : String)
  deriving DecidableEq, Repr

def valueOfBytes (bytes : List Nat) : Except Fault Value :=
  match Json.decoded? bytes with
  | none => .error .notDecodable
  | some chars => (Json.read chars).mapError .ofJson

def Body.read : Body → Except Fault Value
  | .value v => .ok v
  | .text s => valueOfBytes (s.toList.flatMap Text.utf8Bytes)

def entryAt (key : String) : Value → Except Fault Value
  | .object fields =>
    match Keyed.lookup? key fields with
    | some v => .ok v
    | none => .error (.missingKey (.text key))
  | _ => .error .wrongKind

/-- The first item of a list or the first character of a text. -/
def firstItem : Value → Except Fault Value
  | .list (v :: _) => .ok v
  | .list [] => .error (.missingItem "list index out of range")
  | .text s =>
    match s.toList with
    | c :: _ => .ok (.text c.toString)
    | [] => .error (.missingItem "string index out of range")
  | .object _ => .error (.missingKey (.int 0))
  | _ => .error .wrongKind

def contentOf (v : Value) : Except Fault Value := do
  entryAt "content" (← entryAt "message" (← firstItem (← entryAt "choices" v)))

/-- The answer that came back; a body that JSON cannot hold does not arrive. -/
def Outcome.arrival : Outcome → Except Fault (Int × Body)
  | .answered status (.value v) => (Fault.unlessFinite v).map fun v => (status, .value v)
  | .answered status body => .ok (status, body)
  | .unreachable reason => .error (.unreachable reason)
  | .timedOut reason => .error (.timedOut reason)

/-- The content that came back for a request. An answer from an address that does not tell where it
leads is not accepted. -/
def Request.content (r : Request) (outcome : Outcome) : Except Fault Value := do
  let (status, body) ← outcome.arrival
  if !r.url.isAbsolute then throw (.value (.notAbsolute r.url.text))
  else if 200 ≤ status ∧ status < 300 then contentOf (← body.read)
  else throw (.webStatus status)

/-! ### Attempts -/

/-- A finished call: its result, the count of attempts, the requests that went out and the pauses
between the attempts, in seconds. -/
structure Call where
  result : Except Fault Value
  attempts : Nat
  requests : List Request
  pauses : List Nat

/-- One attempt. Nothing goes out for a question of which no request can be made. -/
def attempt (q : Question) (outcome : Outcome) : Call :=
  match q.request with
  | .error f => ⟨.error f, 1, [], []⟩
  | .ok r => ⟨r.content outcome, 1, [r], []⟩

def Call.followedBy (first : Call) (pause : Nat) (rest : Call) : Call where
  result := rest.result
  attempts := first.attempts + rest.attempts
  requests := first.requests ++ rest.requests
  pauses := first.pauses ++ pause :: rest.pauses

/-- A call from attempt number `n` on, with a number of attempts left. Without attempts there is no
content. -/
def callFrom (respond : Nat → Outcome) (q : Question) (n : Nat) : Nat → Call
  | 0 => ⟨.ok .null, 0, [], []⟩
  | left + 1 =>
    let first := attempt q (respond n)
    match first.result with
    | .ok _ => first
    | .error f =>
      if f.isCallFailure ∧ left ≠ 0 then
        first.followedBy (Nat.pow 2 n) (callFrom respond q (n + 1) left)
      else first

/-- Puts the question at most `attempts` times; attempt `n` comes out as `respond n`. -/
def call (respond : Nat → Outcome) (attempts : Int) (q : Question) : Call :=
  callFrom respond q 0 attempts.toNat

def callAs (respond : Nat → Outcome) (attempts : Value) (q : Question) : Call :=
  match attempts with
  | .int n => call respond n q
  | .bool b => call respond (if b then 1 else 0) q
  | _ => ⟨.error .wrongKind, 0, [], []⟩

def reply (s : Settings) (respond : Nat → Outcome) (messages : List Message) : Except Fault Value :=
  (call respond s.chatAttempts (Question.of s messages)).result

end StagedSql.Chat
