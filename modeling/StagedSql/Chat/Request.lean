import StagedSql.Chat.Message
import StagedSql.Fault
import StagedSql.Settings
import StagedSql.Url.Basic

/-!
# Requests to the language model

What is asked of the language model, and the request that goes out for it: an address in its normal
form, a key that a header can hold and a body that JSON can hold. What of it does not fit is told in
this order.
-/

namespace StagedSql.Chat

structure Question where
  address : String
  key : Value
  /-- The bound on the duration of one attempt, in seconds. -/
  timeout : Value
  messages : Value
  temperature : Value
  maxTokens : Value
  deriving DecidableEq, Repr

structure Request where
  url : Url
  key : String
  body : Value
  deriving DecidableEq, Repr

def Request.contentType : String := "application/json"

/-! ### Questions -/

def address (endpoint deployment version : String) : String :=
  endpoint ++ "/openai/deployments/" ++ deployment ++ "/chat/completions?api-version=" ++ version

def usualTemperature : Value := .float (.ofDecimal false 1 (-1))

/-- The bound on the tokens of an answer to a question that names none. -/
def usualLength : Value := .int 1500

def Question.of (s : Settings) (messages : List Message) : Question where
  address := Chat.address s.chatEndpoint s.chatDeployment s.chatVersion
  key := .text s.chatKey
  timeout := .float s.chatTimeout
  messages := .list (messages.map Message.toValue)
  temperature := usualTemperature
  maxTokens := usualLength

/-! ### What goes out -/

def Question.body (q : Question) : Value :=
  .object [("messages", q.messages), ("temperature", q.temperature), ("max_tokens", q.maxTokens),
    ("response_format", .object [("type", .text "json_object")])]

def Question.url (q : Question) : Except Fault Url :=
  match (Url.read? q.address.toList).bind Url.resolved? with
  | some url => .ok url
  | none => .error .malformedUrl

def headerText : Value → Except Fault String
  | .text key => if key.toList.all (·.toNat < 0x80) then .ok key else .error .notEncodable
  | _ => .error .wrongKind

def Question.request (q : Question) : Except Fault Request := do
  let url ← q.url
  let key ← headerText q.key
  let body ← Fault.unlessFinite q.body
  if url.host.all (·.toNat < 0x80) then return ⟨url, key, body⟩ else throw .notEncodable

end StagedSql.Chat
