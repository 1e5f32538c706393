import StagedSql.Fault
import StagedSql.Text.Case

/-!
# Replies of the language model

A reply is a JSON object, possibly inside a code fence. Reading it as a suggestion never fails: what
is missing or of the wrong kind is left out.
-/

namespace StagedSql

structure Chart where
  type : Value
  x : Value
  y : Value
  z : Value
  deriving DecidableEq, Repr

def Chart.toValue (c : Chart) : Value :=
  .object [("type", c.type), ("x", c.x), ("y", c.y), ("z", c.z)]

/-- What a reply proposes: candidate stages, and tables to define before them. -/
structure Suggestion where
  sql : Option String
  explanation : Option String
  chart : Option Chart
  stages : List Value
  tables : List Fields
  deriving DecidableEq, Repr

namespace Suggestion

/-! ### The object in a reply -/

def fence : List Char := "```".toList

/-- The text inside a fence at the beginning of `s`, without the name of the format; a text that
begins otherwise is taken as it is. -/
def unfenced (s : List Char) : List Char :=
  if fence.isPrefixOf s then
    let content := Text.before fence (s.drop fence.length)
    if "json".toList.isPrefixOf (Text.lowerChars content) then content.drop 4 else content
  else s

def objectOfReply (reply : String) : Except Fault Fields :=
  match Json.read (Text.trim (unfenced (Text.trim reply.toList))) with
  | .ok (.object fields) => .ok fields
  | .ok _ => .error (.value .notAnObject)
  | .error e => .error (.ofJson e)

/-! ### The suggestion in an object -/

def listItems : Value → List Value
  | .list items => items
  | _ => []

def chartOf (fields : Fields) : Option Chart :=
  let type := Value.field fields "chartType"
  if type.isGiven ∧ type ≠ .text "none" then
    some ⟨type, Value.field fields "xAxis", Value.field fields "yAxis", Value.field fields "zAxis"⟩
  else none

def ofFields (fields : Fields) : Suggestion where
  sql := (Value.field fields "sql").text?
  explanation := (Value.field fields "explanation").text?
  chart := chartOf fields
  stages := listItems (Value.field fields "transformationStages")
  tables := (listItems (Value.field fields "tables")).filterMap Value.object?

end Suggestion

end StagedSql
