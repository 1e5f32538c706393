import StagedSql.Json.Writer
import StagedSql.Record.Reader

/-!
# Progress events

What a running import reports, and the text of an event on a server-sent event stream: a line with
the type, a line with the record as JSON, and an empty line.
-/

namespace StagedSql.Flow

structure Event where
  stage : String
  progress : Int
  message : Option String
  data : Option Fields
  error : Option String
  deriving DecidableEq, Repr

namespace Event

open Record

def read (fields : Fields) : Checked Event :=
  Event.mk <$> required text "stage" fields
    <*> required whole "progress" fields
    <*> optional text "message" fields <*> optional object "data" fields
    <*> optional text "error" fields

def toValue (e : Event) : Value :=
  .object [("stage", .text e.stage), ("progress", .int e.progress),
    ("message", Value.ofOption .text e.message), ("data", Value.ofOption .object e.data),
    ("error", Value.ofOption .text e.error)]

def streamText (type : String) (e : Event) : String :=
  "event: " ++ type ++ "\ndata: " ++ Json.render e.toValue ++ "\n\n"

def doneText : String := "event: done\ndata: \x7b\x7d\n\n"

end Event

end StagedSql.Flow
