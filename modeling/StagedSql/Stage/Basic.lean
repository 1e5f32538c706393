import StagedSql.Stage.Kind
import StagedSql.Record.Reader

/-!
# Stages

One declarative step of a pipeline. The payload is kept as it was received; typed readings of it are
made where they are needed.
-/

namespace StagedSql

structure Stage where
  id : String
  kind : StageKind
  description : String
  data : Fields
  deriving DecidableEq, Repr, Inhabited

namespace Stage

/-- The payload's entry `key`, null if there is none. -/
def entry (s : Stage) (key : String) : Value := Value.field s.data key

def referencedTable? (s : Stage) : Option String := (s.entry "table").givenText?

/-- The clock reading that minted stage ids carry, in milliseconds. -/
def clockMillis : Nat := 1700000000000

def mintedId (n : Nat) : String :=
  "stage_" ++ toString clockMillis ++ "_" ++ Text.zeroPadded 9 n

def readKind : Value → Record.Checked StageKind
  | .text s =>
    match StageKind.ofName? s with
    | some k => .good k
    | none => .problem (.notChoice (StageKind.all.map StageKind.name))
  | _ => .problem (.notChoice (StageKind.all.map StageKind.name))

/-- A stage from a record; unknown fields are passed over. -/
def read (fields : Fields) : Record.Checked Stage :=
  Stage.mk <$> Record.required Record.text "id" fields
    <*> Record.required readKind "type" fields
    <*> Record.defaulted Record.text "" "description" fields
    <*> Record.defaulted Record.object [] "data" fields

def toValue (s : Stage) : Value :=
  .object [("id", .text s.id), ("type", .text s.kind.name), ("description", .text s.description),
    ("data", .object s.data)]

end Stage

end StagedSql
