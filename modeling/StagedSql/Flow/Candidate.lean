import StagedSql.Fault
import StagedSql.Stage.Completeness
import StagedSql.Value.Display

/-!
# Screening candidate stages

A candidate is any value that claims to be a stage: an item of a saved flow or of a suggestion. It
becomes a stage if it has a known kind, a well-formed record and all required fields; otherwise it
is dropped with the reason. Nothing is coerced. Ids that are not kept, and ids that an earlier
candidate already has, are minted anew.
-/

namespace StagedSql.Flow

inductive DropReason where
  | notAnObject
  | unknownKind (given : Value)
  | dataNotAnObject
  | malformed (report : Record.Report)
  | incomplete (kind : StageKind) (missing : List String)
  deriving DecidableEq, Repr

def DropReason.message : DropReason → String
  | notAnObject => "candidate must be an object"
  | unknownKind given => "unknown stage type " ++ given.shown
  | dataNotAnObject => "data must be an object"
  | malformed report => report.text
  | incomplete kind missing => kind.name ++ " stage missing " ++ String.intercalate ", " missing

structure Dropped where
  index : Int
  reason : DropReason
  candidate : Value
  deriving DecidableEq, Repr

def Dropped.toFields (d : Dropped) : Fields :=
  [("index", .int d.index), ("reason", .text d.reason.message),
    ("candidate", match d.candidate with
      | .object fields => .object fields
      | v => .object [("value", v)])]

def Dropped.toValue (d : Dropped) : Value := .object d.toFields

/-- The outcome of screening. `minted` counts the stage ids minted so far, `seen` holds the ids of
all candidates that became stages. -/
structure Screening where
  accepted : List Stage
  dropped : List Dropped
  seen : List String
  minted : Nat
  deriving DecidableEq, Repr

/-- The stage that a candidate describes, and the count of minted ids afterwards. -/
def stageOfCandidate (keepId : Bool) (minted : Nat) (candidate : Value) :
    Except DropReason Stage × Nat :=
  match candidate with
  | .object fields =>
    let kind := Value.field fields "type"
    match StageKind.ofLooseName? kind.display with
    | none => (.error (.unknownKind kind), minted)
    | some k =>
      let data := Value.field fields "data"
      let data := if data.isGiven then data else .object []
      if data.object?.isNone then (.error .dataNotAnObject, minted)
      else
        let id := if keepId then Value.field fields "id" else .null
        let description := Value.field fields "description"
        let stage := Stage.read [
          ("id", if id.isGiven then id else .text (Stage.mintedId (minted + 1))),
          ("type", .text k.name),
          ("description", if description.isGiven then description else .text ""),
          ("data", data)]
        let outcome := match stage.report "Stage" with
          | .ok s => .ok s
          | .error r => .error (.malformed r)
        (outcome, if id.isGiven then minted else minted + 1)
  | _ => (.error .notAnObject, minted)

namespace Screening

def drop (s : Screening) (index : Int) (candidate : Value) (reason : DropReason) : Screening :=
  { s with dropped := s.dropped ++ [⟨index, reason, candidate⟩] }

/-- Takes a stage whose id may clash with that of an earlier candidate. -/
def enrol (s : Screening) (index : Int) (candidate : Value) (stage : Stage) : Screening :=
  let clash := stage.id ∈ s.seen
  let stage := if clash then { stage with id := Stage.mintedId (s.minted + 1) } else stage
  let s := { s with
    minted := if clash then s.minted + 1 else s.minted
    seen := s.seen ++ [stage.id] }
  if stage.isComplete then { s with accepted := s.accepted ++ [stage] }
  else s.drop index candidate (.incomplete stage.kind stage.missingFields)

def take (keepIds : Bool) (s : Screening) (index : Int) (candidate : Value) : Screening :=
  match stageOfCandidate keepIds s.minted candidate with
  | (.ok stage, minted) => { s with minted }.enrol index candidate stage
  | (.error reason, minted) => { s with minted }.drop index candidate reason

def takeAll (keepIds : Bool) (s : Screening) (index : Int) : List Value → Screening
  | [] => s
  | c :: rest => (s.take keepIds index c).takeAll keepIds (index + 1) rest

end Screening

/-- Screens candidates; their positions count from `start`, minted ids from `minted`. -/
def screen (keepIds : Bool) (start : Int) (minted : Nat) (candidates : List Value) : Screening :=
  (Screening.mk [] [] [] minted).takeAll keepIds start candidates

/-- Screens candidates from a start given as a value. Positions need a number to count from; whether
it is whole is looked at only where a candidate is dropped. -/
def screenFrom (keepIds : Bool) (start : Value) (candidates : List Value) :
    Except Fault Screening :=
  let screening := screen keepIds 0 0 candidates
  match start with
  | .int _ | .bool _ | .float _ =>
    if screening.dropped = [] then .ok screening
    else
      match ((Record.whole start).under (.name "index")).report "DroppedCandidate" with
      | .ok i => .ok (screen keepIds i 0 candidates)
      | .error r => .error (.report r)
  | _ => if candidates = [] then .ok screening else .error .wrongKind

end StagedSql.Flow
