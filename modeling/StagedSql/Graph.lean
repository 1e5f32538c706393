import StagedSql.TableName
import StagedSql.Stage.Basic

/-!
# The dependency graph

Which stages feed which, read off the table names in their payloads. The stages are passed through in
order while the producers known so far are kept, so an input always stands earlier; a later producer
of a name shadows an earlier one.
-/

namespace StagedSql

namespace Stage

/-- The items of a list of tables that a payload gives under `key`, as far as they are names. Nothing
given is the same as the empty list. -/
def tableNames (s : Stage) (key : String) : Except Fault (List String) :=
  let v := s.entry key
  if v.isGiven then
    match v.elements? with
    | some items => .ok (items.filterMap Value.givenText?)
    | none => .error .wrongKind
  else .ok []

def referencedTables (s : Stage) : Except Fault (List String) :=
  match s.kind with
  | .join => .ok ([s.entry "leftTable", s.entry "rightTable"].filterMap Value.givenText?)
  | .union => s.tableNames "tables"
  | .filter | .group | .select | .sort => .ok s.referencedTable?.toList
  | .load | .aggregate | .custom => .ok []

def producedTables (s : Stage) (i : Nat) : List String :=
  match s.kind with
  | .load => (s.entry "tableName").givenText?.toList
  | .join =>
    let left := s.entry "leftTable"
    let right := s.entry "rightTable"
    if left.isGiven && right.isGiven then
      [TableName.result i .join, TableName.joined left.display right.display]
    else [TableName.result i .join]
  | kind => [TableName.result i kind]

end Stage

namespace Graph

structure Node where
  stage : Stage
  inputs : List String
  level : Nat
  deriving DecidableEq, Repr

/-- The nodes so far, and the producer of every table name so far. -/
structure Progress where
  nodes : Keyed Node
  producers : Keyed String

/-- The producers of the given names, each once, in the order of first mention. -/
def inputsOf (producers : Keyed String) (names : List String) : List String :=
  names.foldl (fun inputs name =>
    match producers.lookup? name with
    | some p => if p ∈ inputs then inputs else inputs ++ [p]
    | none => inputs) []

/-- One more than the highest level among the inputs; a stage without inputs has level zero. -/
def levelOf (nodes : Keyed Node) (inputs : List String) : Nat :=
  inputs.foldl (fun level i => max level (((nodes.lookup? i).map (·.level + 1)).getD 0)) 0

/-- Passes the stage at position `i`. Its own names become known after its inputs are settled. -/
def Progress.pass (g : Progress) (i : Nat) (s : Stage) : Except Fault Progress := do
  let inputs := inputsOf g.producers (← s.referencedTables)
  let nodes := g.nodes.put s.id ⟨s, inputs, 0⟩
  .ok { nodes := nodes.put s.id ⟨s, inputs, levelOf nodes inputs⟩
        producers := (s.producedTables i).foldl (fun known name => known.put name s.id) g.producers }

def Progress.passAll (g : Progress) (i : Nat) : List Stage → Except Fault Progress
  | [] => .ok g
  | s :: rest => g.pass i s >>= fun g => g.passAll (i + 1) rest

/-- The nodes of a list of stages by stage id, in the order of the list. -/
def build (stages : List Stage) : Except Fault (Keyed Node) :=
  ((Progress.mk [] []).passAll 0 stages).map (·.nodes)

/-! ### Edges -/

/-- An edge is implicit if it only stands for the order of the stages. -/
structure Edge where
  source : String
  target : String
  implicit : Bool
  deriving DecidableEq, Repr

/-- The edges into `s`, which stands right after `previous`. A stage without inputs hangs on the
previous one, unless either of the two is a load. -/
def edgesInto (nodes : Keyed Node) (previous : Option Stage) (s : Stage) : List Edge :=
  if s.kind = .load then []
  else
    match nodes.lookup? s.id with
    | none => []
    | some node =>
      if node.inputs ≠ [] then node.inputs.map fun i => ⟨i, s.id, false⟩
      else
        match previous with
        | some p => if p.kind = .load then [] else [⟨p.id, s.id, true⟩]
        | none => []

def edgesAfter (nodes : Keyed Node) (previous : Option Stage) : List Stage → List Edge
  | [] => []
  | s :: rest => edgesInto nodes previous s ++ edgesAfter nodes (some s) rest

def edges (stages : List Stage) (nodes : Keyed Node) : List Edge := edgesAfter nodes none stages

/-! ### Forward references -/

def firstProducers (stages : List Stage) : Keyed Nat :=
  stages.zipIdx.foldl (fun known s =>
    (s.1.producedTables s.2).foldl (fun known name =>
      if (known.lookup? name).isSome then known else known.put name s.2) known) []

/-- The names in a stage at position `i` that are produced at that position or later, but not
earlier. -/
def forwardIn (producers : Keyed Nat) (i : Nat) (s : Stage) :
    Except Fault (List (String × String)) :=
  s.referencedTables.map fun names =>
    (names.filter fun name =>
      match producers.lookup? name with
      | some p => i ≤ p
      | none => false).map (s.id, ·)

/-- The references that only a later stage can satisfy: stage id and table name. -/
def forwardReferences (stages : List Stage) : Except Fault (List (String × String)) :=
  (stages.zipIdx.mapM fun s => forwardIn (firstProducers stages) s.2 s.1).map List.flatten

end Graph

end StagedSql
