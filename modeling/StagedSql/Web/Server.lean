import StagedSql.Session.Suggest
import StagedSql.Web.Request
import StagedSql.Web.Route

/-!
# The service

Every request gets an answer. Errors of the pipeline have a status of their own, a body that fails
its schema is answered with all its problems, and any other fault is an internal error.
-/

namespace StagedSql.Web

inductive AnswerBody where
  | value (v : Value)
  /-- A stream of events, each with its type. -/
  | events (items : List (String × Value))
  | text (s : String)
  deriving DecidableEq, Repr

structure Answer where
  status : Nat
  body : AnswerBody
  deriving DecidableEq, Repr

namespace Answer

def record (fields : Fields) : Answer := ⟨200, .value (Value.object fields).interchange⟩

def value (v : Value) : Answer := ⟨200, .value v.interchange⟩

def detail (status : Nat) (sentence : String) : Answer :=
  ⟨status, .value (.object [("detail", .text sentence)])⟩

def internalError : Answer := ⟨500, .text "Internal Server Error"⟩

def stepValue : Record.Step → Value
  | .name s => .text s
  | .index i => .int i

def problemValue (p : Record.Problem) : Value :=
  .object [("type", .text p.complaint.code), ("loc", .list (p.path.map stepValue)),
    ("msg", .text p.complaint.message)]

def malformed (problems : List Record.Problem) : Answer :=
  ⟨422, .value (.object [("detail", .list (problems.map problemValue))])⟩

def ofError (e : PipelineError) : Answer := ⟨e.status, .value e.toValue⟩

end Answer

/-! ### Records of answers -/

def stagesFields (s : Store) : Fields :=
  [("stages", .list (s.stages.map Stage.toValue)),
    ("stage_tables", .object (s.outputs.map fun e => (e.1, .text e.2))), ("version", .int s.version)]

def tablesFields (s : Store) : Fields :=
  [("tables", .list (s.tables.values.map fun t => .object t.summary)),
    ("active_table_id", .ofOption .text s.active)]

def nodeValue (id : String) (n : Graph.Node) : Value :=
  .object [("id", .text id), ("type", .text n.stage.kind.name),
    ("description", .text n.stage.description), ("inputs", .list (n.inputs.map .text)),
    ("level", .int n.level)]

def edgeValue (e : Graph.Edge) : Value :=
  .object [("source", .text e.source), ("target", .text e.target), ("implicit", .bool e.implicit)]

def rootFields : Fields :=
  [("message", .text "Stageflow API"), ("docs", .text "/docs"), ("version", .text "0.1.0")]

/-! ### Endpoints -/

def withBody (body : Record.Checked α) (f : α → Action Answer) : Action Answer :=
  match body with
  | .good a => f a
  | .bad problems => return .malformed problems

def stageOf (b : StageBody) : Action Stage := do
  let id ← match b.id.filter (· ≠ "") with
    | some id => pure id
    | none => Action.mintStageId
  return ⟨id, b.kind, b.description, b.data⟩

def upload (name content : String) : Action Answer := do
  if !".csv".toList.isSuffixOf (Text.lowerChars name.toList) then
    return .detail 400 "Only .csv files are supported"
  else if content = "" then return .detail 400 "Empty file"
  else
    let (table, load) ← Action.loadCsv name content
    return .record [("table", table.toValue), ("stage_id", .text load.stage.id)]

/-- A flow as it stands; a number that is not finite cannot be written. -/
def exported : Action Answer := do
  let flow := Value.list (← Action.exportFlow)
  return if flow.interchange = flow then .value flow else .internalError

/-- The events of an import as a stream: those reported, then the report and the end. After an error
of the pipeline an event tells it; after any other fault the stream breaks off. -/
def streamed (b : FlowBody) : Action Answer := fun s =>
  let item (e : Flow.Event) : String × Value := (e.stage, e.toValue.interchange)
  let reported (later : Session) := (later.events.drop s.events.length).map item
  let done : String × Value := ("done", .object [])
  match Action.importFlow b.mode false b.stages s with
  | .ok r later =>
    let result : Flow.Event := ⟨"result", 100, none, some r.toFields, none⟩
    .ok ⟨200, .events (reported later ++ [item result, done])⟩ later
  | .error (.pipeline e) later =>
    let error : Flow.Event := ⟨"error", 0, none, none, some e.message⟩
    .ok ⟨200, .events (reported later ++ [item error, done])⟩ later
  | .error _ later => .ok ⟨200, .events (reported later)⟩ later

/-- What an endpoint does with the body of a request. The language model is asked through `call`. -/
def Endpoint.run (call : List Chat.Message → Except Fault Value) (body : RequestBody) :
    Endpoint → Action Answer
  | health => return .record [("status", .text "ok")]
  | config => return .record [("llm_enabled", .bool (← get).chatEnabled)]
  | listTables => return .record (tablesFields (← Action.store))
  | showTable id => return .value (← Action.ofPipeline ((← Action.store).getTable id)).toValue
  | uploadTable => withBody body.readFile fun (name, content) => upload name content
  | createTable => withBody (body.read readDefinition) fun definition => do
    return .value (← Action.createTable definition).toValue
  | activateTable id => return .value (← Action.setActive id).toValue
  | deleteTable id => do
    let table ← Action.deleteTable id
    return .record [("deleted", .text table.id), ("name", .text table.name)]
  | listStages => return .record (stagesFields (← Action.store))
  | showGraph => do
    let (nodes, edges) ← Action.graph
    return .record [("nodes", .list (nodes.map fun n => nodeValue n.2.stage.id n.2)),
      ("edges", .list (edges.map edgeValue))]
  | addStage => withBody (body.read StageBody.read) fun b => do
    return .value (← Action.addStage (← stageOf b) b.active).toValue
  | updateStage id => withBody (body.read StageEdit.read) fun b => do
    return .value (← Action.updateStage id b.data b.kind b.description b.active).toValue
  | deleteStage id => return .record [("deleted", .text (← Action.deleteStage id).id)]
  | validateStage => withBody (body.read StageBody.read) fun b => do
    let missing := (← stageOf b).missingFields
    return .record [("valid", .bool missing.isEmpty), ("missing", .list (missing.map .text))]
  | compileStage => withBody (body.read StageBody.read) fun b => do
    let (sql, input) ← Action.previewStage (← stageOf b) b.active
    return .record [("sql", .text sql), ("input_table", .ofOption .text input)]
  | exportFlow => exported
  | importFlow => withBody (body.read FlowBody.read) fun b => do
    return .record (← Action.importFlow b.mode false b.stages).toFields
  | streamFlow => withBody (body.read FlowBody.read) streamed
  | suggest => withBody (body.read GoalBody.read) fun b => do
    return .record ((← Action.suggest call b.prompt b.apply).toFields ImportReport.toFields)
  | root => return .record rootFields

/-! ### Requests -/

def answered (action : Action Answer) (s : Session) : Answer × Session :=
  match action s with
  | .ok answer later => (answer, later)
  | .error (.pipeline e) later => (.ofError e, later)
  | .error _ later => (.internalError, later)

/-- The answer to a request. A request for the head alone gets no body. -/
def respond (call : List Chat.Message → Except Fault Value) (r : Request) (s : Session) :
    Answer × Session :=
  let (answer, later) := match resolve r.method longestRedirect r.target.toList with
    | .endpoint e => answered (e.run call r.body) s
    | .wrongMethod => (.detail 405 "Method Not Allowed", s)
    | .notFound => (.detail 404 "Not Found", s)
  (if r.method = "HEAD" then { answer with body := .text "" } else answer, later)

def exchange (call : List Chat.Message → Except Fault Value) (r : Request) (s : Session) :
    Except Fault (Answer × Session) := do
  r.check
  return respond call r s

end StagedSql.Web
