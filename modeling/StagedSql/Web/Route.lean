import StagedSql.Web.Path

/-!
# Routes

The endpoints of the service with their methods and paths. The first route that fits both decides;
if only the path fits some route, the method is wrong.
-/

namespace StagedSql.Web

inductive Endpoint where
  | health
  | config
  | listTables
  | showTable (id : String)
  | uploadTable
  | createTable
  | activateTable (id : String)
  | deleteTable (id : String)
  | listStages
  | showGraph
  | addStage
  | updateStage (id : String)
  | deleteStage (id : String)
  | validateStage
  | compileStage
  | exportFlow
  | importFlow
  | streamFlow
  | suggest
  | root
  deriving DecidableEq, Repr

/-- A method with a path: a fixed one, or the beginning of one that ends in an id. -/
inductive Route where
  | fixed (method path : String) (endpoint : Endpoint)
  | withId (method start : String) (endpoint : String → Endpoint)

namespace Route

def method : Route → String
  | fixed m _ _ | withId m _ _ => m

/-- The endpoint if the path fits. A fixed path may have a line feed at its end; an id is not empty
and has no slash. -/
def endpoint? (path : List Char) : Route → Option Endpoint
  | fixed _ p e => if path = p.toList ∨ path = p.toList ++ ['\n'] then some e else none
  | withId _ start e =>
    let id := path.drop start.toList.length
    if start.toList.isPrefixOf path ∧ id ≠ [] ∧ '/' ∉ id then some (e (String.ofList id)) else none

end Route

def routes : List Route :=
  [.fixed "GET" "/health" .health,
    .fixed "GET" "/config" .config,
    .fixed "GET" "/tables" .listTables,
    .withId "GET" "/tables/" .showTable,
    .fixed "POST" "/tables/upload" .uploadTable,
    .fixed "POST" "/tables" .createTable,
    .withId "PUT" "/tables/active/" .activateTable,
    .withId "DELETE" "/tables/" .deleteTable,
    .fixed "GET" "/stages" .listStages,
    .fixed "GET" "/stages/graph" .showGraph,
    .fixed "POST" "/stages" .addStage,
    .withId "PUT" "/stages/" .updateStage,
    .withId "DELETE" "/stages/" .deleteStage,
    .fixed "POST" "/stages/validate" .validateStage,
    .fixed "POST" "/stages/compile" .compileStage,
    .fixed "GET" "/flows/export" .exportFlow,
    .fixed "POST" "/flows/import" .importFlow,
    .fixed "POST" "/flows/import_stream" .streamFlow,
    .fixed "POST" "/suggestions/transform" .suggest,
    .fixed "GET" "/" .root]

inductive Destination where
  | endpoint (e : Endpoint)
  | wrongMethod
  | notFound
  deriving DecidableEq, Repr

def destination (method : String) (path : List Char) : Destination :=
  match (routes.filter fun r => r.method = method).findSome? (·.endpoint? path) with
  | some e => .endpoint e
  | none => if routes.any fun r => (r.endpoint? path).isSome then .wrongMethod else .notFound

/-- The path without the slashes at its end, if it has some and is more than one slash. -/
def withoutEndSlashes? (path : List Char) : Option (List Char) :=
  if path ≠ ['/'] ∧ path.getLast? = some '/' then some (Text.dropTrailing (· = '/') path) else none

/-- Where a method and a target lead. A path with slashes at its end that leads nowhere is tried
again without them, at most `retries` times. -/
def resolve (method : String) : (retries : Nat) → (target : List Char) → Destination
  | 0, target => ((path? target).map (destination method)).getD .notFound
  | retries + 1, target =>
    match path? target with
    | none => .notFound
    | some path =>
      match destination method path with
      | .notFound =>
        match withoutEndSlashes? path with
        | some bare =>
          if destination method bare = .notFound then .notFound
          else resolve method retries (targetOf bare)
        | none => .notFound
      | d => d

/-- How often a request is sent on to a path without slashes at its end. -/
def longestRedirect : Nat := 20

end StagedSql.Web
