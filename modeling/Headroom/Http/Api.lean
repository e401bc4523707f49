import Headroom.Decimal.Whole
import Headroom.Http.MediaType
import Headroom.Http.Message
import Headroom.Http.Percent
import Headroom.Maintenance
import Headroom.Schema.Engine

/-!
# The service's interface

The requests that a service answers.  A request is first matched with a route by
its path, then with an action by its method; then its parameters and its content
are read, and only then is the engine involved.
-/

namespace Headroom

/-- Where a request goes.  Ids are still as they are written in the path. -/
inductive Route where
  | samples
  | sampleBatch
  | nodes
  | node (segment : String)
  | decommission (segment : String)
  | containers
  | transitions
  | statistics
  | health
  | readiness
  | metrics
  deriving DecidableEq, Repr

/-- What a request wants. -/
inductive Method where
  | get
  | head
  | post
  | other
  deriving DecidableEq, Repr

def Method.ofName (name : String) : Method :=
  if name = "GET" then get
  else if name = "HEAD" then head
  else if name = "POST" then post
  else other

namespace Route

def segments (path : String) : List String := (Percent.cut '/' path.toList).map String.ofList

/-- The route of a path, if there is one. -/
def ofPath? (path : String) : Option Route :=
  match segments path with
  | ["", "api", "v1", "samples"] => some samples
  | ["", "api", "v1", "samples", "batch"] => some sampleBatch
  | ["", "api", "v1", "nodes"] => some nodes
  | ["", "api", "v1", "nodes", segment] => if segment.isEmpty then none else some (node segment)
  | ["", "api", "v1", "nodes", segment, "decommission"] => some (decommission segment)
  | ["", "api", "v1", "containers"] => some containers
  | ["", "stats"] => some containers
  | ["", "api", "v1", "transitions"] => some transitions
  | ["", "api", "v1", "stats"] => some statistics
  | ["", "healthz"] => some health
  | ["", "readyz"] => some readiness
  | ["", "metrics"] => some metrics
  | _ => none

def readable : Route → Bool
  | samples | sampleBatch | decommission _ => false
  | _ => true

def writable : Route → Bool
  | samples | sampleBatch | nodes | decommission _ => true
  | _ => false

def allows (route : Route) : Method → Bool
  | .get => route.readable
  | .head => route.readable
  | .post => route.writable
  | .other => false

end Route

namespace Api

/-- The number of transitions returned when no limit is given. -/
def defaultLimit : Nat := 100

/-- The content of an answer to a refused request. -/
def errorBody (message code : String) : Json :=
  .object [("error", .string message), ("code", .string code)]

def refusalStatus : Refusal → Nat
  | .invalid _ => 400
  | .stale .. => 409
  | .full _ => 503

/-- The answer to a refused reading or registration. -/
def refused (refusal : Refusal) : Response :=
  .json (refusalStatus refusal) (errorBody refusal.message refusal.code.word)

/-- The answer about a node that is not tracked. -/
def unknown (error : UnknownNode) : Response :=
  .json 404 (errorBody error.message UnknownNode.code)

/-- The content of a request, or the answer to content that cannot be read.  What follows
the value is not looked at. -/
def readContent {α : Type} (reader : Reader α) (request : Request) : Except Response α :=
  if (request.contentType.map MediaType.isJson).getD false then
    match reader (Draft.scan request.content).root with
    | .ok value => .ok value
    | .error .wrongShape => .error (.bare 422)
    | .error _ => .error (.bare 400)
  else .error (.bare 415)

/-- The id in a segment, or the answer to a segment that is no text. -/
def readSegment (segment : String) : Except Response String :=
  match Percent.decode? segment with
  | some id => .ok id
  | none => .error (.bare 400)

/-- A field of the query, or the answer to a field that is given twice. -/
def queryField (request : Request) (name : String) : Except Response (Option String) :=
  match (Percent.pairs (request.query.getD "")).filter fun field => field.1 == name with
  | [] => .ok none
  | [field] => .ok (some field.2)
  | _ => .error (.bare 400)

/-- A field of the query that is a natural number. -/
def queryNatural (request : Request) (name : String) : Except Response (Option Nat) := do
  match ← queryField request name with
  | none => .ok none
  | some text =>
    match Decimal.natural? UInt64.size text with
    | some value => .ok (some value)
    | none => .error (.bare 400)

/-- The category asked for by the query, if one is. -/
def queryCategory (request : Request) : Except Response (Option Category) := do
  match ← queryField request "category" with
  | none => .ok none
  | some text =>
    match Category.parse text with
    | .ok category => .ok (some category)
    | .error word =>
      .error (.json 400 (errorBody (Category.unknownMessage word)
        RejectionCode.invalidValue.word))

def batchBody (outcomes : List Outcome) : Json :=
  let accepted := (outcomes.filter Outcome.isAccepted).length
  .object [("accepted", .integer accepted), ("rejected", .integer (outcomes.length - accepted : Nat)),
    ("results", .list Outcome.toJson outcomes)]

def decommissionBody (id : String) (transition : Option Transition) : Json :=
  .object ([("node_id", .string id), ("category", Category.sundown.toJson)] ++
    Json.given "transition" Transition.toJson transition)

/-- Answers a request for something that can be read. -/
def read (clock : Clock) (service : Service) (request : Request) :
    Route → Except Response (Service × Response)
  | .nodes => do
    let category ← queryCategory request
    let views := (service.engine.list category).map Node.scoredView
    .ok (service, .json 200 (.list ScoredView.toJson views))
  | .node segment => do
    let id ← readSegment segment
    match service.engine.get? id with
    | some node => .ok (service, .json 200 node.toJson)
    | none => .error (unknown ⟨id⟩)
  | .containers =>
    let (engine, snapshot) := service.engine.snapshot clock.engine
    .ok ({ service with engine := engine },
      .json 200 (.list ContainerView.toJson snapshot.containerViews))
  | .transitions => do
    let id ← queryField request "node"
    let limit ← queryNatural request "limit"
    let transitions := service.engine.transitions id (limit.getD defaultLimit)
    .ok (service, .json 200 (.list Transition.toJson transitions))
  | .statistics =>
    let (engine, statistics) := service.engine.statistics clock.engine
    .ok ({ service with engine := engine }, .json 200 statistics.toJson)
  | .health =>
    let report := service.health.report
    .ok (service, .json (if report.condition = .unhealthy then 503 else 200)
      (report.toJsonOf service.health.listing))
  | .readiness =>
    let readiness := service.health.readiness
    .ok (service, .json (if readiness.ready then 200 else 503) readiness.toJson)
  | .metrics => .ok (service, ⟨200, .text service.engine.metrics.exposition⟩)
  | .samples | .sampleBatch | .decommission _ => .error (.bare 405)

/-- Answers a request that takes content or is a command. -/
def write (clock : Clock) (service : Service) (request : Request) :
    Route → Except Response (Service × Response)
  | .samples => do
    let reading ← readContent Reading.reader request
    let (engine, result) := service.engine.submit clock.engine reading
    .ok ({ service with engine := engine },
      match result with
      | .ok receipt => .json 202 receipt.toJson
      | .error refusal => refused refusal)
  | .sampleBatch => do
    let readings ← readContent (Reader.list Reading.reader) request
    let (engine, outcomes) := service.engine.submitAll clock.engine readings
    .ok ({ service with engine := engine }, .json 200 (batchBody outcomes))
  | .nodes => do
    let registration ← readContent Registration.reader request
    let (engine, result) := service.engine.register clock.engine registration
    .ok ({ service with engine := engine },
      match result with
      | .ok (node, created) => .json (if created then 201 else 200) node.toJson
      | .error refusal => refused refusal)
  | .decommission segment => do
    let id ← readSegment segment
    let (engine, result) := service.engine.decommission clock.engine id
    .ok ({ service with engine := engine },
      match result with
      | .ok transition => .json 200 (decommissionBody id transition)
      | .error error => unknown error)
  | .node _ | .containers | .transitions | .statistics | .health | .readiness | .metrics =>
    .error (.bare 405)

/-- The service after an attempt, and the answer in either case. -/
def settle (service : Service) : Except Response (Service × Response) → Service × Response
  | .ok outcome => outcome
  | .error response => (service, response)

def handle (clock : Clock) (service : Service) (request : Request) : Service × Response :=
  match Route.ofPath? request.path with
  | none => (service, .bare 404)
  | some route =>
    let method := Method.ofName request.method
    if !route.allows method then (service, .bare 405)
    else
      match method with
      | .get => settle service (read clock service request route)
      | .head =>
        let (after, response) := settle service (read clock service request route)
        (after, response.withoutContent)
      | .post => settle service (write clock service request route)
      | .other => (service, .bare 405)

end Api

end Headroom
