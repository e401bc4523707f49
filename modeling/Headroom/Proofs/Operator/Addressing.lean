import Headroom.Operator.Console
import Headroom.Proofs.Http.Paths
import Headroom.Proofs.Lookup

/-!
# Calls reach the node they are about

At a service with nothing below its host, a call about a node is routed to the node with the
very id that the operator gave, whatever characters it has: it acts on this node and on no
other.  The ids `.` and `..` are the exception.  An address takes them for steps along its path,
so no call about them arrives, although nodes may be registered under them.
-/

namespace Headroom

open Percent (segment)

/-! ## What decommissioning a node changes -/

/-- A change that keeps a slot in its place is seen in the record of its node only. -/
theorem Registry.get?_put {registry : Registry} {id : String} {slot : Slot}
    (live : slot.removed = false) (other : String) :
    (registry.put id slot).get? other =
      if other = id then some slot.node else registry.get? other := by
  simp only [get?, slot?, put, Dictionary.get?_insert]
  split
  · simp [Option.filter, live]
  · rfl

namespace Engine

/-- A node as it is after it was decommissioned, for the first time or again. -/
def departed (now : Int64) (node : Node) : Node :=
  if node.category.isTerminal then node else node.retired now

theorem decommission_untracked {engine : Engine} {id : String} (untracked : engine.get? id = none)
    (now : Int64) : engine.decommission now id = (engine, .error ⟨id⟩) := by
  have absent : engine.registry.slot? id = none := Option.map_eq_none_iff.mp untracked
  simp only [decommission, Registry.retire?, Registry.modify?, absent, Option.map_none]

/-- Decommissioning a tracked node answers with its transition and changes its record only. -/
theorem decommission_tracked {engine : Engine} {id : String} {node : Node}
    (tracked : engine.get? id = some node) (now : Int64) :
    (engine.decommission now id).2 = .ok (Transition.ofDecommission? id node.category now) ∧
      ∀ other, (engine.decommission now id).1.get? other =
        if other = id then some (departed now node) else engine.get? other := by
  obtain ⟨slot, found, rfl⟩ := Option.map_eq_some_iff.mp tracked
  let after : Slot := { slot with node := departed now slot.node }
  have live : after.removed = false := by
    have kept := (Option.filter_eq_some_iff.mp found).2
    simpa using kept
  have retired : engine.registry.retire? id now = some (engine.registry.put id after,
      ⟨slot.node.category, !slot.node.category.isTerminal⟩) := by
    cases terminal : slot.node.category.isTerminal <;>
      simp [Registry.retire?, Registry.modify?, found, after, departed, terminal]
  have answer : (engine.decommission now id).2 =
      .ok (Transition.ofDecommission? id slot.node.category now) := by
    simp only [decommission, retired]
    split <;> simp [*]
  have registry : (engine.decommission now id).1.registry = engine.registry.put id after := by
    simp only [decommission, retired]
    split <;> rfl
  have placed (other : String) : (engine.registry.put id after).get? other =
      if other = id then some (departed now slot.node) else engine.registry.get? other :=
    Registry.get?_put live other
  exact ⟨answer, fun other => (congrArg (·.get? other) registry).trans (placed other)⟩

/-- Decommissioning a node leaves the records of all other nodes as they are. -/
theorem get?_decommission (engine : Engine) (now : Int64) (id other : String) :
    (engine.decommission now id).1.get? other =
      if other = id then (engine.get? id).map (departed now) else engine.get? other := by
  cases tracked : engine.get? id with
  | none =>
    rw [decommission_untracked tracked]
    split
    · rename_i own
      rw [own, tracked, Option.map_none]
    · rfl
  | some node => exact (decommission_tracked tracked now).2 other

end Engine

/-! ## Requests about a node -/

/-- The names of the interface are segments as they are. -/
theorem Percent.segment_word : ∀ word ∈ ["api", "v1", "nodes", "containers", "transitions",
    "decommission", "stats", "healthz"], segment word = word := by
  decide +kernel

namespace Route

variable {path id : String}

theorem ofPath?_node (named : id ≠ "")
    (cut : segments path = "" :: ["api", "v1", "nodes", id].map segment) :
    ofPath? path = some (.node (segment id)) := by
  have words := Percent.segment_word
  have filled := Percent.segment_ne_empty named
  simp only [List.forall_mem_cons] at words
  simp [ofPath?, cut, words, filled]

theorem ofPath?_decommission
    (cut : segments path = "" :: ["api", "v1", "nodes", id, "decommission"].map segment) :
    ofPath? path = some (.decommission (segment id)) := by
  have words := Percent.segment_word
  simp only [List.forall_mem_cons] at words
  simp [ofPath?, cut, words]

/-- No route ends with a separator. -/
theorem ofPath?_nodes_empty
    (cut : segments path = "" :: ["api", "v1", "nodes", ""].map segment) :
    ofPath? path = none := by
  rw [ofPath?, cut]
  rfl

theorem ofPath?_empty (cut : segments path = "" :: ["api", "v1", ""].map segment) :
    ofPath? path = none := by
  rw [ofPath?, cut]
  rfl

theorem ofPath?_unknown (cut : segments path = "" :: ["api", "v1", "decommission"].map segment) :
    ofPath? path = none := by
  rw [ofPath?, cut]
  rfl

end Route

namespace Api

variable {request : Request} {id : String}

theorem handle_unrouted (clock : Clock) (service : Service)
    (unrouted : Route.ofPath? request.path = none) :
    handle clock service request = (service, .bare 404) := by
  rw [handle, unrouted]

theorem readSegment_segment (id : String) : readSegment (segment id) = .ok id := by
  rw [readSegment, Percent.decode?_segment]

theorem handle_get (clock : Clock) (service : Service) {route : Route}
    (routed : Route.ofPath? request.path = some route) (readable : route.readable = true)
    (asked : request.method = "GET") :
    handle clock service request = settle service (read clock service request route) := by
  have get : Method.ofName request.method = .get := by rw [asked]; decide
  have allowed : route.allows .get = true := readable
  rw [handle, routed]
  simp only [get, allowed, Bool.not_true, Bool.false_eq_true, if_false]

theorem handle_post (clock : Clock) (service : Service) {route : Route}
    (routed : Route.ofPath? request.path = some route) (writable : route.writable = true)
    (asked : request.method = "POST") :
    handle clock service request = settle service (write clock service request route) := by
  have post : Method.ofName request.method = .post := by rw [asked]; decide
  have allowed : route.allows .post = true := writable
  rw [handle, routed]
  simp only [post, allowed, Bool.not_true, Bool.false_eq_true, if_false]

theorem handle_node (clock : Clock) (service : Service)
    (routed : Route.ofPath? request.path = some (.node (segment id)))
    (asked : request.method = "GET") :
    handle clock service request =
      (service,
        (service.engine.get? id).elim (unknown ⟨id⟩) fun node => .json 200 node.toJson) := by
  rw [handle_get clock service routed rfl asked]
  cases tracked : service.engine.get? id <;>
    simp only [read, readSegment_segment, bind, Except.bind, tracked] <;> rfl

theorem handle_node_post (clock : Clock) (service : Service) {segment : String}
    (routed : Route.ofPath? request.path = some (.node segment))
    (asked : request.method = "POST") :
    handle clock service request = (service, .bare 405) := by
  have post : Method.ofName request.method = .post := by rw [asked]; decide
  rw [handle, routed]
  simp only [post]
  rfl

/-- A decommission at the route of a node answers about the node under the decoded id. -/
theorem handle_decommission (clock : Clock) (service : Service)
    (routed : Route.ofPath? request.path = some (.decommission (segment id)))
    (asked : request.method = "POST") :
    handle clock service request =
      ({ service with engine := (service.engine.decommission clock.engine id).1 },
        (service.engine.get? id).elim (unknown ⟨id⟩) fun node => .json 200
          (decommissionBody id (Transition.ofDecommission? id node.category clock.engine))) := by
  rw [handle_post clock service routed rfl asked]
  simp only [write, readSegment_segment, bind, Except.bind]
  cases tracked : service.engine.get? id with
  | none =>
    rw [Engine.decommission_untracked tracked]
    rfl
  | some node =>
    rw [(Engine.decommission_tracked tracked clock.engine).1]
    rfl

end Api

namespace Operator

namespace Call

/-! ## Paths of calls -/

def place : Call → List String
  | nodes _ | register _ => ["api", "v1", "nodes"]
  | node id => ["api", "v1", "nodes", id]
  | containers => ["api", "v1", "containers"]
  | transitions .. => ["api", "v1", "transitions"]
  | decommission id => ["api", "v1", "nodes", id, "decommission"]
  | figures => ["api", "v1", "stats"]
  | health => ["healthz"]

/-- The path of a call is joined from the segments of its names. -/
theorem path_eq (call : Call) : call.path = Url.joined call.place := by
  have words := Percent.segment_word
  simp only [List.forall_mem_cons] at words
  obtain ⟨api, version, nodes, containers, transitions, decommission, stats, healthz, -⟩ := words
  cases call <;>
    simp only [path, place, Url.joined_cons_cons, Url.joined_singleton, api, version, nodes,
      containers, transitions, decommission, stats, healthz, ← String.append_assoc,
      String.reduceAppend]
  simp only [String.append_assoc, String.reduceAppend]

theorem place_ne_nil (call : Call) : call.place ≠ [] := by
  cases call <;> exact List.cons_ne_nil _ _

/-! ## Requests at a root address -/

/-- An address that requests can be sent to and at which nothing is below the host. -/
structure IsRoot (base : Url) : Prop where
  sendable : requestSchemes.contains base.scheme = true
  placed : base.opaqueRest = false
  path : base.path = [""]

def route? (base : Url) (call : Call) : Option Route :=
  match call.url base with
  | .ok url => Route.ofPath? (call.request url).path
  | .error _ => none

/-- Every call can be addressed at an address with a path: its names are walked along from the
last separator. -/
theorem url_placed {base : Url} (placed : base.opaqueRest = false) (call : Call) :
    call.url base = .ok (Url.withQuery
      { base with path := Url.walk base.path.dropLast (call.place.map segment), query := none }
      call.query) := by
  rw [url, path_eq, Url.join?_joined placed (place_ne_nil call)]

/-- At a root address the names of a call are walked along from the host. -/
theorem url_root {base : Url} (root : IsRoot base) {call : Call} (plain : call.query = []) :
    call.url base = .ok
      { base with path := Url.walk [] (call.place.map segment), query := none } := by
  rw [url_placed root.placed, root.path, plain]
  rfl

def method (call : Call) : String := if call.content?.isSome then "POST" else "GET"

theorem method_request (call : Call) (url : Url) : (call.request url).method = call.method := by
  rw [request, method]
  split <;> simp [*, Request.of]

/-- A request to an address of segments arrives with these segments as its path. -/
theorem request_path (call : Call) {url : Url} {texts : List String} (some : texts ≠ [])
    (path : url.path = texts.map segment) (plain : url.query = none) :
    Route.segments (call.request url).path = "" :: texts.map segment := by
  have target : url.target = "/" ++ Url.joined texts := by
    rw [Url.target, plain]
    exact Url.pathText_segments some path
  have arrives (method : String) (kind : Option String) (content : String) :
      (Request.of method url.target kind content).path = "/" ++ Url.joined texts := by
    rw [Request.of, target, Url.splitTarget_joined]
  rw [request]
  split <;> rw [arrives, Route.segments_joined some]

/-- The request of a call can be sent and arrives with the segments of some names as its path. -/
def Arrives (base : Url) (call : Call) (names : List String) : Prop :=
  ∃ url, call.url base = .ok url ∧ requestSchemes.contains url.scheme = true ∧
    Route.segments (call.request url).path = "" :: names.map segment

theorem arrives_of_walk {base : Url} (root : IsRoot base) {call : Call} (plain : call.query = [])
    {names : List String} (some : names ≠ [])
    (walked : Url.walk [] (call.place.map segment) = names.map segment) :
    call.Arrives base names :=
  ⟨_, url_root root plain, root.sendable, request_path call some walked rfl⟩

/-- A call arrives at the place of its names, if none of them is taken for a step. -/
theorem arrives_of_names {base : Url} (root : IsRoot base) {call : Call} (plain : call.query = [])
    (names : ∀ name ∈ call.place, ¬ Url.IsStep name) : call.Arrives base call.place :=
  arrives_of_walk root plain (place_ne_nil call) (Url.walk_names names [])

/-- A service that is asked at one time, whatever the address of the request is. -/
def serving (clock : Clock) : Network Service := fun _ request => do
  let service ← get
  let (after, response) := Api.handle clock service request
  set after
  return some response

/-- The answer of a service to a call, and the service afterwards. -/
def deliver (clock : Clock) (base : Url) (service : Service) (call : Call) :
    Except Failure Response × Service :=
  (call.send (serving clock) base).run.run service

/-- A call that arrives somewhere takes the route of this place, and is answered by it. -/
theorem Arrives.answered {base : Url} {call : Call} {names : List String}
    (arrives : call.Arrives base names) {route : Option Route}
    (leads : ∀ path, Route.segments path = "" :: names.map segment → Route.ofPath? path = route) :
    call.route? base = route ∧ ∃ request : Request, request.method = call.method ∧
      Route.ofPath? request.path = route ∧ ∀ clock service, call.deliver clock base service =
        (.ok (Api.handle clock service request).2, (Api.handle clock service request).1) := by
  obtain ⟨url, known, sendable, cut⟩ := arrives
  constructor
  · rw [route?, known]
    exact leads _ cut
  · refine ⟨call.request url, method_request call url, leads _ cut, fun clock service => ?_⟩
    have lifted :
        (liftM (Except.ok url : Except Failure Url) : Conversation Service Url) = pure url := rfl
    rw [deliver, send, known, lifted, pure_bind, if_pos sendable]
    rfl

theorem Arrives.unrouted {base : Url} {call : Call} {names : List String}
    (arrives : call.Arrives base names)
    (nowhere : ∀ path, Route.segments path = "" :: names.map segment →
      Route.ofPath? path = none) :
    call.route? base = none ∧
      ∀ clock service, call.deliver clock base service = (.ok (.bare 404), service) := by
  obtain ⟨route, request, -, routed, answered⟩ := arrives.answered nowhere
  refine ⟨route, fun clock service => (answered clock service).trans ?_⟩
  rw [Api.handle_unrouted clock service routed]

/-- A conversation that goes on without further calls leaves the services as they are. -/
theorem state_bind {σ α β : Type} {next : α → Conversation σ β}
    (still : ∀ answer state, ((next answer).run.run state).2 = state) (first : Conversation σ α)
    (state : σ) : ((first >>= next).run.run state).2 = (first.run.run state).2 := by
  unfold ExceptT.run StateT.run
  simp only [bind, ExceptT.bind, ExceptT.mk, StateT.bind, ExceptT.bindCont]
  obtain ⟨result, after⟩ := first state
  cases result with
  | error failure => rfl
  | ok answer => exact still answer after

/-- Reading the answer to a call leaves the service alone. -/
theorem state_ask {σ α : Type} (network : Network σ) (base : Url) (reader : Reader α) (call : Call)
    (state : σ) :
    ((call.ask network base reader).run.run state).2 =
      ((call.send network base).run.run state).2 := by
  apply state_bind
  intro response after
  by_cases success : Status.isSuccess response.status = true
  · simp only [if_pos success]
    split <;> rfl
  · simp only [if_neg success]
    rfl

end Call

/-! ## Commands about a node -/

def Command.leaves (clock : Clock) (base : Url) (style : Style) (format : Format)
    (service : Service) (command : Command) : Service :=
  ((command.perform (Call.serving clock) base style format).run.run service).2

section Commands

variable {clock : Clock} {base : Url} {style : Style} {format : Format} {service : Service}
  {id : String}

/-- A command about a node changes a service by its one call only. -/
theorem Command.leaves_node : (Command.node id).leaves clock base style format service =
    ((Call.node id).deliver clock base service).2 :=
  (Call.state_bind (fun _ _ => rfl) _ service).trans (Call.state_ask _ base _ _ service)

theorem Command.leaves_decommission : (Command.decommission id).leaves clock base style format
    service = ((Call.decommission id).deliver clock base service).2 :=
  (Call.state_bind (fun _ _ => rfl) _ service).trans (Call.state_ask _ base _ _ service)

end Commands

/-- Both calls about a node take the route of a node, in a segment that is decoded as its id. -/
def Addressed (base : Url) (id : String) : Prop :=
  ∃ name, Percent.decode? name = some id ∧
    (Call.node id).route? base = some (.node name) ∧
      (Call.decommission id).route? base = some (.decommission name)

/-- The commands about a node act on this node: one is answered with its record, the other one
with its decommission, and the latter changes the record of this node and of no other one. -/
structure ActsOn (clock : Clock) (base : Url) (service : Service) (id : String) : Prop where
  shown : (Call.node id).deliver clock base service =
    (.ok ((service.engine.get? id).elim (Api.unknown ⟨id⟩) fun node => .json 200 node.toJson),
      service)
  decommissioned : (Call.decommission id).deliver clock base service =
    (.ok ((service.engine.get? id).elim (Api.unknown ⟨id⟩) fun node => .json 200
        (Api.decommissionBody id (Transition.ofDecommission? id node.category clock.engine))),
      { service with engine := (service.engine.decommission clock.engine id).1 })
  kept : ∀ style format, (Command.node id).leaves clock base style format service = service
  changed : ∀ style format other,
    ((Command.decommission id).leaves clock base style format service).engine.get? other =
      if other = id then (service.engine.get? id).map (Engine.departed clock.engine)
      else service.engine.get? other

/-- The commands about a node do not arrive at any node: both are refused without a reason, and
nothing changes. -/
structure GoesAstray (clock : Clock) (base : Url) (service : Service) (id : String) : Prop where
  shown : (Call.node id).deliver clock base service = (.ok (.bare 404), service)
  decommissioned : ∃ status ∈ [404, 405],
    (Call.decommission id).deliver clock base service = (.ok (.bare status), service)
  kept : ∀ style format, (Command.node id).leaves clock base style format service = service
  unchanged : ∀ style format,
    (Command.decommission id).leaves clock base style format service = service

theorem GoesAstray.of {clock : Clock} {base : Url} {service : Service} {id : String} {status : Nat}
    (shown : (Call.node id).deliver clock base service = (.ok (.bare 404), service))
    (bare : status ∈ [404, 405])
    (refused : (Call.decommission id).deliver clock base service =
      (.ok (.bare status), service)) :
    GoesAstray clock base service id where
  shown := shown
  decommissioned := ⟨status, bare, refused⟩
  kept style format := by rw [Command.leaves_node, shown]
  unchanged style format := by rw [Command.leaves_decommission, refused]

section Addressing

variable {base : Url} (root : Call.IsRoot base) {id : String}

include root

theorem arrives_node (noStep : ¬ Url.IsStep id) :
    (Call.node id).Arrives base ["api", "v1", "nodes", id] := by
  apply Call.arrives_of_names root rfl
  simp only [Call.place, List.forall_mem_cons]
  exact ⟨by decide, by decide, by decide, noStep, List.forall_mem_nil _⟩

theorem arrives_decommission (noStep : ¬ Url.IsStep id) :
    (Call.decommission id).Arrives base ["api", "v1", "nodes", id, "decommission"] := by
  apply Call.arrives_of_names root rfl
  simp only [Call.place, List.forall_mem_cons]
  exact ⟨by decide, by decide, by decide, noStep, by decide, List.forall_mem_nil _⟩

/-- A dot stays where it is and two dots lead up, so the last name of the path changes. -/
theorem arrives_dots :
    (Call.node ".").Arrives base ["api", "v1", "nodes", ""] ∧
      (Call.decommission ".").Arrives base ["api", "v1", "nodes", "decommission"] ∧
        (Call.node "..").Arrives base ["api", "v1", ""] ∧
          (Call.decommission "..").Arrives base ["api", "v1", "decommission"] := by
  have empty : segment "" = "" := by decide +kernel
  refine ⟨?_, ?_, ?_, ?_⟩ <;> apply Call.arrives_of_walk root rfl (List.cons_ne_nil _ _)
  all_goals simp [Call.place, Url.walk, empty]

/-- An id that is no step is carried to the service as it is. -/
theorem actsOn (named : id ≠ "") (noStep : ¬ Url.IsStep id) (clock : Clock) (service : Service) :
    Addressed base id ∧ ActsOn clock base service id := by
  obtain ⟨nodeRoute, shows, asked, showsAt, answered⟩ :=
    (arrives_node root noStep).answered fun _ => Route.ofPath?_node named
  obtain ⟨leaveRoute, leaves, posted, leavesAt, obeyed⟩ :=
    (arrives_decommission root noStep).answered fun _ => Route.ofPath?_decommission
  have shown := answered clock service
  have decommissioned := obeyed clock service
  rw [Api.handle_node clock service showsAt asked] at shown
  rw [Api.handle_decommission clock service leavesAt posted] at decommissioned
  constructor
  · exact ⟨segment id, Percent.decode?_segment id, nodeRoute, leaveRoute⟩
  · exact {
      shown := shown
      decommissioned := decommissioned
      kept := fun style format => by rw [Command.leaves_node, shown]
      changed := fun style format other => by
        rw [Command.leaves_decommission, decommissioned]
        exact Engine.get?_decommission _ _ id other }

/-- Neither call about an id that is taken for a step arrives at a node.  Decommissioning a dot
asks for a node named `decommission`, but not in the way that nodes are asked for. -/
theorem goesAstray (step : Url.IsStep id) (clock : Clock) (service : Service) :
    (Call.node id).route? base = none ∧ GoesAstray clock base service id := by
  obtain ⟨nodeDot, leaveDot, nodeDots, leaveDots⟩ := arrives_dots root
  obtain rfl | rfl := step
  · obtain ⟨route, shown⟩ := nodeDot.unrouted fun _ => Route.ofPath?_nodes_empty
    obtain ⟨-, request, posted, routed, answered⟩ :=
      leaveDot.answered fun _ => Route.ofPath?_node (by decide)
    have refused := answered clock service
    rw [Api.handle_node_post clock service routed posted] at refused
    exact ⟨route, .of (shown clock service) (by decide) refused⟩
  · obtain ⟨route, shown⟩ := nodeDots.unrouted fun _ => Route.ofPath?_empty
    obtain ⟨-, refused⟩ := leaveDots.unrouted fun _ => Route.ofPath?_unknown
    exact ⟨route, .of (shown clock service) (by decide) (refused clock service)⟩

end Addressing

/-- A call about a node of a service at a root address takes the route of the node and is about
exactly its id, unless the id is `.` or `..`; the commands then act on this node and on no other.
These two ids cannot be addressed, and the commands about them change nothing. -/
theorem addressing {base : Url} (root : Call.IsRoot base) {id : String} (named : id ≠ "")
    (clock : Clock) (service : Service) :
    (Addressed base id ↔ id ≠ "." ∧ id ≠ "..") ∧
      (id ≠ "." ∧ id ≠ ".." → ActsOn clock base service id) ∧
        (id = "." ∨ id = ".." → GoesAstray clock base service id) := by
  have names : id ≠ "." ∧ id ≠ ".." ↔ ¬ Url.IsStep id := not_or.symm
  rw [names]
  refine ⟨⟨?_, fun noStep => (actsOn root named noStep clock service).1⟩,
    fun noStep => (actsOn root named noStep clock service).2,
    fun step => (goesAstray root step clock service).2⟩
  rintro ⟨name, -, route, -⟩ step
  have lost := (goesAstray root step clock service).1
  cases route.symm.trans lost

/-- A node whose id has a space, separators, a percent sign and a letter of two octets is
decommissioned by the command about it. -/
theorem addressing_reserved :
    let id := "a b/..?%2Fé"
    let base : Url := ⟨"http", "localhost", some 8080, [""], false, none⟩
    let registered := ((Engine.fresh .default "engine").register 0 ⟨id, none, none⟩).1
    let service : Service := ⟨registered, .empty, .empty⟩
    let left := (Command.decommission id).leaves ⟨5, 0⟩ base ⟨false⟩ .table service
    Call.IsRoot base ∧ Addressed base id ∧
      (registered.get? id).map Node.category = some .initial ∧
        (left.engine.get? id).map Node.category = some .sundown := by
  intro id base registered service left
  have root : Call.IsRoot base := ⟨by decide, rfl, rfl⟩
  have named : id ≠ "" := by decide
  have noStep : id ≠ "." ∧ id ≠ ".." := by decide
  obtain ⟨addressed, acts, -⟩ := addressing root named ⟨5, 0⟩ service
  refine ⟨root, addressed.mpr noStep, by decide +kernel, ?_⟩
  rw [(acts noStep).changed, if_pos rfl]
  decide +kernel

/-- A node is registered under a dot, but it cannot be addressed. -/
theorem not_addressed_dot :
    let base : Url := ⟨"http", "localhost", some 8080, [""], false, none⟩
    let registered := (Engine.fresh .default "engine").register 0 ⟨".", none, none⟩
    (registered.1.get? ".").isSome = true ∧ Call.IsRoot base ∧ ¬ Addressed base "." := by
  intro base registered
  have root : Call.IsRoot base := ⟨by decide, rfl, rfl⟩
  refine ⟨by decide +kernel, root, ?_⟩
  rintro ⟨name, -, route, -⟩
  have lost := ((arrives_dots root).1.unrouted fun _ => Route.ofPath?_nodes_empty).1
  cases route.symm.trans lost

end Operator

end Headroom
