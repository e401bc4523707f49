import Headroom.Proofs.Engine.Ranges
import Headroom.Proofs.Engine.Restart
import Headroom.Proofs.Operator.Addressing
import Headroom.Proofs.Operator.Answers

/-!
# An operator and a service understand each other

Whatever state a service has reached, an operator reads its answer to a call, and writes what it
has read as the document that was sent, so nothing is lost or made up between the two.  An answer
that is a refusal is read as a complaint, if it has any content.  The other way round, a service
reads a registration as the operator wrote it.
-/

namespace Headroom

open Percent (segment)

/-! ## What a service may say -/

namespace Engine

/-- What an engine can be asked for has finite numbers. -/
structure Reportable (engine : Engine) : Prop where
  sound : engine.Sound
  records : engine.HasFiniteNumbers
  history : ∀ transition ∈ engine.history.entries, transition.IsFinite

/-- In every state that a run reaches, all that the engine can be asked for is finite. -/
theorem reportable_run (settings : Settings Float) (name : String) {steps : List Step}
    (restored : ∀ step ∈ steps, step.RestoresFinite) :
    ((fresh settings name).run steps).Reportable where
  sound := (sound_fresh settings name).run steps
  records := (hasFiniteNumbers_fresh settings name).run (sound_fresh settings name) restored
  history := by
    have one : Double.Small 32 (1.0 : Float).toModel.unpack := by decide
    have inRange := inRange_follow (steps.flatMap Step.actions) (sound_fresh settings name)
      (List.forall_mem_nil _)
    rw [← run_eq_follow] at inRange
    intro transition member number among
    exact ((inRange transition member number (Option.mem_toList.mp among)).small one).isFinite

variable {engine : Engine} (reportable : engine.Reportable)

include reportable

theorem Reportable.isFinite_list (category : Option Category) :
    ∀ node ∈ engine.list category, node.IsFinite := by
  have nodes := reportable.records.nodes reportable.sound.registry
  cases category with
  | none => exact nodes
  | some category => exact fun node member => nodes node (List.mem_of_mem_filter member)

theorem Reportable.isFinite_get? {id : String} {node : Node}
    (tracked : engine.get? id = some node) : node.IsFinite := by
  rw [get?, reportable.sound.registry.get?_eq] at tracked
  obtain ⟨slot, found, rfl⟩ := Option.map_eq_some_iff.mp tracked
  exact reportable.records id slot found

theorem Reportable.get?_empty : engine.get? "" = none := by
  rw [get?, reportable.sound.registry.get?_eq, Option.map_eq_none_iff]
  cases found : engine.registry.slots.get? "" with
  | none => rfl
  | some slot => exact absurd (reportable.sound.named "" slot found) (by decide)

theorem Reportable.isFinite_transitions (id : Option String) (limit : Nat) :
    ∀ transition ∈ engine.transitions id limit, transition.IsFinite := by
  intro transition member
  rw [transitions, History.recent, List.mem_reverse] at member
  have held := List.mem_of_mem_filter (List.mem_of_mem_take member)
  exact reportable.history transition (List.mem_reverse.mp held)

theorem Reportable.isFinite_register {now : Int64} {request : Registration} {node : Node}
    {created : Bool} (registered : (engine.register now request).2 = .ok (node, created)) :
    node.IsFinite := by
  cases named : request.id.isEmpty with
  | true =>
    rw [register_unnamed named] at registered
    cases registered
  | false =>
    cases room : engine.registry.admits request.id with
    | false =>
      rw [register_full reportable.sound.registry named room] at registered
      cases registered
    | true =>
      rw [register_admitted reportable.sound.registry named room] at registered
      cases registered
      exact isFinite_seat reportable.records request.id request.name now

end Engine

/-- A response that refuses: it says nothing, or it complains. -/
inductive Response.Refuses : Response → Prop where
  | bare {status : Nat} (failed : Status.isSuccess status = false) : Refuses (.bare status)
  | complaint {status : Nat} (message code : String) (failed : Status.isSuccess status = false)
      (content : Status.forbidsContent status = false) :
      Refuses (.json status (Api.errorBody message code))

namespace Api

variable {α : Type} {request : Request} {response : Response}

theorem refuses_unknown (error : UnknownNode) : (unknown error).Refuses :=
  .complaint error.message UnknownNode.code rfl rfl

theorem refuses_refused (refusal : Refusal) : (refused refusal).Refuses := by
  cases refusal <;> exact .complaint _ _ rfl rfl

theorem refuses_readContent {reader : Reader α}
    (unread : readContent reader request = .error response) : response.Refuses := by
  rw [readContent] at unread
  split at unread
  · split at unread <;> cases unread <;> exact .bare rfl
  · cases unread
    exact .bare rfl

theorem refuses_bind {β : Type} {first : Except Response α} {next : α → Except Response β}
    (failed : (first >>= next) = .error response)
    (early : first = .error response → response.Refuses)
    (late : ∀ value, next value = .error response → response.Refuses) : response.Refuses := by
  cases first with
  | error other =>
    rw [Guards.error_bind] at failed
    cases failed
    exact early rfl
  | ok value => exact late value failed

theorem refuses_queryField {name : String} (unread : queryField request name = .error response) :
    response.Refuses := by
  rw [queryField] at unread
  split at unread <;> cases unread
  exact .bare rfl

theorem refuses_queryNatural {name : String}
    (unread : queryNatural request name = .error response) : response.Refuses := by
  rw [queryNatural] at unread
  refine refuses_bind unread refuses_queryField fun field unread => ?_
  split at unread
  · cases unread
  · split at unread <;> cases unread
    exact .bare rfl

theorem refuses_queryCategory (unread : queryCategory request = .error response) :
    response.Refuses := by
  rw [queryCategory] at unread
  refine refuses_bind unread refuses_queryField fun field unread => ?_
  split at unread
  · cases unread
  · split at unread <;> cases unread
    exact .complaint _ _ rfl rfl

end Api

namespace Operator

/-! ## What an operator makes of it -/

/-- A response conveys a value: an operator reads it from the text, and writes it as the content,
up to the order of members. -/
def Conveys {α : Type} (reader : Reader α) (write : α → Json) (response : Response) (value : α) :
    Prop :=
  ∃ body, response.content = .json body ∧ readText reader (textOf response) = .ok value ∧
    body.Reordered (write value)

def ReadsBack (response : Response) : Prop :=
  ∀ body, response.content = .json body → ∀ number ∈ body.doubles, Json.ReadsBack number

namespace ReadsBack

variable {status : Nat} {numbers : List Float} (finite : ∀ number ∈ numbers, number.isFinite = true)

include finite

theorem exact {body : Json} (back : ReadsBack (.json status body)) (same : body.doubles = numbers) :
    ∀ number ∈ numbers, Exact number :=
  exact_of_finite finite fun number member => back body rfl number (same ▸ member)

theorem exact_item {α : Type} {send : α → Json} {values : List α}
    (back : ReadsBack (.json status (.list send values))) {value : α} (member : value ∈ values)
    (same : (send value).doubles = numbers) : ∀ number ∈ numbers, Exact number := by
  refine exact_of_finite finite fun number among => back _ rfl number ?_
  rw [Json.doubles_list, List.mem_flatMap]
  exact ⟨value, member, same ▸ among⟩

end ReadsBack

section Conveys

variable {α β : Type} {reader : Reader α} {write : α → Json} {status : Nat}
  (content : Status.forbidsContent status = false)

include content

theorem conveys_reordered {body : Json} {value : α} (reads : ReadsExactly reader body value)
    (same : body.Reordered (write value)) : Conveys reader write (.json status body) value := by
  have text : textOf (.json status body) = body.compact := by
    simp only [textOf, Response.json, content, Bool.false_eq_true, if_false]
  refine ⟨body, rfl, ?_, same⟩
  rw [text]
  exact reads.readText

theorem conveys {body : Json} {value : α} (reads : ReadsExactly reader body value)
    (same : write value = body) : Conveys reader write (.json status body) value :=
  conveys_reordered content reads (same ▸ .refl _)

theorem conveys_list {send : β → Json} {values : List β} {change : β → α}
    (reads : ∀ value ∈ values, ReadsExactly reader (send value) (change value))
    (same : ∀ value, write (change value) = send value) :
    Conveys (Reader.list reader) (.list write) (.json status (.list send values))
      (values.map change) := by
  refine conveys content (.list reads) ?_
  rw [Json.list, Json.list, List.map_map]
  exact congrArg Json.array (List.map_congr_left fun value _ => same value)

end Conveys

theorem conveys_complaint {status : Nat} (content : Status.forbidsContent status = false)
    (message code : String) :
    Conveys Complaint.reader Complaint.toJson (.json status (Api.errorBody message code))
      ⟨message, code⟩ :=
  conveys content (Complaint.reads ⟨message, code⟩) rfl

namespace Call

/-- Whether the content of a response with this code is taken for the answer to a call. -/
def Takes (status : Nat) : Call → Prop
  | health => True
  | _ => Status.isSuccess status = true

/-- A response conveys what there is to say to a call: what the service holds is what the operator
reads. -/
def Understands (clock : Clock) (service : Service) (request : Request) (response : Response) :
    Call → Prop
  | nodes _ => ∃ category, Api.queryCategory request = .ok category ∧
    Conveys (Reader.list NodeSummary.reader) (.list NodeSummary.toJson) response
      (((service.engine.list category).map Node.scoredView).map .ofView)
  | node id => ∃ node, service.engine.get? id = some node ∧
    Conveys NodeDetail.reader NodeDetail.toJson response (.ofNode node)
  | containers =>
    Conveys (Reader.list ContainerSummary.reader) (.list ContainerSummary.toJson) response
      ((service.engine.view clock.engine).containerViews.map .ofView)
  | transitions .. => ∃ owner limit, Api.queryField request "node" = .ok owner ∧
    Api.queryNatural request "limit" = .ok limit ∧
      Conveys (Reader.list CategoryChange.reader) (.list CategoryChange.toJson) response
        ((service.engine.transitions owner (limit.getD Api.defaultLimit)).map .ofTransition)
  | register _ => ∃ registration node created,
    Api.readContent Registration.reader request = .ok registration ∧
      (service.engine.register clock.engine registration).2 = .ok (node, created) ∧
        Conveys NodeDetail.reader NodeDetail.toJson response (.ofNode node)
  | decommission id => ∃ node, service.engine.get? id = some node ∧
    Conveys Decommissioned.reader Decommissioned.toJson response
      (.of id (Transition.ofDecommission? id node.category clock.engine))
  | figures => Conveys Figures.reader Figures.toJson response
    (.ofStatistics (service.engine.statistics clock.engine).2)
  | health => Conveys ServiceHealth.reader ServiceHealth.toJson response
    (.ofReport service.health.report)

def Refused (clock : Clock) (service : Service) (request : Request) : Call → Prop
  | nodes _ => ∃ response, Api.queryCategory request = .error response
  | node id | decommission id => service.engine.get? id = none
  | transitions .. => (∃ response, Api.queryField request "node" = .error response) ∨
    ∃ response, Api.queryNatural request "limit" = .error response
  | register _ => (∃ response, Api.readContent Registration.reader request = .error response) ∨
    ∃ registration refusal, Api.readContent Registration.reader request = .ok registration ∧
      (service.engine.register clock.engine registration).2 = .error refusal
  | containers | figures | health => False

/-- A call follows a response: what is taken for an answer is understood as one, and anything
else is a refusal with a reason, which comes without content or with a complaint. -/
structure Follows (call : Call) (clock : Clock) (service : Service) (request : Request)
    (response : Response) : Prop where
  answer : call.Takes response.status → call.Understands clock service request response
  reason : ¬ call.Takes response.status → call.Refused clock service request
  refusal : ¬ call.Takes response.status → response.content = .empty ∨
    ∃ complaint, Conveys Complaint.reader Complaint.toJson response complaint

section Answers

variable {clock : Clock} {service : Service} {request : Request} {response : Response}

theorem follows_answer {call : Call} (taken : call.Takes response.status)
    (understood : call.Understands clock service request response) :
    call.Follows clock service request response where
  answer := fun _ => understood
  reason := fun untaken => absurd taken untaken
  refusal := fun untaken => absurd taken untaken

/-- A response that refuses is followed by any call whose reason it is. -/
theorem follows_refusal {call : Call}
    (strict : ∀ status, call.Takes status → Status.isSuccess status = true)
    (reason : call.Refused clock service request) (refuses : response.Refuses) :
    call.Follows clock service request response := by
  cases refuses with
  | @bare status failed =>
    constructor
    case answer =>
      intro taken
      exact absurd (strict status taken) (by simp [failed])
    case reason => exact fun _ => reason
    case refusal => exact fun _ => .inl rfl
  | @complaint status message code failed content =>
    constructor
    case answer =>
      intro taken
      exact absurd (strict status taken) (by simp [failed])
    case reason => exact fun _ => reason
    case refusal => exact fun _ => .inr ⟨_, conveys_complaint content message code⟩

variable (reportable : service.engine.Reportable)

include reportable

/-- The listing of nodes is understood. -/
theorem follows_nodes (category : Option String)
    (back : ReadsBack (Api.settle service (Api.read clock service request .nodes)).2) :
    (nodes category).Follows clock service request
      (Api.settle service (Api.read clock service request .nodes)).2 := by
  rw [Api.read] at back ⊢
  cases asked : Api.queryCategory request with
  | error response =>
    exact follows_refusal (fun _ taken => taken) ⟨_, asked⟩ (Api.refuses_queryCategory asked)
  | ok wanted =>
    simp only [asked, bind, Except.bind] at back ⊢
    refine follows_answer rfl ⟨wanted, asked, conveys_list rfl (fun view member => ?_)
      fun _ => rfl⟩
    obtain ⟨node, inside, rfl⟩ := List.mem_map.mp member
    have finite : node.scoredView.scores.IsFinite :=
      (Node.isFinite_iff.mp (reportable.isFinite_list wanted node inside)).1
    exact NodeSummary.reads (back.exact_item finite member (ScoredView.doubles_toJson finite))

theorem follows_node {id : String}
    (answered : response = (service.engine.get? id).elim (Api.unknown ⟨id⟩) fun node =>
      .json 200 node.toJson) (back : ReadsBack response) :
    (Call.node id).Follows clock service request response := by
  subst answered
  cases tracked : service.engine.get? id with
  | none => exact follows_refusal (fun _ taken => taken) tracked (Api.refuses_unknown ⟨id⟩)
  | some node =>
    rw [tracked] at back
    have finite := reportable.isFinite_get? tracked
    refine follows_answer rfl ⟨node, tracked, conveys rfl (NodeDetail.reads ?_) rfl⟩
    exact back.exact finite (Node.doubles_toJson finite)

theorem follows_containers
    (back : ReadsBack (Api.settle service (Api.read clock service request .containers)).2) :
    containers.Follows clock service request
      (Api.settle service (Api.read clock service request .containers)).2 := by
  refine follows_answer rfl (conveys_list rfl (fun view member => ?_) fun _ => rfl)
  obtain ⟨node, inside, rfl⟩ := List.mem_map.mp member
  have usage : (node.containerView clock.engine).usage.IsFinite :=
    (Node.isFinite_iff.mp (reportable.isFinite_list none node inside)).2
  have finite : ∀ number ∈ [node.usage.cpuPercent, node.usage.memoryPercent],
      number.isFinite = true :=
    List.forall_mem_cons.mpr ⟨usage.1, List.forall_mem_singleton.mpr usage.2⟩
  exact ContainerSummary.reads
    (ReadsBack.exact_item finite back member (ContainerView.doubles_toJson usage))

/-- The recent transitions are understood, or the query is refused. -/
theorem follows_transitions (owner : Option String) (limit : Nat)
    (back : ReadsBack (Api.settle service (Api.read clock service request .transitions)).2) :
    (transitions owner limit).Follows clock service request
      (Api.settle service (Api.read clock service request .transitions)).2 := by
  rw [Api.read] at back ⊢
  cases owned : Api.queryField request "node" with
  | error response =>
    exact follows_refusal (fun _ taken => taken) (.inl ⟨_, owned⟩) (Api.refuses_queryField owned)
  | ok owner =>
    cases limited : Api.queryNatural request "limit" with
    | error response =>
      exact follows_refusal (fun _ taken => taken) (.inr ⟨_, limited⟩)
        (Api.refuses_queryNatural limited)
    | ok limit =>
      simp only [owned, limited, bind, Except.bind] at back ⊢
      refine follows_answer rfl ⟨owner, limit, owned, limited,
        conveys_list rfl (fun transition member => ?_) fun _ => rfl⟩
      have finite : transition.IsFinite := reportable.isFinite_transitions _ _ transition member
      exact CategoryChange.reads
        (back.exact_item finite member (Transition.doubles_toJson finite))

/-- A registration is confirmed with the record of its node, or refused. -/
theorem follows_register (asked : NewNode)
    (back : ReadsBack (Api.settle service (Api.write clock service request .nodes)).2) :
    (register asked).Follows clock service request
      (Api.settle service (Api.write clock service request .nodes)).2 := by
  rw [Api.write] at back ⊢
  cases content : Api.readContent Registration.reader request with
  | error response =>
    exact follows_refusal (fun _ taken => taken) (.inl ⟨_, content⟩)
      (Api.refuses_readContent content)
  | ok registration =>
    simp only [content, bind, Except.bind] at back ⊢
    cases registered : (service.engine.register clock.engine registration).2 with
    | error refusal =>
      simp only [Api.settle]
      exact follows_refusal (fun _ taken => taken)
        (.inr ⟨registration, refusal, content, registered⟩) (Api.refuses_refused refusal)
    | ok result =>
      obtain ⟨node, created⟩ := result
      have finite := reportable.isFinite_register registered
      simp only [Api.settle, registered] at back ⊢
      have exact := NodeDetail.reads (back.exact finite (Node.doubles_toJson finite))
      have conveyed : ∀ status ∈ [200, 201],
          Conveys NodeDetail.reader NodeDetail.toJson (.json status node.toJson) (.ofNode node) :=
        List.forall_mem_cons.mpr ⟨conveys rfl exact rfl,
          List.forall_mem_singleton.mpr (conveys rfl exact rfl)⟩
      cases created <;>
        exact follows_answer rfl ⟨registration, node, _, content, registered,
          conveyed _ (by decide)⟩

omit reportable in
theorem follows_decommission {id : String}
    (answered : response = (service.engine.get? id).elim (Api.unknown ⟨id⟩) fun node =>
      .json 200 (Api.decommissionBody id
        (Transition.ofDecommission? id node.category clock.engine))) :
    (Call.decommission id).Follows clock service request response := by
  subst answered
  cases tracked : service.engine.get? id with
  | none => exact follows_refusal (fun _ taken => taken) tracked (Api.refuses_unknown ⟨id⟩)
  | some node =>
    refine follows_answer rfl ⟨node, tracked, conveys rfl
      (Decommissioned.reads id fun change changed => ?_) (Decommissioned.toJson_of id _)⟩
    rw [Transition.ofDecommission?] at changed
    split at changed <;> cases changed
    exact List.forall_mem_nil _

omit reportable in
theorem follows_figures : figures.Follows clock service request
    (Api.settle service (Api.read clock service request .statistics)).2 :=
  follows_answer rfl (conveys_reordered rfl (Figures.reads _) (Figures.reordered_toJson _))

omit reportable in
theorem follows_health : health.Follows clock service request
    (Api.settle service (Api.read clock service request .health)).2 := by
  have content : Status.forbidsContent
      (if service.health.report.condition = .unhealthy then 503 else 200) = false := by
    split <;> rfl
  have order : service.health.listing.Perm service.health.report.components.entries :=
    service.health.order.perm _
  exact follows_answer trivial (conveys_reordered content (ServiceHealth.reads order)
    (ServiceHealth.reordered_toJson order))

end Answers

/-! ## Calls that are answered -/

/-- Where a service takes a call.  No node has an empty id, so a call about one leads nowhere. -/
def destination? : Call → Option Route
  | nodes _ | register _ => some .nodes
  | node id => if id = "" then none else some (.node (segment id))
  | containers => some .containers
  | transitions .. => some .transitions
  | decommission id => some (.decommission (segment id))
  | figures => some .statistics
  | health => some .health

/-- A service takes the path of a call to the route that the call is meant for. -/
theorem ofPath?_path {call : Call} {path : String} (there : path = "/" ++ call.path) :
    Route.ofPath? path = call.destination? := by
  have cut : Route.segments path = "" :: call.place.map segment := by
    rw [there, path_eq, Route.segments_joined (place_ne_nil call)]
  have words := Percent.segment_word
  simp only [List.forall_mem_cons] at words
  cases call with
  | node id =>
    by_cases named : id = ""
    · subst named
      exact Route.ofPath?_nodes_empty cut
    · rw [destination?, if_neg named]
      exact Route.ofPath?_node named cut
  | decommission id => exact Route.ofPath?_decommission cut
  | _ => simp [Route.ofPath?, cut, place, destination?, words]

/-- A call follows whatever a service answers to it. -/
theorem follows_handle {clock : Clock} {service : Service} (reportable : service.engine.Reportable)
    (call : Call) {request : Request} (method : request.method = call.method)
    (there : request.path = "/" ++ call.path)
    (back : ReadsBack (Api.handle clock service request).2) :
    call.Follows clock service request (Api.handle clock service request).2 := by
  have routed := ofPath?_path there
  cases call with
  | nodes category =>
    rw [Api.handle_get clock service routed rfl method] at back ⊢
    exact follows_nodes reportable category back
  | node id =>
    by_cases named : id = ""
    · rw [destination?, if_pos named] at routed
      rw [Api.handle_unrouted clock service routed]
      have absent : service.engine.get? id = none := named ▸ reportable.get?_empty
      exact follows_refusal (fun _ taken => taken) absent (.bare rfl)
    · rw [destination?, if_neg named] at routed
      have answered := Api.handle_node clock service routed method
      exact follows_node reportable (congrArg Prod.snd answered) back
  | containers =>
    rw [Api.handle_get clock service routed rfl method] at back ⊢
    exact follows_containers reportable back
  | transitions owner limit =>
    rw [Api.handle_get clock service routed rfl method] at back ⊢
    exact follows_transitions reportable owner limit back
  | register asked =>
    rw [Api.handle_post clock service routed rfl method] at back ⊢
    exact follows_register reportable asked back
  | decommission id =>
    have answered := Api.handle_decommission clock service routed method
    exact follows_decommission (congrArg Prod.snd answered)
  | figures =>
    rw [Api.handle_get clock service routed rfl method]
    exact follows_figures
  | health =>
    rw [Api.handle_get clock service routed rfl method]
    exact follows_health

/-- A service reads a registration as the operator wrote it. -/
theorem readContent_register (asked : NewNode) (url : Url) :
    Api.readContent Registration.reader ((register asked).request url) =
      .ok ⟨asked.id, asked.name, asked.container⟩ := by
  have read := (Registration.reads ⟨asked.id, asked.name, asked.container⟩).readText
  rw [readText, Scanned.read, Guards.bind_eq_ok] at read
  obtain ⟨value, taken, closed⟩ := read
  rw [Guards.ite_ok_eq_ok] at closed
  cases closed.2
  have json : MediaType.isJson "application/json" = true := by decide +kernel
  have kind : ((register asked).request url).contentType = some "application/json" := rfl
  have content : ((register asked).request url).content =
      (Registration.toJson ⟨asked.id, asked.name, asked.container⟩).compact := rfl
  simp only [Api.readContent, kind, Option.map_some, json, Option.getD_some, if_true, content,
    taken]

end Call

/-- What a service answers to a call is read by the operator as what the service holds and is
written again as it was sent, in every state that can be reached and in whatever order its table
of components hands them out; and what it refuses, with a reason, is understood as a refusal.
What a service restores comes from a file, so its numbers are finite, and of the rule for numerals
this takes that it gets back the doubles in the answer.  In return, a service reads every
registration as the operator wrote it. -/
theorem exchange (clock : Clock) {service : Service} (inService : service.engine.InService) :
    (∀ (call : Call) (request : Request), request.method = call.method →
      request.path = "/" ++ call.path → ReadsBack (Api.handle clock service request).2 →
        call.Follows clock service request (Api.handle clock service request).2) ∧
    ∀ (asked : NewNode) (url : Url),
      Api.readContent Registration.reader ((Call.register asked).request url) =
        .ok ⟨asked.id, asked.name, asked.container⟩ := by
  have reportable : service.engine.Reportable := by
    obtain ⟨settings, name, steps, loaded, reached⟩ := inService
    rw [reached]
    exact Engine.reportable_run settings name fun step member => (loaded step member).restoresFinite
  constructor
  · intro call request method there back
    exact Call.follows_handle reportable call method there back
  · intro asked url
    exact Call.readContent_register asked url

/-- A service is called at its address about a node that has reported, and about its health, whose
components it hands out from the last to the first. -/
theorem exchange_reported :
    let steps : List Engine.Step := [.single 0 (.submit (.loaded "n" (some 0) 0.0))]
    let health : Health :=
      { Health.empty.registerAll 0 with order := ⟨List.reverse, List.reverse_perm⟩ }
    let service : Service := ⟨(Engine.fresh .default "engine").run steps, health, .empty⟩
    let base : Url := ⟨"http", "localhost", some 8080, [""], false, none⟩
    let address (call : Call) : Url :=
      { base with path := Url.walk [] (call.place.map segment), query := none }
    let answer (call : Call) := (Api.handle ⟨5, 0⟩ service (call.request (address call))).2
    (∀ call ∈ [Call.node "n", Call.health], call.url base = .ok (address call)) ∧
      (∃ node, service.engine.get? "n" = some node ∧ node.sampleCount = 1 ∧
        (answer (.node "n")).status = 200 ∧
        Conveys NodeDetail.reader NodeDetail.toJson (answer (.node "n")) (.ofNode node)) ∧
      health.listing ≠ health.report.components.entries ∧
      Conveys ServiceHealth.reader ServiceHealth.toJson (answer .health)
        (.ofReport health.report) := by
  intro steps health service base address answer
  have root : Call.IsRoot base := ⟨by decide, rfl, rfl⟩
  have noRestore : ∀ step ∈ steps, step.RestoresLoaded := by
    intro step member snapshot restored
    rw [List.mem_singleton.mp member] at restored
    cases restored
  have reached : service.engine = (Engine.fresh .default "engine").run steps := by
    with_reducible rfl
  have inService : service.engine.InService := ⟨.default, "engine", steps, noRestore, reached⟩
  obtain ⟨follows, _⟩ := exchange ⟨5, 0⟩ inService
  have addressed : ∀ call ∈ [Call.node "n", Call.health], call.url base = .ok (address call) ∧
      (call.request (address call)).path = "/" ++ call.path := by
    simp only [List.forall_mem_cons, List.not_mem_nil, false_implies, implies_true, and_true]
    exact ⟨⟨Call.url_root root rfl, by decide +kernel⟩, Call.url_root root rfl, by decide +kernel⟩
  obtain ⟨node, tracked, once, round⟩ : ∃ node ∈ service.engine.get? "n",
      node.sampleCount = 1 ∧ ∀ number ∈ node.numbers, number = 1.0 ∨ number = 0.0 := by
    decide +kernel
  rw [Option.mem_def] at tracked
  have finite : node.IsFinite := by
    intro number member
    rcases round number member with rfl | rfl <;> rfl
  have there := (addressed (.node "n") (by simp)).2
  have answered : answer (.node "n") = .json 200 node.toJson := by
    have handled := congrArg Prod.snd
      (Api.handle_node ⟨5, 0⟩ service (Call.ofPath?_path there) rfl)
    rwa [tracked] at handled
  have back : ReadsBack (answer (.node "n")) := by
    intro body content number member
    rw [answered] at content
    cases content
    rw [Node.doubles_toJson finite] at member
    exact Json.readsBack_of_round (round number member)
  have good : (answer (.node "n")).status = 200 := congrArg Response.status answered
  have taken : (Call.node "n").Takes (answer (.node "n")).status := by rw [good]; rfl
  obtain ⟨other, found, conveyed⟩ :=
    (follows (.node "n") _ (Call.method_request _ _) there back).answer taken
  cases tracked.symm.trans found
  have healthThere := (addressed .health (by simp)).2
  have healthAnswered : answer .health =
      .json (if service.health.report.condition = .unhealthy then 503 else 200)
        (service.health.report.toJsonOf service.health.listing) :=
    congrArg Prod.snd (Api.handle_get ⟨5, 0⟩ service (Call.ofPath?_path healthThere) rfl rfl)
  have healthBack : ReadsBack (answer .health) := by
    intro body content number member
    rw [healthAnswered] at content
    cases content
    rw [HealthReport.doubles_toJsonOf] at member
    cases member
  have healthConveyed :=
    (follows .health _ (Call.method_request _ _) healthThere healthBack).answer trivial
  exact ⟨fun call member => (addressed call member).1, ⟨node, tracked, once, good, conveyed⟩,
    by decide +kernel, healthConveyed⟩

end Operator

end Headroom
