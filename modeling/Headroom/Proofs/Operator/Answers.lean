import Headroom.Http.Api
import Headroom.Operator.Client
import Headroom.Proofs.Json.Contents
import Headroom.Proofs.Lookup
import Headroom.Proofs.Schema.Answers
import Headroom.Proofs.Schema.Requests

/-!
# What an operator takes from a service

Both sides have declarations of their own for what goes between them: where a service has a
category, an operator has a word, and where a service lists categories in their own order, an
operator lists words in theirs.  Each document of a service is read by an operator as the value
that corresponds to it, and the operator writes this value as the very same document, up to the
order of the members in two cases.
-/

namespace Headroom

open RecordReader (Builds)

/-! ## The doubles of a service's documents -/

theorem Scores.doubles_toJson {scores : Scores Float} (finite : scores.IsFinite) :
    scores.toJson.doubles = scores.dimensions ++ [scores.overall] := by
  obtain ⟨cpu, memory, network, availability, overall⟩ := forall_numbers.mp finite
  simp only [toJson, Json.doubles_object, List.flatMap_cons, List.flatMap_nil,
    Json.doubles_float cpu, Json.doubles_float memory, Json.doubles_float network,
    Json.doubles_float availability, Json.doubles_float overall]
  rfl

theorem Usage.doubles_toJson {usage : Usage Float} (finite : usage.IsFinite) :
    usage.toJson.doubles = [usage.cpuPercent, usage.memoryPercent] := by
  simp only [toJson, Json.doubles_object, List.flatMap_cons, List.flatMap_nil,
    Json.doubles_float finite.1, Json.doubles_float finite.2]
  rfl

theorem Container.doubles_toJson (container : Container) : container.toJson.doubles = [] := by
  have started : (Json.given "started_at" .time container.startedAt).flatMap
      (fun entry => entry.2.doubles) = [] := by
    cases container.startedAt <;> rfl
  simp only [toJson, Json.doubles_object, List.flatMap_append, List.flatMap_cons, List.flatMap_nil,
    Json.doubles_ofDictionary_texts, started]
  rfl

theorem Node.doubles_toJson {node : Node} (finite : node.IsFinite) :
    node.toJson.doubles = node.numbers := by
  obtain ⟨scores, usage⟩ := Node.isFinite_iff.mp finite
  have sampled : (Json.nullable .time node.lastSampleAt).doubles = [] := by
    cases node.lastSampleAt <;> rfl
  have container : (Json.given "container" Container.toJson node.container).flatMap
      (fun entry => entry.2.doubles) = [] := by
    cases node.container with
    | none => rfl
    | some container => exact (List.append_nil _).trans container.doubles_toJson
  simp only [toJson, Json.doubles_object, List.flatMap_append, List.flatMap_cons, List.flatMap_nil,
    Scores.doubles_toJson scores, Usage.doubles_toJson usage, sampled, container]
  rfl

theorem ScoredView.doubles_toJson {view : ScoredView} (finite : view.scores.IsFinite) :
    view.toJson.doubles = view.scores.dimensions ++ [view.scores.overall] := by
  obtain ⟨cpu, memory, network, availability, overall⟩ := Scores.forall_numbers.mp finite
  simp only [toJson, Json.doubles_object, List.flatMap_cons, List.flatMap_nil,
    Json.doubles_float cpu, Json.doubles_float memory, Json.doubles_float network,
    Json.doubles_float availability, Json.doubles_float overall]
  rfl

theorem ContainerView.doubles_toJson {view : ContainerView} (finite : view.usage.IsFinite) :
    view.toJson.doubles = [view.usage.cpuPercent, view.usage.memoryPercent] := by
  simp only [toJson, Json.doubles_object, List.flatMap_cons, List.flatMap_nil,
    Json.doubles_ofDictionary_texts, Json.doubles_float finite.1, Json.doubles_float finite.2]
  rfl

/-- A health report holds no doubles, in whatever order its components are handed out. -/
theorem HealthReport.doubles_toJsonOf (report : HealthReport)
    (components : List (String × ComponentReport)) : (report.toJsonOf components).doubles = [] := by
  have component (entry : ComponentReport) : entry.toJson.doubles = [] := by
    simp only [ComponentReport.toJson, Json.doubles_object]
    cases entry.message <;> rfl
  simp only [toJsonOf, Json.doubles_object, List.flatMap_cons, List.flatMap_nil, List.flatMap_map,
    component]
  simp [Condition.toJson, Json.doubles]

def Transition.IsFinite (transition : Transition) : Prop :=
  ∀ number ∈ transition.numbers, number.isFinite = true

theorem Transition.doubles_toJson {transition : Transition} (finite : transition.IsFinite) :
    transition.toJson.doubles = transition.numbers := by
  have score : (Json.nullable .float transition.triggeringScore).doubles = transition.numbers := by
    rw [numbers]
    cases triggered : transition.triggeringScore with
    | none => rfl
    | some score => exact Json.doubles_float (finite score (by simp [numbers, triggered]))
  simp only [toJson, Json.doubles_object, List.flatMap_cons, List.flatMap_nil, score]
  exact List.append_nil _

theorem exact_of_finite {numbers : List Float} (finite : ∀ number ∈ numbers, number.isFinite = true)
    (back : ∀ number ∈ numbers, Json.ReadsBack number) : ∀ number ∈ numbers, Exact number :=
  fun number member => .of_readsBack (finite number member) (back number member)

theorem Category.word_injective : Function.Injective word := by
  have recovered (category : Category) : ofWord? category.word = some category := by
    cases category <;> rfl
  intro first second same
  apply Option.some.inj
  calc some first = ofWord? first.word := (recovered first).symm
    _ = ofWord? second.word := congrArg ofWord? same
    _ = some second := recovered second

namespace Operator

/-! ## Corresponding values -/

def NodeSummary.ofView (view : ScoredView) : NodeSummary :=
  ⟨view.id, view.name, view.scores, view.category.word⟩

def NodeDetail.ofNode (node : Node) : NodeDetail where
  id := node.id
  name := node.name
  scores := node.scores
  category := node.category.word
  lifecycle := node.lifecycle.word
  stale := node.stale
  createdAt := node.createdAt
  lastUpdated := node.lastUpdated
  lastSampleAt := node.lastSampleAt
  sampleCount := node.sampleCount
  usage := node.usage
  container := node.container

def ContainerSummary.ofView (view : ContainerView) : ContainerSummary where
  id := view.id
  name := view.name
  image := view.image
  state := view.state
  ports := view.ports
  cpuUsage := view.usage.cpuPercent
  memoryUsage := view.usage.memoryPercent
  uptime := view.uptime

def CategoryChange.ofTransition (transition : Transition) : CategoryChange where
  id := transition.id
  source := transition.source.word
  target := transition.target.word
  triggeringScore := transition.triggeringScore
  timestamp := transition.timestamp

def Decommissioned.of (id : String) (transition : Option Transition) : Decommissioned :=
  ⟨id, Category.sundown.word, transition.map CategoryChange.ofTransition⟩

/-- How many nodes have each category, by its word. -/
def Figures.counts (statistics : Statistics) : List (String × UInt64) :=
  statistics.nodesByCategory.entries.map fun entry => (entry.1.word, entry.2)

def Figures.ofStatistics (statistics : Statistics) : Figures where
  nodesTracked := statistics.nodesTracked
  capacity := statistics.capacity
  samplesAccepted := statistics.samplesAccepted
  samplesRejected := statistics.samplesRejected
  transitions := statistics.transitions
  nodesCollected := statistics.nodesCollected
  staleNodes := statistics.staleNodes
  nodesByCategory := .ofList (counts statistics)

def ComponentHealth.ofReport (report : ComponentReport) : ComponentHealth :=
  ⟨report.condition.word, report.message, report.checkedAt⟩

def ServiceHealth.ofReport (report : HealthReport) : ServiceHealth :=
  ⟨report.condition.word, report.components.map fun _ => ComponentHealth.ofReport⟩

/-! ## Documents -/

/-- An operator reads the view of a node as its summary. -/
theorem NodeSummary.reads {view : ScoredView}
    (exact : ∀ number ∈ view.scores.dimensions ++ [view.scores.overall], Exact number) :
    ReadsExactly reader view.toJson (ofView view) := by
  obtain ⟨cpu, memory, network, availability, overall⟩ := Scores.forall_numbers.mp exact
  exact Builds.read (Builds.nothing NodeSummary.of
    |>.field (.written (.string view.id))
    |>.field (.written (.string view.name))
    |>.field (.written (.float cpu))
    |>.field (.written (.float memory))
    |>.field (.written (.float network))
    |>.field (.written (.float availability))
    |>.field (.written (.float overall))
    |>.field (.written (.string view.category.word))) (by decide) rfl

/-- An operator reads a record as the details of the node. -/
theorem NodeDetail.reads {node : Node} (exact : ∀ number ∈ node.numbers, Exact number) :
    ReadsExactly reader node.toJson (ofNode node) := by
  obtain ⟨scoresExact, cpuExact, memoryExact⟩ := Node.forall_numbers.mp exact
  obtain ⟨id, name, scores, category, lifecycle, stale, createdAt, lastUpdated, lastSampleAt,
    sampleCount, usage, container⟩ := node
  have sampleRead : ReadsExactly Reader.int64.optional (.nullable .time lastSampleAt)
      lastSampleAt := .nullable (fun time _ => .time time) fun _ _ => nofun
  refine Builds.read (Builds.nothing NodeDetail.mk
    |>.field (.written (.string id))
    |>.field (.written (.string name))
    |>.field (.written (Scores.reads scoresExact))
    |>.field (.written (.string category.word))
    |>.field (.written (.string lifecycle.word))
    |>.field (.written (.bool stale))
    |>.field (.written (.time createdAt))
    |>.field (.written (.time lastUpdated))
    |>.field (.written sampleRead)
    |>.field (.written (.natural sampleCount))
    |>.field (.written (Usage.reads cpuExact memoryExact))
    |>.field (.container container)) (by decide) ?_
  cases container <;> rfl

/-- An operator reads the view of a container as its summary. -/
theorem ContainerSummary.reads {view : ContainerView}
    (exact : ∀ number ∈ [view.usage.cpuPercent, view.usage.memoryPercent], Exact number) :
    ReadsExactly reader view.toJson (ofView view) := by
  simp only [List.forall_mem_cons] at exact
  obtain ⟨cpu, memory, _⟩ := exact
  have portsRead : ReadsExactly (Reader.textDictionary (Reader.list Reader.string))
      (.ofDictionary .texts view.ports) view.ports := .dictionary fun entry _ => .texts entry.2
  exact Builds.read (Builds.nothing ContainerSummary.mk
    |>.field (.written (.string view.id))
    |>.field (.written (.string view.name))
    |>.field (.written (.string view.image))
    |>.field (.written (.string view.state))
    |>.field (.written portsRead)
    |>.field (.written (.float cpu))
    |>.field (.written (.float memory))
    |>.field (.written (.string view.uptime))) (by decide) rfl

theorem CategoryChange.reads {transition : Transition}
    (exact : ∀ number ∈ transition.numbers, Exact number) :
    ReadsExactly reader transition.toJson (ofTransition transition) := by
  have scoreExact : ∀ score, transition.triggeringScore = some score → Exact score :=
    fun score known => exact score (Option.mem_toList.mpr known)
  have scoreRead : ReadsExactly Reader.float.optional (.nullable .float transition.triggeringScore)
      transition.triggeringScore := by
    refine .nullable (fun score known => .float (scoreExact score known)) fun score known => ?_
    rw [(scoreExact score known).written]
    nofun
  exact Builds.read (Builds.nothing CategoryChange.mk
    |>.field (.written (.string transition.id))
    |>.field (.written (.string transition.source.word))
    |>.field (.written (.string transition.target.word))
    |>.field (.written scoreRead)
    |>.field (.written (.time transition.timestamp))) (by decide) rfl

theorem Decommissioned.toJson_of (id : String) (transition : Option Transition) :
    (of id transition).toJson = Api.decommissionBody id transition := by
  cases transition <;> rfl

theorem Decommissioned.reads (id : String) {transition : Option Transition}
    (exact : ∀ change, transition = some change → ∀ number ∈ change.numbers, Exact number) :
    ReadsExactly reader (Api.decommissionBody id transition) (of id transition) := by
  have changeRead : ∀ change, transition.map CategoryChange.ofTransition = some change →
      ReadsExactly CategoryChange.reader change.toJson change := by
    intro change known
    obtain ⟨source, rfl, rfl⟩ := Option.map_eq_some_iff.mp known
    exact CategoryChange.reads (exact source rfl)
  rw [← toJson_of]
  refine Builds.read (Builds.nothing Decommissioned.mk
    |>.field (.written (.string id))
    |>.field (.written (.string Category.sundown.word))
    |>.field (.given rfl rfl changeRead fun _ => nofun)) (by decide) ?_
  cases transition <;> rfl

/-- An operator reads the statistics of an engine, with its maps in another order. -/
theorem Figures.reads (statistics : Statistics) :
    ReadsExactly reader statistics.toJson (ofStatistics statistics) := by
  have capacityRead : ReadsExactly Reader.uint64.optional
      (.nullable .natural statistics.capacity) statistics.capacity :=
    .nullable (fun count _ => .natural count) fun _ _ => nofun
  have countsRead : ReadsExactly (Reader.textDictionary Reader.uint64)
      (.object (statistics.nodesByCategory.entries.map fun entry =>
        (entry.1.word, .natural entry.2))) (.ofList (counts statistics)) := by
    have collected : ReadsExactly (Reader.textDictionary Reader.uint64)
        (.object ((counts statistics).map fun entry => (entry.1, .natural entry.2)))
          (.ofList (counts statistics)) :=
      .collected (fun _ => rfl) fun entry _ => .natural entry.2
    rwa [counts, List.map_map] at collected
  exact Builds.read (Builds.nothing Figures.mk
    |>.field (.written (.natural statistics.nodesTracked))
    |>.field (.written capacityRead)
    |>.field (.written (.natural statistics.samplesAccepted))
    |>.field (.written (.dictionary fun entry _ => .natural entry.2))
    |>.field (.written (.natural statistics.transitions))
    |>.field (.written (.natural statistics.nodesCollected))
    |>.field (.written (.natural statistics.staleNodes))
    |>.field (.written countsRead)) (by decide) rfl

/-- An operator writes the same figures, but the categories in the order of their words. -/
theorem Figures.reordered_toJson (statistics : Statistics) :
    statistics.toJson.Reordered (ofStatistics statistics).toJson := by
  have distinct : ((counts statistics).map (·.1)).Nodup := by
    have words : (counts statistics).map (·.1) =
        statistics.nodesByCategory.keys.map Category.word := by
      rw [counts, Dictionary.keys, List.map_map, List.map_map]
      rfl
    have keys : statistics.nodesByCategory.keys.Nodup :=
      List.pairwise_map.mpr statistics.nodesByCategory.distinct
    rw [words]
    exact keys.map Category.word_injective
  have counted : statistics.nodesByCategory.entries.map (fun entry =>
      (entry.1.word, Json.natural entry.2)) =
        (counts statistics).map fun entry => (entry.1, .natural entry.2) := by
    rw [counts, List.map_map]
    rfl
  have shuffled : (Json.object (statistics.nodesByCategory.entries.map fun entry =>
      (entry.1.word, .natural entry.2))).Reordered
        (.ofDictionary .natural (.ofList (counts statistics))) := by
    rw [counted]
    exact .shuffled ((Dictionary.entries_ofList_perm distinct).symm.map _)
  exact .member [("nodes_tracked", .natural statistics.nodesTracked),
    ("capacity", .nullable .natural statistics.capacity),
    ("samples_accepted", .natural statistics.samplesAccepted),
    ("samples_rejected", .ofDictionary .natural statistics.samplesRejected),
    ("transitions", .natural statistics.transitions),
    ("nodes_collected", .natural statistics.nodesCollected),
    ("stale_nodes", .natural statistics.staleNodes)] "nodes_by_category" [] shuffled

theorem ComponentHealth.reads (component : ComponentHealth) :
    ReadsExactly reader component.toJson component := by
  obtain ⟨status, message, checkedAt⟩ := component
  refine Builds.read (Builds.nothing ComponentHealth.mk
    |>.field (.written (.string status))
    |>.field (.text "message" message)
    |>.field (.written (.time checkedAt))) (by decide) ?_
  cases message <;> rfl

theorem ServiceHealth.toJson_ofReport (report : HealthReport) :
    (ofReport report).toJson = report.toJson := by
  have components : Json.ofDictionary ComponentHealth.toJson (ofReport report).components =
      .ofDictionary ComponentReport.toJson report.components := by
    rw [Json.ofDictionary, ofReport, Dictionary.map, List.map_map]
    rfl
  rw [toJson, components]
  rfl

section Health

variable {report : HealthReport} {components : List (String × ComponentReport)}
  (order : components.Perm report.components.entries)

include order

/-- An operator reads the health of a service in whatever order the components come. -/
theorem ServiceHealth.reads :
    ReadsExactly reader (report.toJsonOf components) (ofReport report) := by
  have same : (components.map fun entry => (entry.1, ComponentHealth.ofReport entry.2)).Perm
      (ofReport report).components.entries := order.map _
  have collected : ReadsExactly (Reader.textDictionary ComponentHealth.reader)
      (.object ((components.map fun entry => (entry.1, ComponentHealth.ofReport entry.2)).map
        fun entry => (entry.1, entry.2.toJson)))
      (.ofList (components.map fun entry => (entry.1, ComponentHealth.ofReport entry.2))) :=
    .collected (fun _ => rfl) fun entry _ => entry.2.reads
  rw [Dictionary.ofList_perm same, List.map_map] at collected
  exact Builds.read (Builds.nothing ServiceHealth.mk
    |>.field (.written (.string report.condition.word))
    |>.field (.written collected)) (by decide) rfl

/-- An operator writes the same health, but the components in the order of their names. -/
theorem ServiceHealth.reordered_toJson :
    (report.toJsonOf components).Reordered (ofReport report).toJson := by
  rw [toJson_ofReport]
  exact HealthReport.reordered order

end Health

theorem Complaint.reads (complaint : Complaint) :
    ReadsExactly reader complaint.toJson complaint :=
  Builds.read (Builds.nothing Complaint.mk
    |>.field (.written (.string complaint.error))
    |>.field (.written (.string complaint.code))) (by decide) rfl

end Operator

end Headroom
