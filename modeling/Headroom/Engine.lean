import Headroom.Event
import Headroom.Metrics
import Headroom.Registry
import Headroom.Settings
import Headroom.Snapshot

/-!
# The engine

The engine takes readings, scores and classifies their nodes, and keeps account
of what it did.  Every operation that depends on the time is given the time.
Operations return the engine after them together with their result.
-/

namespace Headroom

/-- A request to enter a node before it reports. -/
structure Registration where
  id : String
  name : Option String
  container : Option Container

/-- Why a reading or a registration is refused. -/
inductive Refusal where
  | invalid (objection : Objection Float)
  | stale (id : String) (timestamp lastAccepted : Int64)
  | full (capacity : Nat)

namespace Refusal

def code : Refusal → RejectionCode
  | invalid _ => .invalidValue
  | stale .. => .staleSample
  | full _ => .registryFull

/-- The message for a field with a wrong value. -/
def invalidMessage (field reason : String) : String :=
  "invalid value for " ++ field ++ ": " ++ reason

def message : Refusal → String
  | invalid objection => invalidMessage objection.field objection.reason
  | stale id timestamp lastAccepted =>
    "stale sample for node " ++ id ++ ": timestamp " ++ Decimal.integer timestamp.toInt ++
      " is older than last accepted " ++ Decimal.integer lastAccepted.toInt
  | full capacity => "registry is full (" ++ Decimal.digitsOf capacity ++ " nodes)"

end Refusal

/-- An operation on a node that is not tracked. -/
structure UnknownNode where
  id : String
  deriving DecidableEq, Repr

def UnknownNode.code : String := "unknown_node"

def UnknownNode.message (error : UnknownNode) : String := "unknown node: " ++ error.id

/-- What a node is told about an accepted reading. -/
structure Receipt where
  id : String
  timestamp : Int64
  scores : Scores Float
  category : Category
  /-- Whether the reading made the node known. -/
  created : Bool
  transition : Option Transition

/-- What became of one reading of a batch. -/
inductive Outcome where
  | accepted (receipt : Receipt)
  | rejected (id code error : String)

/-- Whether a reading of a batch was accepted. -/
def Outcome.isAccepted : Outcome → Bool
  | accepted _ => true
  | rejected .. => false

/-- What the engine did so far. -/
structure Tally where
  accepted : UInt64
  rejected : Rejections
  transitions : UInt64
  collected : UInt64
  deriving DecidableEq, Repr

/-- The tally and the present nodes in numbers. -/
structure Statistics where
  nodesTracked : UInt64
  capacity : Option UInt64
  samplesAccepted : UInt64
  /-- Refused samples by label. -/
  samplesRejected : Dictionary String UInt64
  transitions : UInt64
  nodesCollected : UInt64
  staleNodes : UInt64
  nodesByCategory : Dictionary Category UInt64

/-- What a sweep did. -/
structure Sweep where
  collected : List String
  newlyStale : List String
  staleTotal : Nat
  nodesTracked : Nat
  deriving DecidableEq, Repr

/-- An engine with everything it keeps. -/
structure Engine where
  settings : Settings Float
  /-- The name of this engine in the log. -/
  instanceName : String
  registry : Registry
  history : History
  tally : Tally
  metrics : Metrics
  /-- The events since the journal was last taken, oldest first. -/
  journal : List Event

namespace Engine

/-- The name of an engine that is given none. -/
def defaultInstanceName : String := "balancer-engine"

def fresh (settings : Settings Float) (instanceName : String) : Engine where
  settings := settings
  instanceName := instanceName
  registry := .empty settings.window.limits (settings.registry.capacity.map UInt64.toNat)
  history := .empty settings.registry.auditLogSize.toNat
  tally := ⟨0, .zero, 0, 0⟩
  metrics := .zero
  journal := []

/-- An engine without nodes, if its settings are accepted. -/
def ofSettings (settings : Settings Float) (instanceName : String) :
    Except (SettingsFault Float) Engine := do
  settings.validate
  .ok (fresh settings instanceName)

def log (engine : Engine) (event : Event) : Engine :=
  { engine with journal := engine.journal ++ [event] }

def takeJournal (engine : Engine) : Engine × List Event :=
  ({ engine with journal := [] }, engine.journal)

/-- Accepts a sample into a slot, unless it is older than the last one.  Returns the receipt
for a node that was known before. -/
def accept (settings : Settings Float) (limits : Window.Limits) (reading : Reading Float)
    (timestamp now : Int64) (slot : Slot) : Slot × Except Refusal Receipt :=
  let node := slot.node
  match node.lastSampleAt.filter fun last => timestamp < last with
  | some last => (slot, .error (.stale reading.id timestamp last))
  | none =>
    let sample := reading.sampleAt timestamp
    let window := slot.window.push limits sample
    let scores := settings.scoring.scores window
    let transition :=
      Transition.ofScore? settings.thresholds reading.id node.category scores.overall timestamp
    let category := (transition.map (·.target)).getD node.category
    let observed := node.observed timestamp now scores category (settings.scoring.usage sample)
    ({ slot with node := observed.described reading.name reading.container, window := window },
      .ok ⟨reading.id, timestamp, scores, category, false, transition⟩)

/-- Applies a reading to the registry and the history. -/
def ingest (engine : Engine) (now : Int64) (reading : Reading Float) :
    Engine × Except Refusal Receipt :=
  match reading.validate with
  | .error objection => (engine, .error (.invalid objection))
  | .ok () =>
    let timestamp := reading.timestamp.getD now
    let update := accept engine.settings engine.registry.limits reading timestamp now
    match engine.registry.upsert reading.id reading.name now update with
    | (registry, .error (.full capacity)) =>
      ({ engine with registry := registry }, .error (.full capacity))
    | (registry, .error (.refused refusal)) =>
      ({ engine with registry := registry }, .error refusal)
    | (registry, .ok (receipt, created)) =>
      let history := receipt.transition.elim engine.history engine.history.record
      ({ engine with registry := registry, history := history },
        .ok { receipt with created := created })

/-- Counts and logs a transition that the history already holds. -/
def noteTransition (engine : Engine) (transition : Transition) : Engine :=
  let counted := { engine with
    tally := { engine.tally with transitions := engine.tally.transitions + 1 }
    metrics := engine.metrics.countTransition transition.source transition.target }
  counted.log (.transition transition)

def noteAccepted (engine : Engine) (receipt : Receipt) : Engine :=
  let counted := { engine with
    tally := { engine.tally with accepted := engine.tally.accepted + 1 }
    metrics := { engine.metrics with
      samplesAccepted := engine.metrics.samplesAccepted + 1
      ingestCount := engine.metrics.ingestCount + 1 } }
  receipt.transition.elim counted counted.noteTransition

def noteRejected (engine : Engine) (id : String) (refusal : Refusal) : Engine :=
  let counted := { engine with
    tally := { engine.tally with rejected := engine.tally.rejected.count refusal.code }
    metrics := { engine.metrics with
      samplesRejected := engine.metrics.samplesRejected.count refusal.code
      ingestCount := engine.metrics.ingestCount + 1 } }
  counted.log (.rejection id refusal.code.word refusal.message)

def submit (engine : Engine) (now : Int64) (reading : Reading Float) :
    Engine × Except Refusal Receipt :=
  match engine.ingest now reading with
  | (after, .ok receipt) => (after.noteAccepted receipt, .ok receipt)
  | (after, .error refusal) => (after.noteRejected reading.id refusal, .error refusal)

/-- The outcome of a reading within a batch. -/
def outcome (id : String) : Except Refusal Receipt → Outcome
  | .ok receipt => .accepted receipt
  | .error refusal => .rejected id refusal.code.word refusal.message

/-- Takes readings in order, each at its own time; a refused one does not keep the others from
being taken. -/
def submitEach (engine : Engine) : List (Int64 × Reading Float) → Engine × List Outcome
  | [] => (engine, [])
  | (now, reading) :: rest =>
    let (after, result) := engine.submit now reading
    let (last, outcomes) := after.submitEach rest
    (last, outcome reading.id result :: outcomes)

/-- Takes readings in order while the clock stands still. -/
def submitAll (engine : Engine) (now : Int64) (readings : List (Reading Float)) :
    Engine × List Outcome :=
  engine.submitEach (readings.map (Prod.mk now))

def recompute (engine : Engine) (id : String) : Engine × Except UnknownNode (Scores Float) :=
  let rescore := fun (slot : Slot) =>
    let scores := engine.settings.scoring.scores slot.window
    ({ slot with node := { slot.node with scores := scores } }, scores)
  match engine.registry.modify? id rescore with
  | some (registry, scores) => ({ engine with registry := registry }, .ok scores)
  | none => (engine, .error ⟨id⟩)

/-- Enters a node before it reports, or describes a known one anew. -/
def register (engine : Engine) (now : Int64) (request : Registration) :
    Engine × Except Refusal (Node × Bool) :=
  if request.id.isEmpty then (engine, .error (.invalid .emptyId))
  else
    match engine.registry.register request.id request.name request.container now with
    | (registry, .error capacity) => ({ engine with registry := registry }, .error (.full capacity))
    | (registry, .ok (node, created)) =>
      let after := { engine with registry := registry }
      (after.log (.registration node.id node.name created), .ok (node, created))

/-- Decommissions a node.  The result is the transition, or nothing for a node that was
decommissioned before. -/
def decommission (engine : Engine) (now : Int64) (id : String) :
    Engine × Except UnknownNode (Option Transition) :=
  match engine.registry.retire? id now with
  | none => (engine, .error ⟨id⟩)
  | some (registry, retirement) =>
    let after := { engine with registry := registry }
    match Transition.ofDecommission? id retirement.previous now with
    | none => (after, .ok none)
    | some transition =>
      let recorded := { after with history := after.history.record transition }
      let logged := recorded.log (.decommission id retirement.previous)
      (logged.noteTransition transition, .ok (some transition))

def get? (engine : Engine) (id : String) : Option Node := engine.registry.get? id

/-- The records in the order of their ids, of one category or of all. -/
def list (engine : Engine) (category : Option Category) : List Node :=
  match category with
  | some category => engine.registry.nodes.filter fun node => node.category = category
  | none => engine.registry.nodes

def view (engine : Engine) (now : Int64) : Snapshot := ⟨now, engine.registry.nodes⟩

/-- Takes a snapshot, which is counted. -/
def snapshot (engine : Engine) (now : Int64) : Engine × Snapshot :=
  ({ engine with metrics := engine.metrics.countSnapshot }, engine.view now)

/-- The latest transitions, oldest first. -/
def transitions (engine : Engine) (id : Option String) (limit : Nat) : List Transition :=
  engine.history.recent id limit

def statisticsOf (engine : Engine) (snapshot : Snapshot) : Statistics where
  nodesTracked := .ofNat snapshot.nodes.length
  capacity := engine.registry.capacity.map UInt64.ofNat
  samplesAccepted := engine.tally.accepted
  samplesRejected := engine.tally.rejected.toDictionary
  transitions := engine.tally.transitions
  nodesCollected := engine.tally.collected
  staleNodes := .ofNat snapshot.staleCount
  nodesByCategory := snapshot.countByCategory.toDictionary.map fun _ count => .ofNat count

/-- The tally and the present nodes in numbers. -/
def statistics (engine : Engine) (now : Int64) : Engine × Statistics :=
  let (after, snapshot) := engine.snapshot now
  (after, engine.statisticsOf snapshot)

def collect (engine : Engine) (now : Int64) : Engine × List String :=
  let (registry, ids) := engine.registry.collect now engine.settings.registry.sundownRetention
  let after := { engine with registry := registry }
  if ids.isEmpty then (after, [])
  else
    let count := UInt64.ofNat ids.length
    let counted := { after with
      tally := { after.tally with collected := after.tally.collected + count }
      metrics := { after.metrics with nodesCollected := after.metrics.nodesCollected + count } }
    (counted.log (.collection ids), ids)

def flagSilent (engine : Engine) (now : Int64) : Engine × Silence :=
  let (registry, silence) := engine.registry.flagSilent now engine.settings.registry.silenceTimeout
  let after := { engine with registry := registry }
  let withStale :=
    if silence.newlyStale.isEmpty then after else after.log (.silence silence.newlyStale)
  let withRecovered :=
    if silence.recovered.isEmpty then withStale else withStale.log (.recovery silence.recovered)
  (withRecovered, silence)

/-- Removes expired nodes, then refreshes the stale flags and the gauges. -/
def sweep (engine : Engine) (now : Int64) : Engine × Sweep :=
  let (cleared, collected) := engine.collect now
  let (flagged, silence) := cleared.flagSilent now
  let (after, snapshot) := flagged.snapshot now
  let gauged := { after with
    metrics := { after.metrics with
      nodesTracked := snapshot.nodes.length
      nodesStale := silence.staleTotal
      nodesByCategory := snapshot.countByCategory } }
  (gauged, ⟨collected, silence.newlyStale, silence.staleTotal, snapshot.nodes.length⟩)

/-- Takes over the records of a stored snapshot and returns how many were taken. -/
def restore (engine : Engine) (snapshot : Snapshot) : Engine × Nat :=
  let (registry, count) := engine.registry.restore snapshot.nodes
  ({ engine with registry := registry }, count)

end Engine

end Headroom
