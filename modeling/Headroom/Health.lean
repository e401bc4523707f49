import Headroom.Dictionary

/-!
# Health

The condition of the engine's components.  The worst component decides the
condition of the whole.
-/

namespace Headroom

/-- The condition of a component. -/
inductive Condition where
  | healthy
  | degraded
  | unhealthy
  deriving DecidableEq, Repr

namespace Condition

/-- All conditions, from best to worst. -/
def all : List Condition := [healthy, degraded, unhealthy]

/-- The word that stands for a condition in documents. -/
def word : Condition → String
  | healthy => "healthy"
  | degraded => "degraded"
  | unhealthy => "unhealthy"

def ofWord? (text : String) : Option Condition := all.find? fun condition => condition.word == text

def worse : Condition → Condition → Condition
  | unhealthy, _ => unhealthy
  | _, unhealthy => unhealthy
  | degraded, _ => degraded
  | _, degraded => degraded
  | healthy, healthy => healthy

end Condition

/-- The parts of a service that report their condition. -/
inductive Component where
  /-- Degraded while most samples of an interval are refused. -/
  | ingest
  /-- Degraded while the registry has no place left. -/
  | registry
  /-- Healthy once a maintenance pass was made. -/
  | maintenance
  /-- Degraded after a snapshot could not be saved or restored. -/
  | snapshotStore
  deriving DecidableEq, Repr

namespace Component

def all : List Component := [ingest, registry, maintenance, snapshotStore]

def name : Component → String
  | ingest => "ingest"
  | registry => "registry"
  | maintenance => "maintenance"
  | snapshotStore => "snapshot_store"

end Component

/-- The last report of a component. -/
structure ComponentReport where
  condition : Condition
  message : Option String
  /-- Seconds since the Unix epoch. -/
  checkedAt : Int64
  deriving DecidableEq

/-- The condition of the whole with the reports it follows from, which have no order. -/
structure HealthReport where
  condition : Condition
  components : Dictionary String ComponentReport

/-- Whether a service accepts work, and if not, why. -/
structure Readiness where
  ready : Bool
  reason : Option String
  deriving DecidableEq, Repr

/-- The reports of all components, and whether the service has started. -/
structure Health where
  components : Dictionary String ComponentReport
  started : Bool
  /-- How the table of components hands them out. -/
  order : Arrangement (String × ComponentReport)

namespace Health

def empty : Health := ⟨.empty, false, .asStored⟩

def update (health : Health) (name : String) (report : ComponentReport) : Health :=
  { health with components := health.components.insert name report }

def setHealthy (health : Health) (now : Int64) (name : String) : Health :=
  health.update name ⟨.healthy, none, now⟩

/-- Reports a component in a condition with a message. -/
def set (health : Health) (now : Int64) (name : String) (condition : Condition)
    (message : String) : Health :=
  match condition with
  | .healthy => health.setHealthy now name
  | _ => health.update name ⟨condition, some message, now⟩

/-- Reports a component as healthy, or as degraded by a problem. -/
def note (health : Health) (now : Int64) (name : String) (problem : Option String) : Health :=
  match problem with
  | some message => health.set now name .degraded message
  | none => health.setHealthy now name

def registerAll (health : Health) (now : Int64) : Health :=
  Component.all.foldl (fun health component => health.setHealthy now component.name) health

/-- Says whether the service has started. -/
def setStarted (health : Health) (started : Bool) : Health := { health with started := started }

def conditionOf? (health : Health) (name : String) : Option Condition :=
  (health.components.get? name).map (·.condition)

def overall (health : Health) : Condition :=
  (health.components.values.map (·.condition)).foldl Condition.worse .healthy

/-- The condition of the whole with all reports. -/
def report (health : Health) : HealthReport := ⟨health.overall, health.components⟩

/-- The components in the order in which they are handed out. -/
def listing (health : Health) : List (String × ComponentReport) :=
  health.order.arrange health.components.entries

def readiness (health : Health) : Readiness :=
  if !health.started then ⟨false, some "Engine not yet initialized"⟩
  else if health.overall = .unhealthy then ⟨false, some "Critical component unhealthy"⟩
  else ⟨true, none⟩

end Health

end Headroom
