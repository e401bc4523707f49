import Headroom.Decimal.Layout
import Headroom.Dictionary
import Headroom.Scalar
import Headroom.Text.Blank

/-!
# Readings and samples

A reading is what a node sends; a sample is a reading that was checked and has a
time.  The checks run in a fixed order and the first objection is reported.
-/

namespace Headroom

/-- What is known about the container a node runs in. -/
structure Container where
  image : String
  state : String
  /-- Published addresses by container port. -/
  ports : Dictionary String (List String)
  startedAt : Option Int64

/-- One report of a node, as it was sent. -/
structure Reading (α : Type) where
  id : String
  /-- Display name; a node without one is shown under its id. -/
  name : Option String
  /-- Set by the engine when absent. -/
  timestamp : Option Int64
  /-- In the unit of the configured capacity, such as cores. -/
  cpuLoad : α
  memoryUsed : α
  memoryTotal : α
  /-- In milliseconds. -/
  networkLatency : α
  /-- In bytes per second. -/
  networkThroughput : α
  /-- The share of heartbeats that arrived. -/
  heartbeatRate : α
  container : Option Container

/-- One accepted report with its time. -/
structure Sample (α : Type) where
  timestamp : Int64
  cpuLoad : α
  memoryUsed : α
  memoryTotal : α
  networkLatency : α
  networkThroughput : α
  heartbeatRate : α

/-- The quantities of a reading. -/
inductive Measure where
  | cpuLoad
  | memoryUsed
  | memoryTotal
  | networkLatency
  | networkThroughput
  | heartbeatRate
  deriving DecidableEq, Repr

/-- The name of a quantity in documents and messages. -/
def Measure.field : Measure → String
  | cpuLoad => "cpu_load"
  | memoryUsed => "memory_used"
  | memoryTotal => "memory_total"
  | networkLatency => "network_latency_ms"
  | networkThroughput => "network_throughput"
  | heartbeatRate => "heartbeat_success_rate"

/-- Why a reading or a registration is refused whatever the state of the engine. -/
inductive Objection (α : Type) where
  | emptyId
  | notFinite (measure : Measure)
  | negative (measure : Measure) (value : α)
  | totalNotPositive
  | usedExceedsTotal (used total : α)
  | heartbeatOutsideUnit (value : α)
  | negativeTimestamp

namespace Objection

def field {α : Type} : Objection α → String
  | emptyId => "node_id"
  | notFinite measure => measure.field
  | negative measure _ => measure.field
  | totalNotPositive => Measure.memoryTotal.field
  | usedExceedsTotal _ _ => Measure.memoryUsed.field
  | heartbeatOutsideUnit _ => Measure.heartbeatRate.field
  | negativeTimestamp => "timestamp"

def reason : Objection Float → String
  | emptyId => "must not be empty"
  | notFinite _ => "must be a finite number"
  | negative _ value => Decimal.plain value ++ " is negative"
  | totalNotPositive => "must be positive"
  | usedExceedsTotal used total =>
    Decimal.plain used ++ " exceeds memory_total " ++ Decimal.plain total
  | heartbeatOutsideUnit value => Decimal.plain value ++ " is outside [0, 1]"
  | negativeTimestamp => "must not be negative"

end Objection

namespace Reading

variable {α : Type} [Scalar α]

/-- Objects to a quantity that is not finite. -/
def checkFinite (measure : Measure) (value : α) : Except (Objection α) Unit :=
  if Scalar.isFinite value then .ok () else .error (.notFinite measure)

/-- Objects to a quantity that is not finite or negative. -/
def checkNonNegative (measure : Measure) (value : α) : Except (Objection α) Unit := do
  checkFinite measure value
  if value < 0.0 then .error (.negative measure value) else .ok ()

/-- Checks the id and every quantity.  Whether the time is in order is not decided here,
because that depends on the samples before. -/
def validate (reading : Reading α) : Except (Objection α) Unit := do
  if Text.isBlank reading.id then .error .emptyId
  checkNonNegative .cpuLoad reading.cpuLoad
  checkNonNegative .memoryUsed reading.memoryUsed
  checkNonNegative .networkLatency reading.networkLatency
  checkNonNegative .networkThroughput reading.networkThroughput
  checkFinite .memoryTotal reading.memoryTotal
  if reading.memoryTotal ≤ 0.0 then .error .totalNotPositive
  if reading.memoryTotal < reading.memoryUsed then
    .error (.usedExceedsTotal reading.memoryUsed reading.memoryTotal)
  checkFinite .heartbeatRate reading.heartbeatRate
  if !Scalar.inUnit reading.heartbeatRate then .error (.heartbeatOutsideUnit reading.heartbeatRate)
  match reading.timestamp with
  | some timestamp => if timestamp < 0 then .error .negativeTimestamp else .ok ()
  | none => .ok ()

/-- The sample of a reading at a time. -/
def sampleAt {α : Type} (reading : Reading α) (timestamp : Int64) : Sample α where
  timestamp := timestamp
  cpuLoad := reading.cpuLoad
  memoryUsed := reading.memoryUsed
  memoryTotal := reading.memoryTotal
  networkLatency := reading.networkLatency
  networkThroughput := reading.networkThroughput
  heartbeatRate := reading.heartbeatRate

end Reading

/-- The share of memory in use; zero for a node without memory. -/
def Sample.memoryRatio {α : Type} [Scalar α] (sample : Sample α) : α :=
  if sample.memoryTotal ≤ 0.0 then 0.0 else sample.memoryUsed / sample.memoryTotal

end Headroom
