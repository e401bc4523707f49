import Headroom.Decimal.Layout
import Headroom.Scoring
import Headroom.Thresholds

/-!
# Settings

What can be configured about an engine, and the conditions under which settings
are accepted.  They are checked in a fixed order and the first fault is reported.
-/

namespace Headroom

/-- What bounds the window of each node. -/
structure WindowSettings where
  maxSamples : UInt64
  maxAgeSeconds : UInt64
  deriving DecidableEq, Repr

/-- Capacity and timeouts of the registry. -/
structure RegistrySettings where
  /-- The greatest number of nodes; unlimited when absent. -/
  capacity : Option UInt64
  /-- A node without samples for this long is stale. -/
  silenceTimeoutSeconds : UInt64
  /-- A decommissioned node without updates for this long is removed. -/
  sundownRetentionSeconds : UInt64
  /-- The number of transitions kept for audit. -/
  auditLogSize : UInt64
  deriving DecidableEq, Repr

/-- The settings of an engine. -/
structure Settings (α : Type) where
  window : WindowSettings
  scoring : Scoring α
  thresholds : Thresholds α
  registry : RegistrySettings

namespace WindowSettings

/-- The window of a configuration that names none. -/
def default : WindowSettings := ⟨30, 300⟩

/-- The limits that the settings put on a window; it always has room for one sample. -/
def limits (settings : WindowSettings) : Window.Limits :=
  ⟨max 1 settings.maxSamples.toNat, Time.ofSeconds settings.maxAgeSeconds⟩

end WindowSettings

namespace RegistrySettings

/-- The registry of a configuration that names none. -/
def default : RegistrySettings := ⟨none, 60, 600, 1000⟩

def silenceTimeout (settings : RegistrySettings) : Int64 :=
  Time.ofSeconds settings.silenceTimeoutSeconds

def sundownRetention (settings : RegistrySettings) : Int64 :=
  Time.ofSeconds settings.sundownRetentionSeconds

end RegistrySettings

/-- The settings of a configuration that names none. -/
def Settings.default {α : Type} [Scalar α] : Settings α :=
  ⟨.default, .default, .default, .default⟩

/-- A baseline of the scores. -/
inductive Baseline where
  | cpuCapacity
  | latencyCeiling
  | throughputCapacity
  deriving DecidableEq, Repr

def Baseline.field : Baseline → String
  | cpuCapacity => "cpu_capacity"
  | latencyCeiling => "network_latency_ceiling_ms"
  | throughputCapacity => "network_throughput_capacity"

/-- Why settings are refused. -/
inductive SettingsFault (α : Type) where
  | noSamples
  | noAge
  | baselineNotPositive (baseline : Baseline)
  | latencyShareOutsideUnit
  | negativeWeight
  | weightSum (sum : α)
  | thresholdOrder (low high : α)
  | negativeMargin
  | overlappingMargins
  | noCapacity
  | noSilenceTimeout

def SettingsFault.reason : SettingsFault Float → String
  | noSamples => "window.max_samples must be at least 1"
  | noAge => "window.max_age_secs must be positive"
  | baselineNotPositive baseline => "scoring." ++ baseline.field ++ " must be positive"
  | latencyShareOutsideUnit => "scoring.latency_share must be within [0, 1]"
  | negativeWeight => "score weights must be non-negative"
  | weightSum sum => "score weights must sum to 1, got " ++ Decimal.plain sum
  | thresholdOrder low high =>
    "classifier thresholds must satisfy 0 <= low < high <= 1, got low=" ++ Decimal.plain low ++
      " high=" ++ Decimal.plain high
  | negativeMargin => "classifier margins must be non-negative"
  | overlappingMargins =>
    "hysteresis bands overlap: low + low_margin must not exceed high - high_margin"
  | noCapacity => "registry.capacity must be at least 1"
  | noSilenceTimeout => "registry.silence_timeout_secs must be positive"

def SettingsFault.message (fault : SettingsFault Float) : String :=
  "invalid configuration: " ++ fault.reason

section Validation

variable {α : Type} [Scalar α]

/-- Accepts a window with room for a sample of some age. -/
def WindowSettings.validate {α : Type} (settings : WindowSettings) :
    Except (SettingsFault α) Unit := do
  if settings.maxSamples = 0 then .error .noSamples
  if settings.maxAgeSeconds = 0 then .error .noAge

def Baseline.check (baseline : Baseline) (value : α) : Except (SettingsFault α) Unit :=
  if Scalar.isFinite value && !decide (value ≤ 0.0) then .ok ()
  else .error (.baselineNotPositive baseline)

/-- How far the sum of the weights may be from one. -/
def Weights.tolerance : α := 1e-6

/-- Accepts non-negative weights that sum to one, up to the tolerance. -/
def Weights.validate (weights : Weights α) : Except (SettingsFault α) Unit := do
  if weights.toList.any fun weight => !Scalar.isFinite weight || decide (weight < 0.0) then
    .error .negativeWeight
  let sum := Scalar.sum weights.toList
  if Weights.tolerance < sum - 1.0 ∨ Weights.tolerance < 1.0 - sum then .error (.weightSum sum)

/-- Accepts positive baselines, a latency share in the unit interval and sound weights. -/
def Scoring.validate (scoring : Scoring α) : Except (SettingsFault α) Unit := do
  Baseline.cpuCapacity.check scoring.cpuCapacity
  Baseline.latencyCeiling.check scoring.latencyCeiling
  Baseline.throughputCapacity.check scoring.throughputCapacity
  if !Scalar.inUnit scoring.latencyShare then .error .latencyShareOutsideUnit
  scoring.weights.validate

/-- Accepts increasing thresholds in the unit interval whose margins do not overlap. -/
def Thresholds.validate (thresholds : Thresholds α) : Except (SettingsFault α) Unit := do
  if !Scalar.inUnit thresholds.low || !Scalar.inUnit thresholds.high ||
      decide (thresholds.high ≤ thresholds.low) then
    .error (.thresholdOrder thresholds.low thresholds.high)
  if !decide (0.0 ≤ thresholds.lowMargin) || !decide (0.0 ≤ thresholds.highMargin) then
    .error .negativeMargin
  if thresholds.high - thresholds.highMargin < thresholds.low + thresholds.lowMargin then
    .error .overlappingMargins

/-- Accepts a capacity that is not zero and some silence. -/
def RegistrySettings.validate {α : Type} (settings : RegistrySettings) :
    Except (SettingsFault α) Unit := do
  if settings.capacity = some 0 then .error .noCapacity
  if settings.silenceTimeoutSeconds = 0 then .error .noSilenceTimeout

def Settings.validate (settings : Settings α) : Except (SettingsFault α) Unit := do
  settings.window.validate
  settings.scoring.validate
  settings.thresholds.validate
  settings.registry.validate

end Validation

end Headroom
