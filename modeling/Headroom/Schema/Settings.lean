import Headroom.Json.Reader
import Headroom.Json.Writer
import Headroom.Settings

/-!
# Documents of settings

How the settings of an engine are written and read.  Every field has a default
except the weights, which are given together or not at all.  Documents hold exact
numbers and exact shapes; other sources of settings may be read by laxer rules.
-/

namespace Headroom

/-- The rules by which settings are read: one for each kind of number, and one for
records. -/
structure SettingsRules where
  float : Reader Float
  natural : Reader UInt64
  record : {α : Type} → RecordReader α → Reader α

def SettingsRules.exact : SettingsRules := ⟨Reader.float, Reader.uint64, RecordReader.read⟩

namespace WindowSettings

def toJson (settings : WindowSettings) : Json :=
  .object [("max_samples", .natural settings.maxSamples),
    ("max_age_secs", .natural settings.maxAgeSeconds)]

/-- Reads the settings of windows by given rules. -/
def readerBy (rules : SettingsRules) : Reader WindowSettings :=
  rules.record (RecordReader.nothing WindowSettings.mk
    |>.field (.withDefault "max_samples" rules.natural default.maxSamples)
    |>.field (.withDefault "max_age_secs" rules.natural default.maxAgeSeconds))

def reader : Reader WindowSettings := readerBy .exact

end WindowSettings

namespace Weights

def toJson (weights : Weights Float) : Json :=
  .object [("cpu", .float weights.cpu), ("memory", .float weights.memory),
    ("network", .float weights.network), ("availability", .float weights.availability)]

def readerBy (rules : SettingsRules) : Reader (Weights Float) :=
  rules.record (RecordReader.nothing (Weights.mk (α := Float))
    |>.field (.required "cpu" rules.float)
    |>.field (.required "memory" rules.float)
    |>.field (.required "network" rules.float)
    |>.field (.required "availability" rules.float))

def reader : Reader (Weights Float) := readerBy .exact

end Weights

namespace Scoring

def toJson (scoring : Scoring Float) : Json :=
  .object [("cpu_capacity", .float scoring.cpuCapacity),
    ("network_latency_ceiling_ms", .float scoring.latencyCeiling),
    ("network_throughput_capacity", .float scoring.throughputCapacity),
    ("latency_share", .float scoring.latencyShare), ("weights", scoring.weights.toJson)]

def readerBy (rules : SettingsRules) : Reader (Scoring Float) :=
  rules.record (RecordReader.nothing (Scoring.mk (α := Float))
    |>.field (.withDefault "cpu_capacity" rules.float default.cpuCapacity)
    |>.field (.withDefault "network_latency_ceiling_ms" rules.float default.latencyCeiling)
    |>.field (.withDefault "network_throughput_capacity" rules.float default.throughputCapacity)
    |>.field (.withDefault "latency_share" rules.float default.latencyShare)
    |>.field (.withDefault "weights" (Weights.readerBy rules) default.weights))

def reader : Reader (Scoring Float) := readerBy .exact

end Scoring

namespace Thresholds

def toJson (thresholds : Thresholds Float) : Json :=
  .object [("low_threshold", .float thresholds.low), ("high_threshold", .float thresholds.high),
    ("low_margin", .float thresholds.lowMargin), ("high_margin", .float thresholds.highMargin)]

def readerBy (rules : SettingsRules) : Reader (Thresholds Float) :=
  rules.record (RecordReader.nothing (Thresholds.mk (α := Float))
    |>.field (.withDefault "low_threshold" rules.float default.low)
    |>.field (.withDefault "high_threshold" rules.float default.high)
    |>.field (.withDefault "low_margin" rules.float default.lowMargin)
    |>.field (.withDefault "high_margin" rules.float default.highMargin))

def reader : Reader (Thresholds Float) := readerBy .exact

end Thresholds

namespace RegistrySettings

def toJson (settings : RegistrySettings) : Json :=
  .object [("capacity", .nullable .natural settings.capacity),
    ("silence_timeout_secs", .natural settings.silenceTimeoutSeconds),
    ("sundown_retention_secs", .natural settings.sundownRetentionSeconds),
    ("audit_log_size", .natural settings.auditLogSize)]

/-- Reads the settings of the registry by given rules. -/
def readerBy (rules : SettingsRules) : Reader RegistrySettings :=
  rules.record (RecordReader.nothing RegistrySettings.mk
    |>.field (.optional "capacity" rules.natural)
    |>.field (.withDefault "silence_timeout_secs" rules.natural default.silenceTimeoutSeconds)
    |>.field (.withDefault "sundown_retention_secs" rules.natural default.sundownRetentionSeconds)
    |>.field (.withDefault "audit_log_size" rules.natural default.auditLogSize))

/-- Reads the settings of the registry in a document. -/
def reader : Reader RegistrySettings := readerBy .exact

end RegistrySettings

namespace Settings

def toJson (settings : Settings Float) : Json :=
  .object [("window", settings.window.toJson), ("scoring", settings.scoring.toJson),
    ("classifier", settings.thresholds.toJson), ("registry", settings.registry.toJson)]

def readerBy (rules : SettingsRules) : Reader (Settings Float) :=
  rules.record (RecordReader.nothing (Settings.mk (α := Float))
    |>.field (.withDefault "window" (WindowSettings.readerBy rules) .default)
    |>.field (.withDefault "scoring" (Scoring.readerBy rules) .default)
    |>.field (.withDefault "classifier" (Thresholds.readerBy rules) .default)
    |>.field (.withDefault "registry" (RegistrySettings.readerBy rules) .default))

def reader : Reader (Settings Float) := readerBy .exact

end Settings

end Headroom
