import Headroom.Category

/-!
# Metrics

The counters and gauges that the engine exposes.  Counters only grow; gauges are
set by sweeps.
-/

namespace Headroom

/-- Why the engine refuses a sample, as a label. -/
inductive RejectionCode where
  | invalidValue
  | staleSample
  | registryFull
  deriving DecidableEq, Repr

namespace RejectionCode

def all : List RejectionCode := [invalidValue, staleSample, registryFull]

def word : RejectionCode → String
  | invalidValue => "invalid_value"
  | staleSample => "stale_sample"
  | registryFull => "registry_full"

end RejectionCode

/-- Counts of refused samples by label. -/
structure Rejections where
  invalidValue : UInt64
  staleSample : UInt64
  registryFull : UInt64
  deriving DecidableEq, Repr

namespace Rejections

def zero : Rejections := ⟨0, 0, 0⟩

def get (rejections : Rejections) : RejectionCode → UInt64
  | .invalidValue => rejections.invalidValue
  | .staleSample => rejections.staleSample
  | .registryFull => rejections.registryFull

def count (rejections : Rejections) : RejectionCode → Rejections
  | .invalidValue => { rejections with invalidValue := rejections.invalidValue + 1 }
  | .staleSample => { rejections with staleSample := rejections.staleSample + 1 }
  | .registryFull => { rejections with registryFull := rejections.registryFull + 1 }

def total (rejections : Rejections) : UInt64 :=
  rejections.invalidValue + rejections.staleSample + rejections.registryFull

/-- The counts under the words of their labels. -/
def toDictionary (rejections : Rejections) : Dictionary String UInt64 :=
  .ofList (RejectionCode.all.map fun code => (code.word, rejections.get code))

end Rejections

/-- The exposed counters and gauges. -/
structure Metrics where
  samplesAccepted : UInt64
  samplesRejected : Rejections
  ingestCount : UInt64
  snapshotCount : UInt64
  /-- Counts by the category before and the category after. -/
  transitions : PerCategory (PerCategory UInt64)
  nodesCollected : UInt64
  nodesTracked : Nat
  nodesStale : Nat
  nodesByCategory : PerCategory Nat
  deriving DecidableEq, Repr

namespace Metrics

def zero : Metrics :=
  ⟨0, .zero, 0, 0, .uniform (.uniform 0), 0, 0, 0, .uniform 0⟩

def countTransition (metrics : Metrics) (source target : Category) : Metrics :=
  { metrics with
    transitions := metrics.transitions.modify source fun row => row.modify target (· + 1) }

def countSnapshot (metrics : Metrics) : Metrics :=
  { metrics with snapshotCount := metrics.snapshotCount + 1 }

/-- The name of a series with its labels. -/
def series (name : String) (labels : List (String × String)) : String :=
  if labels.isEmpty then name
  else
    name ++ "\x7b" ++
      String.intercalate "," (labels.map fun label => label.1 ++ "=\"" ++ label.2 ++ "\"") ++ "\x7d"

def samples (metrics : Metrics) : List (String × Nat) :=
  [("balancer_samples_accepted_total", metrics.samplesAccepted.toNat)] ++
  RejectionCode.all.map (fun code =>
    (series "balancer_samples_rejected_total" [("reason", code.word)],
      (metrics.samplesRejected.get code).toNat)) ++
  [("balancer_ingest_latency_seconds_count", metrics.ingestCount.toNat),
    ("balancer_snapshot_latency_seconds_count", metrics.snapshotCount.toNat),
    ("balancer_nodes_tracked", metrics.nodesTracked)] ++
  Category.all.map (fun category =>
    (series "balancer_nodes_by_category" [("category", category.word)],
      metrics.nodesByCategory.get category)) ++
  [("balancer_nodes_stale", metrics.nodesStale)] ++
  Category.all.flatMap (fun source => Category.all.map fun target =>
    (series "balancer_category_transitions_total" [("from", source.word), ("to", target.word)],
      ((metrics.transitions.get source).get target).toNat)) ++
  [("balancer_nodes_collected_total", metrics.nodesCollected.toNat)]

/-- The text in which the metrics are exposed: one line for each series. -/
def exposition (metrics : Metrics) : String :=
  String.join (metrics.samples.map fun sample => sample.1 ++ " " ++ toString sample.2 ++ "\n")

end Metrics

end Headroom
