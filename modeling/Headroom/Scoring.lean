import Headroom.Window

/-!
# Scores

Each dimension of a score is the headroom that a node has left against a
configured baseline, averaged over its window.  The overall score is the weighted
sum of the dimensions.  A value that is no number counts as fully used.
-/

namespace Headroom

/-- What the dimensions contribute to the overall score. -/
structure Weights (α : Type) where
  cpu : α
  memory : α
  network : α
  availability : α

/-- The baselines that readings are measured against. -/
structure Scoring (α : Type) where
  /-- The load that counts as fully used. -/
  cpuCapacity : α
  /-- The latency in milliseconds that leaves no headroom. -/
  latencyCeiling : α
  /-- The throughput in bytes per second that leaves no headroom. -/
  throughputCapacity : α
  /-- The share of latency in the network score; throughput has the rest. -/
  latencyShare : α
  weights : Weights α

/-- The headroom of a node by dimension and overall, each in the unit interval. -/
structure Scores (α : Type) where
  cpu : α
  memory : α
  network : α
  availability : α
  overall : α

/-- The usage of the newest sample in percent; the load may exceed one hundred. -/
structure Usage (α : Type) where
  cpuPercent : α
  memoryPercent : α

def Weights.toList {α : Type} (weights : Weights α) : List α :=
  [weights.cpu, weights.memory, weights.network, weights.availability]

def Scores.dimensions {α : Type} (scores : Scores α) : List α :=
  [scores.cpu, scores.memory, scores.network, scores.availability]

variable {α : Type} [Scalar α]

def Weights.default : Weights α := ⟨0.3, 0.3, 0.2, 0.2⟩

def Scoring.default : Scoring α := ⟨1.0, 500.0, 125000000.0, 0.5, Weights.default⟩

/-- The scores of a node that has not reported. -/
def Scores.initial : Scores α := ⟨1.0, 1.0, 1.0, 1.0, 1.0⟩

/-- The usage of a node that has not reported. -/
def Usage.none : Usage α := ⟨0.0, 0.0⟩

def headroom (share : α) : α :=
  if Scalar.isUndefined share then 0.0 else 1.0 - Scalar.clamp 0.0 1.0 share

namespace Scoring

def overall (scoring : Scoring α) (dimensions : List α) : α :=
  Scalar.clampUnit (Scalar.sum (List.zipWith (· * ·) scoring.weights.toList dimensions))

def combine (scoring : Scoring α) (cpu memory network availability : α) : Scores α :=
  ⟨cpu, memory, network, availability, scoring.overall [cpu, memory, network, availability]⟩

/-- The network score: headroom in latency and throughput, mixed. -/
def network (scoring : Scoring α) (latency throughput : α) : α :=
  Scalar.clampUnit (scoring.latencyShare * headroom (latency / scoring.latencyCeiling) +
    (1.0 - scoring.latencyShare) * headroom (throughput / scoring.throughputCapacity))

/-- The scores of a window.  An empty one has full headroom. -/
def scores (scoring : Scoring α) (window : Window α) : Scores α :=
  if window.isEmpty then scoring.combine 1.0 1.0 1.0 1.0
  else
    let mean := fun quantity => (window.mean? quantity).getD 0.0
    scoring.combine
      (headroom (mean Sample.cpuLoad / scoring.cpuCapacity))
      (headroom (mean Sample.memoryRatio))
      (scoring.network (mean Sample.networkLatency) (mean Sample.networkThroughput))
      (Scalar.clampUnit (mean Sample.heartbeatRate))

/-- The greatest percentage that is reported; loads far beyond the capacity would
otherwise overflow to an infinity, which documents cannot hold. -/
def percentCeiling : α := 1000000.0

def usage (scoring : Scoring α) (sample : Sample α) : Usage α where
  cpuPercent := Scalar.clampTo percentCeiling (sample.cpuLoad / scoring.cpuCapacity * 100.0)
  memoryPercent := Scalar.clampTo percentCeiling (sample.memoryRatio * 100.0)

end Scoring

end Headroom
