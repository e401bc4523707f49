import Headroom.Scoring
import Headroom.Category

/-!
# Nodes

The record that is kept about a node.
-/

namespace Headroom

/-- What is known about a node. -/
structure Node where
  id : String
  name : String
  scores : Scores Float
  category : Category
  lifecycle : Lifecycle
  /-- Whether the node was silent for too long at the last sweep. -/
  stale : Bool
  createdAt : Int64
  lastUpdated : Int64
  lastSampleAt : Option Int64
  sampleCount : UInt64
  usage : Usage Float
  container : Option Container

namespace Node

def fresh (id : String) (name : Option String) (now : Int64) : Node where
  id := id
  name := name.getD id
  scores := .initial
  category := .initial
  lifecycle := .initial
  stale := false
  createdAt := now
  lastUpdated := now
  lastSampleAt := none
  sampleCount := 0
  usage := .none
  container := none

/-- The node after a sample at `timestamp` that arrived at `now`. -/
def observed (node : Node) (timestamp now : Int64) (scores : Scores Float) (category : Category)
    (usage : Usage Float) : Node :=
  { node with
    scores := scores
    category := category
    lifecycle := if node.lifecycle = .initial then .active else node.lifecycle
    stale := false
    lastUpdated := now
    lastSampleAt := some timestamp
    sampleCount := node.sampleCount + 1
    usage := usage }

/-- The node with a name and a container where they are given. -/
def described (node : Node) (name : Option String) (container : Option Container) : Node :=
  { node with
    name := name.getD node.name
    container := container.orElse fun _ => node.container }

def retired (node : Node) (now : Int64) : Node :=
  { node with
    category := .sundown
    lifecycle := .sundown
    stale := false
    lastUpdated := now }

/-- The time of the last sample, or of the creation of a node that never reported. -/
def silentSince (node : Node) : Int64 := node.lastSampleAt.getD node.createdAt

/-- Whether a node that is not decommissioned has been silent for at least a timeout. -/
def isSilent (node : Node) (now timeout : Int64) : Bool :=
  node.category ≠ .sundown && timeout ≤ Time.elapsed now node.silentSince

/-- Whether a decommissioned node was last updated at least a retention ago. -/
def isExpired (node : Node) (now retention : Int64) : Bool :=
  node.category = .sundown && retention ≤ Time.elapsed now node.lastUpdated

end Node

end Headroom
