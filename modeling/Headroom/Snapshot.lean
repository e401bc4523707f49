import Headroom.Node
import Headroom.Decimal.Layout

/-!
# Snapshots

The records of all nodes at one time, and the views that are served from them.
-/

namespace Headroom

/-- All records at one time. -/
structure Snapshot where
  takenAt : Int64
  nodes : List Node

/-- A node as a balancer sees it. -/
structure ScoredView where
  id : String
  name : String
  scores : Scores Float
  category : Category

/-- A node as a container host sees it. -/
structure ContainerView where
  id : String
  name : String
  image : String
  state : String
  ports : Dictionary String (List String)
  usage : Usage Float
  uptime : String

/-- A duration in hours, minutes and seconds; none is shorter than zero. -/
def uptimeText (milliseconds : Int64) : String :=
  let seconds := milliseconds.toInt.toNat / 1000
  Decimal.digitsOf (seconds / 3600) ++ "h " ++ Decimal.digitsOf (seconds % 3600 / 60) ++ "m " ++
    Decimal.digitsOf (seconds % 60) ++ "s"

/-- The view of a node for a balancer. -/
def Node.scoredView (node : Node) : ScoredView := ⟨node.id, node.name, node.scores, node.category⟩

/-- The view of a node for a container host.  The container's own state comes before the
stage of the node, and its start before the node's creation. -/
def Node.containerView (node : Node) (now : Int64) : ContainerView :=
  let image := (node.container.map (·.image)).getD ""
  let state := (node.container.map (·.state)).getD ""
  { id := node.id
    name := node.name
    image := image
    state := if state.isEmpty then node.lifecycle.containerState else state
    ports := (node.container.map (·.ports)).getD .empty
    usage := node.usage
    uptime := uptimeText (Time.elapsed now ((node.container.bind (·.startedAt)).getD node.createdAt)) }

namespace Snapshot

def scoredViews (snapshot : Snapshot) : List ScoredView := snapshot.nodes.map Node.scoredView

def containerViews (snapshot : Snapshot) : List ContainerView :=
  snapshot.nodes.map fun node => node.containerView snapshot.takenAt

def countByCategory (snapshot : Snapshot) : PerCategory Nat :=
  .ofFunction fun category => (snapshot.nodes.filter fun node => node.category = category).length

def staleCount (snapshot : Snapshot) : Nat := (snapshot.nodes.filter (·.stale)).length

end Snapshot

end Headroom
