import Headroom.Thresholds

/-!
# Transitions

The record of a change of category, and the bounded history of such records.
-/

namespace Headroom

/-- One change of a node's category. -/
structure Transition where
  id : String
  source : Category
  target : Category
  /-- The overall score that caused the change; none for a decommission. -/
  triggeringScore : Option Float
  timestamp : Int64

namespace Transition

/-- The change that a score causes, if any. -/
def ofScore? (thresholds : Thresholds Float) (id : String) (current : Category) (score : Float)
    (timestamp : Int64) : Option Transition :=
  let next := thresholds.next current score
  if next = current then none else some ⟨id, current, next, some score, timestamp⟩

/-- The change that a decommission causes; none for a node that is already decommissioned. -/
def ofDecommission? (id : String) (current : Category) (timestamp : Int64) : Option Transition :=
  if current.isTerminal then none else some ⟨id, current, .sundown, none, timestamp⟩

end Transition

/-- The latest transitions of all nodes, oldest first, at most `capacity` of them. -/
structure History where
  capacity : Nat
  entries : List Transition

namespace History

def empty (capacity : Nat) : History := ⟨capacity, []⟩

/-- Appends a transition; the oldest one makes room for it. -/
def record (history : History) (transition : Transition) : History :=
  if history.capacity = 0 then history
  else
    let surplus := history.entries.length + 1 - history.capacity
    { history with entries := history.entries.drop surplus ++ [transition] }

def size (history : History) : Nat := history.entries.length

/-- Whether a transition belongs to the given node, or any node is meant. -/
def concerns (id : Option String) (transition : Transition) : Bool :=
  match id with
  | some id => transition.id == id
  | none => true

/-- The latest `limit` transitions of a node, or of all nodes, oldest first: read back from the
newest entry until the limit is reached. -/
def recent (history : History) (id : Option String) (limit : Nat) : List Transition :=
  ((history.entries.reverse.filter (concerns id)).take limit).reverse

end History

end Headroom
