import Headroom.Node

/-!
# The registry

The table of tracked nodes with their windows.  The number of nodes is a counter
of its own, because a place is reserved before a node is entered and given back
when the node is dropped again; it never exceeds the capacity.
-/

namespace Headroom

/-- A tracked node: its record and its recent samples. -/
structure Slot where
  node : Node
  window : Window Float
  /-- Set when the slot leaves the table; whoever still holds it looks its node up again. -/
  removed : Bool

/-- The slot of a record that enters the table. -/
def Slot.fresh (node : Node) : Slot := ⟨node, .empty, false⟩

/-- The tracked nodes. -/
structure Registry where
  limits : Window.Limits
  capacity : Option Nat
  slots : Dictionary String Slot
  /-- The number of reserved places. -/
  count : Nat

/-- Why an update of a node did not happen. -/
inductive UpdateError (ε : Type) where
  /-- The node is new and there is no place for it. -/
  | full (capacity : Nat)
  /-- The update itself refused. -/
  | refused (cause : ε)

/-- How the stale flags changed in a sweep. -/
structure Silence where
  newlyStale : List String
  recovered : List String
  /-- The number of stale nodes after the sweep. -/
  staleTotal : Nat
  deriving DecidableEq, Repr

/-- The category of a node before its decommission, and whether it changed. -/
structure Retirement where
  previous : Category
  moved : Bool
  deriving DecidableEq, Repr

namespace Registry

def empty (limits : Window.Limits) (capacity : Option Nat) : Registry :=
  ⟨limits, capacity, .empty, 0⟩

def isFull (registry : Registry) : Bool :=
  match registry.capacity with
  | some capacity => capacity ≤ registry.count
  | none => false

def contains (registry : Registry) (id : String) : Bool := registry.slots.contains id

/-- The slot of a node, unless it is about to leave the table. -/
def slot? (registry : Registry) (id : String) : Option Slot :=
  (registry.slots.get? id).filter fun slot => !slot.removed

def get? (registry : Registry) (id : String) : Option Node := (registry.slot? id).map (·.node)

def window? (registry : Registry) (id : String) : Option (Window Float) :=
  (registry.slot? id).map (·.window)

/-- All records in the order of their ids. -/
def nodes (registry : Registry) : List Node :=
  (registry.slots.values.filter fun slot => !slot.removed).map (·.node)

/-- Reserves one place, if there is one. -/
def reserve? (registry : Registry) : Option Registry :=
  if registry.isFull then none else some { registry with count := registry.count + 1 }

def put (registry : Registry) (id : String) (slot : Slot) : Registry :=
  { registry with slots := registry.slots.insert id slot }

/-- Drops a node and gives its place back. -/
def drop (registry : Registry) (id : String) : Registry :=
  if registry.contains id then
    { registry with slots := registry.slots.erase id, count := registry.count - 1 }
  else registry

/-- The node under an id, entered first if it is new; whether it is new; and the registry
after that.  The result is the capacity when a new node finds no place. -/
def enter (registry : Registry) (id : String) (name : Option String) (now : Int64) :
    Except Nat (Registry × Slot × Bool) :=
  match registry.slot? id with
  | some slot => .ok (registry, slot, false)
  | none =>
    match registry.reserve? with
    | some reserved =>
      let slot := Slot.fresh (Node.fresh id name now)
      .ok (reserved.put id slot, slot, true)
    | none => .error (registry.capacity.getD 0)

/-- Updates a node, entered first if it is new.  A new node whose update fails is dropped
again, unless it has counted a sample.  Returns the value of the update and whether the
node is new. -/
def upsert {ε τ : Type} (registry : Registry) (id : String) (name : Option String) (now : Int64)
    (update : Slot → Slot × Except ε τ) : Registry × Except (UpdateError ε) (τ × Bool) :=
  match registry.enter id name now with
  | .error capacity => (registry, .error (.full capacity))
  | .ok (entered, slot, created) =>
    match update slot with
    | (changed, .ok value) => (entered.put id changed, .ok (value, created))
    | (changed, .error cause) =>
      if created ∧ changed.node.sampleCount = 0 then
        ((entered.put id { changed with removed := true }).drop id, .error (.refused cause))
      else (entered.put id changed, .error (.refused cause))

def modify? {τ : Type} (registry : Registry) (id : String) (change : Slot → Slot × τ) :
    Option (Registry × τ) :=
  (registry.slot? id).map fun slot =>
    let (changed, value) := change slot
    (registry.put id changed, value)

/-- Enters a node before it reports, or describes a tracked one anew.  Returns its record
and whether it is new; fails with the capacity. -/
def register (registry : Registry) (id : String) (name : Option String)
    (container : Option Container) (now : Int64) : Registry × Except Nat (Node × Bool) :=
  let describe := fun (slot : Slot) =>
    let node := slot.node.described name container
    ({ slot with node := node }, (.ok node : Except Empty Node))
  match registry.upsert id name now describe with
  | (registry, .ok outcome) => (registry, .ok outcome)
  | (registry, .error (.full capacity)) => (registry, .error capacity)

/-- Decommissions a tracked node.  One that is decommissioned already is left alone. -/
def retire? (registry : Registry) (id : String) (now : Int64) : Option (Registry × Retirement) :=
  registry.modify? id fun slot =>
    let previous := slot.node.category
    if previous.isTerminal then (slot, ⟨previous, false⟩)
    else ({ slot with node := slot.node.retired now }, ⟨previous, true⟩)

/-- Drops the decommissioned nodes whose retention has passed, and returns their ids. -/
def collect (registry : Registry) (now retention : Int64) : Registry × List String :=
  let expired := registry.slots.filter fun _ slot => slot.node.isExpired now retention
  let kept := registry.slots.filter fun _ slot => !slot.node.isExpired now retention
  ({ registry with slots := kept, count := registry.count - expired.size }, expired.keys)

/-- Sets the stale flags anew and reports how they changed. -/
def flagSilent (registry : Registry) (now timeout : Int64) : Registry × Silence :=
  let silent := fun (node : Node) => node.isSilent now timeout
  let flagged := registry.slots.map fun _ slot =>
    if slot.removed then slot
    else { slot with node := { slot.node with stale := silent slot.node } }
  let nodes := registry.nodes
  ({ registry with slots := flagged },
    { newlyStale := (nodes.filter fun node => silent node && !node.stale).map (·.id)
      recovered := (nodes.filter fun node => !silent node && node.stale).map (·.id)
      staleTotal := (nodes.filter silent).length })

/-- Takes over one stored record with an empty window, and says whether that was done.
A record without an id and a new node without a place are passed over. -/
def restoreOne (registry : Registry) (node : Node) : Registry × Bool :=
  if node.id.isEmpty then (registry, false)
  else
    match registry.slots.get? node.id with
    | some slot => (registry.put node.id { slot with node := node, window := .empty }, true)
    | none =>
      match registry.reserve? with
      | some reserved => (reserved.put node.id (.fresh node), true)
      | none => (registry, false)

/-- Takes over stored records in order, and returns how many were taken. -/
def restore (registry : Registry) : List Node → Registry × Nat
  | [] => (registry, 0)
  | node :: rest =>
    let (first, taken) := registry.restoreOne node
    let (last, count) := first.restore rest
    (last, if taken then count + 1 else count)

end Registry

end Headroom
