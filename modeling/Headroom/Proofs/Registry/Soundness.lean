import Headroom.Registry
import Headroom.Proofs.Lookup

/-!
# Sound registries

A registry keeps its number of places apart from its table, and every operation
has to move both together.  A registry is sound when they agree, when the places
fit the capacity, and when every slot in the table is in use and stands under the
id of its record.  On sound registries each operation is a change of the table
alone: the places follow.
-/

namespace Headroom.Registry

structure Sound (registry : Registry) : Prop where
  counted : registry.count = registry.slots.size
  bounded : ∀ capacity, registry.capacity = some capacity → registry.count ≤ capacity
  live : ∀ id slot, registry.slots.get? id = some slot → slot.removed = false
  keyed : ∀ id slot, registry.slots.get? id = some slot → slot.node.id = id

theorem sound_empty (limits : Window.Limits) (capacity : Option Nat) :
    (empty limits capacity).Sound where
  counted := rfl
  bounded := fun _ _ => Nat.zero_le _
  live := fun _ _ found => by cases found
  keyed := fun _ _ found => by cases found

/-- Keeps a slot under an id; an id that is new takes a place. -/
def store (registry : Registry) (id : String) (slot : Slot) : Registry :=
  { registry with
    slots := registry.slots.insert id slot
    count := if registry.contains id then registry.count else registry.count + 1 }

variable {registry : Registry} {id : String} {slot : Slot}

theorem contains_eq_true (found : registry.slots.get? id = some slot) :
    registry.contains id = true :=
  Dictionary.contains_iff.mpr ⟨slot, found⟩

theorem contains_eq_false (absent : registry.slots.get? id = none) :
    registry.contains id = false :=
  Dictionary.contains_eq_false.mpr absent

theorem store_tracked (found : registry.slots.get? id = some slot) (changed : Slot) :
    registry.store id changed = registry.put id changed := by
  rw [store, put, contains_eq_true found, if_pos rfl]

theorem store_same (found : registry.slots.get? id = some slot) :
    registry.store id slot = registry := by
  rw [store_tracked found, put, Dictionary.insert_of_get? found]

theorem count_le_of_not_full {capacity : Nat} (room : registry.isFull = false)
    (bounded : registry.capacity = some capacity) : registry.count + 1 ≤ capacity := by
  simpa [isFull, bounded] using room

theorem isFull_iff :
    registry.isFull = true ↔ ∃ capacity, registry.capacity = some capacity ∧
      capacity ≤ registry.count := by
  cases bounded : registry.capacity <;> simp [isFull, bounded]

theorem reserve?_of_room (room : registry.isFull = false) :
    registry.reserve? = some { registry with count := registry.count + 1 } := by
  simp [reserve?, room]

theorem reserve?_of_full (full : registry.isFull = true) : registry.reserve? = none := by
  simp [reserve?, full]

def admits (registry : Registry) (id : String) : Bool := registry.contains id || !registry.isFull

def seat (registry : Registry) (id : String) (name : Option String) (now : Int64) : Slot :=
  (registry.slots.get? id).getD (.fresh (.fresh id name now))

theorem seat_tracked (found : registry.slots.get? id = some slot) {name : Option String}
    {now : Int64} : registry.seat id name now = slot := by
  rw [seat, found, Option.getD_some]

/-- What holds of the slot of a tracked node and of a new one holds where an update starts. -/
theorem forall_seat {p : Slot → Prop} {name : Option String} {now : Int64}
    (tracked : ∀ slot, registry.slots.get? id = some slot → p slot)
    (new : registry.slots.get? id = none → p (.fresh (.fresh id name now))) :
    p (registry.seat id name now) := by
  rw [seat]
  cases found : registry.slots.get? id with
  | some slot => exact tracked slot found
  | none => exact new found

theorem admits_iff :
    registry.admits id = true ↔ registry.contains id = true ∨ registry.isFull = false := by
  simp [admits]

theorem admits_eq_false :
    registry.admits id = false ↔ registry.slots.get? id = none ∧ registry.isFull = true := by
  simp [admits, contains, Dictionary.contains_eq_false]

theorem room_of_admits (room : registry.admits id = true)
    (absent : registry.slots.get? id = none) : registry.isFull = false := by
  simpa [admits, contains_eq_false absent] using room

theorem store_put (first second : Slot) :
    (registry.store id first).put id second = registry.store id second := by
  simp only [put, store, Dictionary.insert_insert]

/-- A node that was entered and is dropped again leaves no trace. -/
theorem drop_store (absent : registry.slots.get? id = none) (slot : Slot) :
    (registry.store id slot).drop id = registry := by
  have tracked : (registry.store id slot).contains id = true :=
    Dictionary.contains_iff.mpr ⟨slot, by simp [store]⟩
  rw [drop, tracked, if_pos rfl]
  simp only [store, contains_eq_false absent, Dictionary.erase_insert _ absent]
  rfl

namespace Sound

variable (sound : registry.Sound)

include sound

theorem slot?_eq (id : String) : registry.slot? id = registry.slots.get? id := by
  rw [slot?]
  cases found : registry.slots.get? id with
  | none => rfl
  | some slot => simp [Option.filter, sound.live id slot found]

theorem get?_eq (id : String) : registry.get? id = (registry.slots.get? id).map (·.node) := by
  rw [get?, sound.slot?_eq]

theorem window?_eq (id : String) :
    registry.window? id = (registry.slots.get? id).map (·.window) := by
  rw [window?, sound.slot?_eq]

theorem get?_eq_some_iff {id : String} {node : Node} :
    registry.get? id = some node ↔
      ∃ slot, registry.slots.get? id = some slot ∧ slot.node = node := by
  rw [sound.get?_eq, Option.map_eq_some_iff]

theorem get?_tracked {id : String} {slot : Slot} (found : registry.slots.get? id = some slot) :
    registry.get? id = some slot.node :=
  sound.get?_eq_some_iff.mpr ⟨slot, found, rfl⟩

theorem nodes_eq : registry.nodes = registry.slots.values.map (·.node) := by
  have allLive : registry.slots.values.filter (fun slot => !slot.removed) =
      registry.slots.values := by
    refine List.filter_eq_self.mpr fun slot member => ?_
    obtain ⟨id, found⟩ := Dictionary.mem_values.mp member
    simp [sound.live id slot found]
  rw [nodes, allLive]

/-- A slot may be kept when it is in use, stands under the id of its record, and has a place. -/
theorem store (live : slot.removed = false) (keyed : slot.node.id = id)
    (room : registry.contains id = true ∨ registry.isFull = false) :
    (registry.store id slot).Sound where
  counted := by
    simp only [Registry.store, Dictionary.size_insert, sound.counted]
    rfl
  bounded := fun capacity bounded => by
    simp only [Registry.store]
    split
    · exact sound.bounded capacity bounded
    · rename_i absent
      exact count_le_of_not_full (room.resolve_left absent) bounded
  live := fun other kept found => by
    rw [Registry.store, Dictionary.get?_insert] at found
    split at found
    · cases found
      exact live
    · exact sound.live other kept found
  keyed := fun other kept found => by
    rw [Registry.store, Dictionary.get?_insert] at found
    split at found
    · rename_i same
      cases found
      exact keyed.trans same.symm
    · exact sound.keyed other kept found

/-- A tracked slot may be replaced by one with the same id. -/
theorem replace (found : registry.slots.get? id = some slot) {changed : Slot}
    (live : changed.removed = slot.removed) (keyed : changed.node.id = slot.node.id) :
    (registry.store id changed).Sound :=
  sound.store (live.trans (sound.live id slot found)) (keyed.trans (sound.keyed id slot found))
    (.inl (contains_eq_true found))

/-! ## Entering and updating -/

theorem enter_tracked (found : registry.slots.get? id = some slot) (name : Option String)
    (now : Int64) : registry.enter id name now = .ok (registry, slot, false) := by
  rw [enter, sound.slot?_eq, found]

theorem enter_new (absent : registry.slots.get? id = none) (room : registry.isFull = false)
    (name : Option String) (now : Int64) :
    registry.enter id name now =
      .ok (registry.store id (registry.seat id name now), registry.seat id name now, true) := by
  have newSeat : registry.seat id name now = .fresh (.fresh id name now) := by
    rw [seat, absent]
    rfl
  rw [enter, sound.slot?_eq, absent]
  simp only [reserve?_of_room room, newSeat]
  rw [Registry.store, contains_eq_false absent]
  rfl

section Update

variable {ε τ : Type} {name : Option String} {now : Int64} {update : Slot → Slot × Except ε τ}
variable {changed : Slot} {value : τ} {cause : ε}

theorem upsert_full (full : registry.admits id = false) :
    registry.upsert id name now update =
      (registry, .error (.full (registry.capacity.getD 0))) := by
  obtain ⟨untracked, noRoom⟩ := admits_eq_false.mp full
  rw [upsert, enter, sound.slot?_eq, untracked]
  simp only [reserve?_of_full noRoom]

/-- An update that goes through keeps the changed slot and says whether the node is new. -/
theorem upsert_ok (room : registry.admits id = true)
    (done : update (registry.seat id name now) = (changed, .ok value)) :
    registry.upsert id name now update =
      (registry.store id changed, .ok (value, !registry.contains id)) := by
  cases found : registry.slots.get? id with
  | some slot =>
    rw [seat_tracked found] at done
    rw [upsert, sound.enter_tracked found, store_tracked found, contains_eq_true found]
    simp only [done, Bool.not_true]
  | none =>
    rw [upsert, sound.enter_new found (room_of_admits room found), contains_eq_false found]
    simp only [done, store_put, Bool.not_false]

/-- A failed update of a new node gives its place back, so that nothing has changed, unless
the node has counted a sample already. -/
theorem upsert_error (room : registry.admits id = true)
    (failed : update (registry.seat id name now) = (changed, .error cause)) :
    registry.upsert id name now update =
      (if registry.contains id = false ∧ changed.node.sampleCount = 0 then registry
        else registry.store id changed, .error (.refused cause)) := by
  cases found : registry.slots.get? id with
  | some slot =>
    rw [seat_tracked found] at failed
    rw [upsert, sound.enter_tracked found, store_tracked found, contains_eq_true found]
    simp [failed]
  | none =>
    rw [upsert, sound.enter_new found (room_of_admits room found), contains_eq_false found]
    simp only [failed, store_put, drop_store found, true_and]
    split <;> rfl

end Update

theorem modify?_absent {τ : Type} (absent : registry.slots.get? id = none)
    (change : Slot → Slot × τ) : registry.modify? id change = none := by
  rw [modify?, sound.slot?_eq, absent]
  rfl

theorem modify?_tracked {τ : Type} (found : registry.slots.get? id = some slot)
    (change : Slot → Slot × τ) :
    registry.modify? id change = some (registry.store id (change slot).1, (change slot).2) := by
  rw [modify?, sound.slot?_eq, found, store_tracked found]
  rfl

/-! ## Sweeping and restoring -/

/-- Every expired node gives back exactly its own place. -/
theorem collect (now retention : Int64) : (registry.collect now retention).1.Sound where
  counted := by
    have parts := Dictionary.size_filter_add
      (fun _ slot => slot.node.isExpired now retention) registry.slots
    simp only [Registry.collect, sound.counted]
    omega
  bounded := fun capacity bounded =>
    (Nat.sub_le _ _).trans (sound.bounded capacity bounded)
  live := fun id slot found => by
    rw [Registry.collect, Dictionary.get?_filter, Option.filter_eq_some_iff] at found
    exact sound.live id slot found.1
  keyed := fun id slot found => by
    rw [Registry.collect, Dictionary.get?_filter, Option.filter_eq_some_iff] at found
    exact sound.keyed id slot found.1

theorem get?_collect (now retention : Int64) (id : String) :
    (registry.collect now retention).1.get? id =
      (registry.get? id).filter fun node => !node.isExpired now retention := by
  rw [(sound.collect now retention).get?_eq, sound.get?_eq, Registry.collect,
    Dictionary.get?_filter]
  cases registry.slots.get? id with
  | none => rfl
  | some slot => cases expired : slot.node.isExpired now retention <;> simp [Option.filter, expired]

theorem slots_flagSilent (now timeout : Int64) :
    (registry.flagSilent now timeout).1.slots = registry.slots.map fun _ slot =>
      { slot with node := { slot.node with stale := slot.node.isSilent now timeout } } := by
  refine Dictionary.ext_get? fun id => ?_
  simp only [Registry.flagSilent, Dictionary.get?_map]
  cases found : registry.slots.get? id with
  | none => rfl
  | some slot => simp [sound.live id slot found]

/-- The flags change, and nothing else. -/
theorem flagSilent (now timeout : Int64) : (registry.flagSilent now timeout).1.Sound where
  counted := by
    rw [sound.slots_flagSilent, Dictionary.size_map, ← sound.counted]
    rfl
  bounded := sound.bounded
  live := fun id slot found => by
    rw [sound.slots_flagSilent, Dictionary.get?_map, Option.map_eq_some_iff] at found
    obtain ⟨before, found, rfl⟩ := found
    exact sound.live id before found
  keyed := fun id slot found => by
    rw [sound.slots_flagSilent, Dictionary.get?_map, Option.map_eq_some_iff] at found
    obtain ⟨before, found, rfl⟩ := found
    exact sound.keyed id before found

theorem get?_flagSilent (now timeout : Int64) (id : String) :
    (registry.flagSilent now timeout).1.get? id =
      (registry.get? id).map fun node => { node with stale := node.isSilent now timeout } := by
  rw [(sound.flagSilent now timeout).get?_eq, sound.get?_eq, sound.slots_flagSilent,
    Dictionary.get?_map]
  cases registry.slots.get? id <;> rfl

/-- A record is taken over if it has an id and its node is tracked or finds a place. -/
theorem restoreOne_eq (node : Node) :
    registry.restoreOne node =
      if node.id.isEmpty = false ∧ registry.admits node.id = true then
        (registry.store node.id (.fresh node), true)
      else (registry, false) := by
  cases empty : node.id.isEmpty with
  | true => simp [restoreOne, empty]
  | false =>
    cases found : registry.slots.get? node.id with
    | some slot =>
      have live := sound.live _ slot found
      simp [restoreOne, empty, found, admits, contains_eq_true found, store_tracked found,
        Slot.fresh, live]
    | none =>
      cases full : registry.isFull with
      | true =>
        simp [restoreOne, empty, found, admits, contains_eq_false found, full,
          reserve?_of_full full]
      | false =>
        simp [restoreOne, empty, found, admits, contains_eq_false found, full,
          reserve?_of_room full, Registry.store, put]

theorem restoreOne (node : Node) : (registry.restoreOne node).1.Sound := by
  rw [sound.restoreOne_eq]
  split
  · rename_i taken
    exact sound.store rfl rfl (admits_iff.mp taken.2)
  · exact sound

end Sound

theorem lookup_store (registry : Registry) (id : String) (slot : Slot) (other : String) :
    (registry.store id slot).slots.get? other =
      if other = id then some slot else registry.slots.get? other :=
  Dictionary.get?_insert registry.slots id slot other

theorem Sound.get?_store (sound : registry.Sound) (after : (registry.store id slot).Sound)
    (other : String) :
    (registry.store id slot).get? other =
      if other = id then some slot.node else registry.get? other := by
  rw [after.get?_eq, sound.get?_eq, Registry.lookup_store]
  split <;> rfl

theorem Sound.restore (nodes : List Node) :
    ∀ {registry : Registry}, registry.Sound → (registry.restore nodes).1.Sound := by
  induction nodes with
  | nil => exact id
  | cons node rest ih => exact fun sound => ih (sound.restoreOne node)

/-- A slot after a restore was there before or holds one of the records. -/
theorem Sound.lookup_restore (nodes : List Node) :
    ∀ {registry : Registry}, registry.Sound → ∀ {id : String} {slot : Slot},
      (registry.restore nodes).1.slots.get? id = some slot →
        registry.slots.get? id = some slot ∨
          ∃ node ∈ nodes, node.id = id ∧ id.isEmpty = false ∧ slot = .fresh node := by
  induction nodes with
  | nil => exact fun _ _ _ found => .inl found
  | cons node rest ih =>
    intro registry sound id slot found
    rcases ih (sound.restoreOne node) found with earlier | ⟨other, member, restored⟩
    · rw [sound.restoreOne_eq] at earlier
      split at earlier
      · rename_i taken
        rw [lookup_store] at earlier
        split at earlier
        · rename_i same
          cases earlier
          exact .inr ⟨node, List.mem_cons_self, same.symm, same ▸ taken.1, rfl⟩
        · exact .inl earlier
      · exact .inl earlier
    · exact .inr ⟨other, List.mem_cons_of_mem _ member, restored⟩

theorem Sound.lookup_restoreOne {registry : Registry} (sound : registry.Sound) {node : Node}
    {id : String} {slot : Slot} (named : id.isEmpty = false)
    (found : (registry.restoreOne node).1.slots.get? id = some slot) :
    if node.id = id then slot = .fresh node else registry.slots.get? id = some slot := by
  rw [sound.restoreOne_eq] at found
  by_cases own : node.id = id
  · subst own
    rw [if_pos rfl]
    split at found
    · rw [lookup_store, if_pos rfl] at found
      exact (Option.some.inj found).symm
    · rename_i passedOver
      -- A tracked node has its place, so its record is never passed over.
      exact absurd ⟨named, admits_iff.mpr (.inl (contains_eq_true found))⟩ passedOver
  · rw [if_neg own]
    split at found
    · rwa [lookup_store, if_neg (Ne.symm own)] at found
    · exact found

/-- A tracked node has after a restore the last of its records, with an empty window.  Without
a record it keeps its slot. -/
theorem Sound.lookup_restore_last (nodes : List Node) :
    ∀ {registry : Registry}, registry.Sound → ∀ {id : String} {slot : Slot},
      id.isEmpty = false → (registry.restore nodes).1.slots.get? id = some slot →
        match (nodes.filter fun node => node.id = id).getLast? with
        | some node => slot = .fresh node
        | none => registry.slots.get? id = some slot := by
  induction nodes with
  | nil => exact fun _ _ _ _ found => found
  | cons node rest ih =>
    intro registry sound id slot named found
    have later := ih (sound.restoreOne node) named found
    by_cases own : node.id = id
    · rw [List.filter_cons_of_pos (by simpa using own), List.getLast?_cons]
      cases last : (rest.filter fun node => node.id = id).getLast? with
      | some record =>
        rw [last] at later
        exact later
      | none =>
        rw [last] at later
        have first := sound.lookup_restoreOne named later
        rwa [if_pos own] at first
    · rw [List.filter_cons_of_neg (by simpa using own)]
      cases last : (rest.filter fun node => node.id = id).getLast? with
      | some record =>
        rw [last] at later
        exact later
      | none =>
        rw [last] at later
        have first := sound.lookup_restoreOne named later
        rwa [if_neg own] at first

end Headroom.Registry
