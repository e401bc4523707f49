import Headroom.Proofs.Registry.Soundness

/-!
# Runs of a registry

Any sequence of operations leads from the registry without nodes to a sound one,
so the number of places is the number of tracked nodes at every time: no place is
lost by an update that fails, by a collection or by a restore, and none is given
back twice.  The listing of a sound registry does not depend on the order in which
a table hands out its slots.
-/

namespace Headroom.Registry

/-- An operation on a registry.  An update may do anything to a record and its window and may
fail afterwards, but the id of the record and the mark of the slot are not its to change. -/
inductive Operation where
  | upsert {ε τ : Type} (id : String) (name : Option String) (now : Int64)
      (update : Slot → Slot × Except ε τ)
      (keepsId : ∀ slot, (update slot).1.node.id = slot.node.id)
      (keepsMark : ∀ slot, (update slot).1.removed = slot.removed)
  | register (id : String) (name : Option String) (container : Option Container) (now : Int64)
  | retire (id : String) (now : Int64)
  | collect (now retention : Int64)
  | flagSilent (now timeout : Int64)
  | restore (nodes : List Node)

def apply (registry : Registry) : Operation → Registry
  | .upsert id name now update _ _ => (registry.upsert id name now update).1
  | .register id name container now => (registry.register id name container now).1
  | .retire id now => ((registry.retire? id now).map (·.1)).getD registry
  | .collect now retention => (registry.collect now retention).1
  | .flagSilent now timeout => (registry.flagSilent now timeout).1
  | .restore nodes => (registry.restore nodes).1

def bounds (registry : Registry) : Window.Limits × Option Nat :=
  (registry.limits, registry.capacity)

def run (registry : Registry) (operations : List Operation) : Registry :=
  operations.foldl apply registry

/-- The records of slots in the order of their ids, however the slots are ordered. -/
def listing (slots : List Slot) : List Node :=
  ((slots.filter fun slot => !slot.removed).map (·.node)).mergeSort
    fun left right => left.id ≤ right.id

/-- The ids of the nodes that expired, in the order in which the slots are visited. -/
def expiredAmong (now retention : Int64) (slots : List (String × Slot)) : List String :=
  (slots.filter fun entry => entry.2.node.isExpired now retention).map (·.1)

/-- How the flags change when slots are visited in any order; the ids are sorted at the end. -/
def silenceOf (now timeout : Int64) (slots : List Slot) : Silence :=
  let nodes := (slots.filter fun slot => !slot.removed).map (·.node)
  let silent := fun (node : Node) => node.isSilent now timeout
  { newlyStale := ((nodes.filter fun node => silent node && !node.stale).map (·.id)).mergeSort
    recovered := ((nodes.filter fun node => !silent node && node.stale).map (·.id)).mergeSort
    staleTotal := (nodes.filter silent).length }

namespace Sound

variable {registry : Registry} (sound : registry.Sound)

include sound

theorem seat_id (id : String) (name : Option String) (now : Int64) :
    (registry.seat id name now).node.id = id := by
  rw [seat]
  cases found : registry.slots.get? id with
  | none => rfl
  | some slot => exact sound.keyed id slot found

theorem seat_live (id : String) (name : Option String) (now : Int64) :
    (registry.seat id name now).removed = false := by
  rw [seat]
  cases found : registry.slots.get? id with
  | none => rfl
  | some slot => exact sound.live id slot found

/-- An update keeps a registry sound, whether it succeeds or fails. -/
theorem upsert {ε τ : Type} (id : String) (name : Option String) (now : Int64)
    (update : Slot → Slot × Except ε τ)
    (keepsId : ∀ slot, (update slot).1.node.id = slot.node.id)
    (keepsMark : ∀ slot, (update slot).1.removed = slot.removed) :
    (registry.upsert id name now update).1.Sound := by
  cases room : registry.admits id with
  | false =>
    rw [sound.upsert_full room]
    exact sound
  | true =>
    have keptId := keepsId (registry.seat id name now)
    have keptMark := keepsMark (registry.seat id name now)
    rw [sound.seat_id] at keptId
    rw [sound.seat_live] at keptMark
    rcases outcome : update (registry.seat id name now) with ⟨changed, cause | value⟩
    · rw [outcome] at keptId keptMark
      rw [sound.upsert_error room outcome]
      dsimp only
      split
      · exact sound
      · exact sound.store keptMark keptId (admits_iff.mp room)
    · rw [outcome] at keptId keptMark
      rw [sound.upsert_ok room outcome]
      exact sound.store keptMark keptId (admits_iff.mp room)

theorem register (id : String) (name : Option String) (container : Option Container)
    (now : Int64) : (registry.register id name container now).1.Sound := by
  have kept := sound.upsert (ε := Empty) id name now
    (fun slot => ({ slot with node := slot.node.described name container },
      .ok (slot.node.described name container))) (fun _ => rfl) (fun _ => rfl)
  rw [Registry.register]
  split <;> rename_i outcome <;> rw [outcome] at kept <;> exact kept

theorem bounds_upsert {ε τ : Type} (id : String) (name : Option String) (now : Int64)
    (update : Slot → Slot × Except ε τ) :
    (registry.upsert id name now update).1.bounds = registry.bounds := by
  cases room : registry.admits id with
  | false => rw [sound.upsert_full room]
  | true =>
    rcases outcome : update (registry.seat id name now) with ⟨changed, cause | value⟩
    · rw [sound.upsert_error room outcome]
      dsimp only
      split <;> rfl
    · rw [sound.upsert_ok room outcome]
      rfl

theorem bounds_register (id : String) (name : Option String) (container : Option Container)
    (now : Int64) : (registry.register id name container now).1.bounds = registry.bounds := by
  have kept := sound.bounds_upsert (ε := Empty) id name now
    (fun slot => ({ slot with node := slot.node.described name container },
      .ok (slot.node.described name container)))
  rw [Registry.register]
  split <;> rename_i outcome <;> rw [outcome] at kept <;> exact kept

/-- A change of one slot that keeps its id and its mark keeps a registry sound. -/
theorem modify? {τ : Type} (id : String) (change : Slot → Slot × τ)
    (keepsId : ∀ slot, (change slot).1.node.id = slot.node.id)
    (keepsMark : ∀ slot, (change slot).1.removed = slot.removed) {after : Registry} {value : τ}
    (done : registry.modify? id change = some (after, value)) : after.Sound := by
  cases found : registry.slots.get? id with
  | none =>
    rw [sound.modify?_absent found] at done
    cases done
  | some slot =>
    rw [sound.modify?_tracked found] at done
    cases done
    exact sound.replace found (keepsMark slot) (keepsId slot)

theorem retire? (id : String) (now : Int64) {after : Registry} {retirement : Retirement}
    (done : registry.retire? id now = some (after, retirement)) : after.Sound := by
  refine sound.modify? id _ (fun slot => ?_) (fun slot => ?_) done <;> dsimp only <;> split <;> rfl

omit sound in
theorem bounds_modify? {τ : Type} (id : String) (change : Slot → Slot × τ) {after : Registry}
    {value : τ} (done : registry.modify? id change = some (after, value)) :
    after.bounds = registry.bounds := by
  rw [Registry.modify?, Option.map_eq_some_iff] at done
  obtain ⟨slot, _, rfl, rfl⟩ := done
  rfl

omit sound in
theorem bounds_restore (nodes : List Node) :
    ∀ {registry : Registry}, registry.Sound → (registry.restore nodes).1.bounds = registry.bounds := by
  induction nodes with
  | nil => exact fun _ => rfl
  | cons node rest ih =>
    intro registry sound
    refine (ih (sound.restoreOne node)).trans ?_
    rw [sound.restoreOne_eq]
    split <;> rfl

/-- Every operation keeps a registry sound. -/
theorem apply (operation : Operation) : (registry.apply operation).Sound := by
  cases operation with
  | upsert id name now update keepsId keepsMark =>
    exact sound.upsert id name now update keepsId keepsMark
  | register id name container now => exact sound.register id name container now
  | retire id now =>
    rw [Registry.apply]
    rcases done : registry.retire? id now with _ | ⟨after, retirement⟩
    · exact sound
    · exact sound.retire? id now done
  | collect now retention => exact sound.collect now retention
  | flagSilent now timeout => exact sound.flagSilent now timeout
  | restore nodes => exact sound.restore nodes

theorem bounds_apply (operation : Operation) :
    (registry.apply operation).bounds = registry.bounds := by
  cases operation with
  | upsert id name now update _ _ => exact sound.bounds_upsert id name now update
  | register id name container now => exact sound.bounds_register id name container now
  | retire id now =>
    rw [Registry.apply]
    rcases done : registry.retire? id now with _ | ⟨after, retirement⟩
    · rfl
    · exact bounds_modify? id _ done
  | collect now retention => rfl
  | flagSilent now timeout => rfl
  | restore nodes => exact bounds_restore nodes sound

omit sound in
theorem run (operations : List Operation) :
    ∀ {registry : Registry}, registry.Sound → (registry.run operations).Sound := by
  induction operations with
  | nil => exact id
  | cons operation rest ih => exact fun sound => ih (sound.apply operation)

omit sound in
theorem bounds_run (operations : List Operation) :
    ∀ {registry : Registry}, registry.Sound →
      (registry.run operations).bounds = registry.bounds := by
  induction operations with
  | nil => exact fun _ => rfl
  | cons operation rest ih =>
    exact fun sound => (ih (sound.apply operation)).trans (sound.bounds_apply operation)

/-! ## The listing -/

theorem map_id_nodes : registry.nodes.map (·.id) = registry.slots.keys := by
  rw [sound.nodes_eq, Dictionary.values, Dictionary.keys, List.map_map, List.map_map]
  refine List.map_congr_left fun ⟨id, slot⟩ member => ?_
  exact sound.keyed id slot (Dictionary.mem_entries.mp member)

/-- The listing increases strictly in the ids. -/
theorem nodes_sorted : registry.nodes.Pairwise fun left right => left.id < right.id := by
  have keysSorted := registry.slots.keys_sorted
  rw [← sound.map_id_nodes] at keysSorted
  exact List.pairwise_map.mp keysSorted

theorem nodes_nodup : registry.nodes.Nodup :=
  sound.nodes_sorted.imp fun below same => (same ▸ below).false

theorem mem_nodes {node : Node} :
    node ∈ registry.nodes ↔ registry.get? node.id = some node := by
  rw [sound.nodes_eq, List.mem_map, sound.get?_eq_some_iff]
  constructor
  · rintro ⟨slot, member, rfl⟩
    obtain ⟨id, found⟩ := Dictionary.mem_values.mp member
    rw [sound.keyed id slot found]
    exact ⟨slot, found, rfl⟩
  · rintro ⟨slot, found, rfl⟩
    exact ⟨slot, Dictionary.mem_values.mpr ⟨_, found⟩, rfl⟩

theorem slot_of_mem_nodes {node : Node} (member : node ∈ registry.nodes) :
    ∃ slot, registry.slots.get? node.id = some slot ∧ slot.node = node :=
  sound.get?_eq_some_iff.mp (sound.mem_nodes.mp member)

theorem get?_id {id : String} {node : Node} (found : registry.get? id = some node) :
    node.id = id := by
  obtain ⟨slot, tracked, rfl⟩ := sound.get?_eq_some_iff.mp found
  exact sound.keyed id slot tracked

theorem contains_iff_get? {id : String} :
    registry.contains id = true ↔ ∃ node, registry.get? id = some node := by
  rw [Registry.contains, Dictionary.contains_iff, sound.get?_eq]
  simp only [Option.map_eq_some_iff]
  constructor
  · rintro ⟨slot, found⟩
    exact ⟨slot.node, slot, found, rfl⟩
  · rintro ⟨_, slot, found, _⟩
    exact ⟨slot, found⟩

theorem length_nodes : registry.nodes.length = registry.count := by
  rw [sound.nodes_eq, sound.counted, Dictionary.values, List.length_map, List.length_map]
  rfl

/-- Sorting restores the order of the ids from any order of the slots. -/
theorem listing_perm {slots : List Slot} (order : slots.Perm registry.slots.values) :
    listing slots = registry.nodes := by
  have sameNodes : ((slots.filter fun slot => !slot.removed).map (·.node)).Perm registry.nodes :=
    (order.filter _).map _
  have increasing : registry.nodes.Pairwise fun left right => decide (left.id ≤ right.id) :=
    sound.nodes_sorted.imp fun below => decide_eq_true below.le
  have sortedListing : (listing slots).Pairwise fun left right => decide (left.id ≤ right.id) :=
    List.pairwise_mergeSort
      (fun _ _ _ first second => decide_eq_true ((of_decide_eq_true first).trans
        (of_decide_eq_true second)))
      (fun left right => by simpa using le_total left.id right.id) _
  refine ((List.mergeSort_perm _ _).trans sameNodes).eq_of_pairwise ?_ sortedListing increasing
  intro left right leftMember rightMember below above
  have sameId : left.id = right.id :=
    le_antisymm (of_decide_eq_true below) (of_decide_eq_true above)
  have leftFound := sound.mem_nodes.mp
    (((List.mergeSort_perm _ _).trans sameNodes).mem_iff.mp leftMember)
  rw [sameId, sound.mem_nodes.mp rightMember] at leftFound
  exact (Option.some.inj leftFound).symm

/-! ## Sweeps over slots in any order -/

omit sound in
/-- In whatever order the slots are visited, the same nodes are collected. -/
theorem expiredAmong_perm (now retention : Int64) {slots : List (String × Slot)}
    (order : slots.Perm registry.slots.entries) :
    (expiredAmong now retention slots).Perm (registry.collect now retention).2 :=
  (order.filter _).map _

omit sound in
/-- Ids that increase in one order are sorted into it from any other. -/
theorem mergeSort_of_perm {scanned ids : List String} (order : scanned.Perm ids)
    (increasing : ids.Pairwise (· < ·)) : scanned.mergeSort = ids := by
  have sorted : scanned.mergeSort.Pairwise (· ≤ ·) := by
    have decided : scanned.mergeSort.Pairwise fun left right => decide (left ≤ right) = true := by
      apply List.pairwise_mergeSort
      · intro first second third below above
        exact decide_eq_true ((of_decide_eq_true below).trans (of_decide_eq_true above))
      · intro left right
        simpa using le_total left right
    exact decided.imp of_decide_eq_true
  exact ((List.mergeSort_perm _ _).trans order).eq_of_pairwise (fun _ _ _ _ => le_antisymm)
    sorted (increasing.imp le_of_lt)

/-- In whatever order the slots are visited, setting the flags reports the same. -/
theorem silenceOf_perm (now timeout : Int64) {slots : List Slot}
    (order : slots.Perm registry.slots.values) :
    silenceOf now timeout slots = (registry.flagSilent now timeout).2 := by
  have sameNodes : ((slots.filter fun slot => !slot.removed).map (·.node)).Perm registry.nodes :=
    (order.filter _).map _
  have listed (p : Node → Bool) :
      ((((slots.filter fun slot => !slot.removed).map (·.node)).filter p).map (·.id)).mergeSort =
        (registry.nodes.filter p).map (·.id) := by
    refine mergeSort_of_perm ((sameNodes.filter p).map _) (List.pairwise_map.mpr ?_)
    exact sound.nodes_sorted.filter p
  rw [silenceOf, Registry.flagSilent, listed, listed, (sameNodes.filter _).length_eq]

end Sound

/-- Whatever happens to a registry that starts without nodes, its places are as many as its
tracked nodes and fit the capacity, every slot is in use under the id of its record, and the
listing holds exactly the records of the tracked nodes, in strictly increasing order, whatever
the order of the table. -/
theorem run_representation (limits : Window.Limits) (capacity : Option Nat)
    (operations : List Operation) :
    let registry := (empty limits capacity).run operations
    registry.count = registry.slots.keys.length ∧
    (∀ bound, capacity = some bound → registry.count ≤ bound) ∧
    (∀ id, registry.contains id = true → ∃ slot, registry.slots.get? id = some slot ∧
      slot.removed = false ∧ slot.node.id = id ∧ registry.get? id = some slot.node) ∧
    registry.nodes.Pairwise (fun left right => left.id < right.id) ∧
    (∀ node, node ∈ registry.nodes ↔
      ∃ id, registry.contains id = true ∧ registry.get? id = some node) ∧
    (∀ slots, slots.Perm registry.slots.values → listing slots = registry.nodes) := by
  intro registry
  have start := sound_empty limits capacity
  have sound : registry.Sound := Sound.run operations start
  have fixed : registry.capacity = capacity := congrArg Prod.snd (Sound.bounds_run operations start)
  refine ⟨?_, ?_, ?_, sound.nodes_sorted, ?_, fun slots => sound.listing_perm⟩
  · rw [sound.counted, Dictionary.keys, List.length_map]
    rfl
  · intro bound bounded
    exact sound.bounded bound (fixed.trans bounded)
  · intro id tracked
    obtain ⟨slot, found⟩ := Dictionary.contains_iff.mp tracked
    exact ⟨slot, found, sound.live id slot found, sound.keyed id slot found,
      sound.get?_tracked found⟩
  · intro node
    rw [sound.mem_nodes]
    constructor
    · exact fun found => ⟨node.id, sound.contains_iff_get?.mpr ⟨node, found⟩, found⟩
    · rintro ⟨id, _, found⟩
      rwa [sound.get?_id found]

end Headroom.Registry
