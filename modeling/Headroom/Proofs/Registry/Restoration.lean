import Headroom.Proofs.Registry.Runs

/-!
# What a restore takes over

Records are taken over one after another, and each may replace a slot, take a place or be passed
over.  The result does not need this order: the ids that are new to the registry get its free
places as they first occur, every record of a tracked node replaces the one before, and all
others have no effect.  So nothing is left to do for a second restore of the same records.
-/

namespace Headroom.Registry

def lacks (registry : Registry) (id : String) : Bool := !id.isEmpty && !registry.contains id

/-- The ids that records would bring into a registry, in the order in which they first occur. -/
def newcomers (registry : Registry) (nodes : List Node) : List String :=
  ((nodes.map (·.id)).filter registry.lacks).eraseDups

def admitted (registry : Registry) (nodes : List Node) : List String :=
  match registry.capacity with
  | some capacity => (registry.newcomers nodes).take (capacity - registry.count)
  | none => registry.newcomers nodes

variable {registry : Registry} {node : Node} {rest : List Node} {slot : Slot}

theorem contains_store (id other : String) :
    (registry.store id slot).contains other = (other == id || registry.contains other) := by
  rw [contains, Dictionary.contains, lookup_store]
  by_cases own : other = id
  · simp [own]
  · simp [own, contains, Dictionary.contains]

theorem isFull_store (full : registry.isFull = true) (id : String) (slot : Slot) :
    (registry.store id slot).isFull = true := by
  obtain ⟨capacity, bounded, reached⟩ := isFull_iff.mp full
  refine isFull_iff.mpr ⟨capacity, bounded, reached.trans ?_⟩
  rw [store]
  split
  · exact le_rfl
  · exact Nat.le_succ _

/-! ## The newcomers, record by record -/

/-- A record without an id or of a tracked node brings no newcomer. -/
theorem newcomers_cons_known (known : node.id.isEmpty = true ∨ registry.contains node.id = true) :
    registry.newcomers (node :: rest) = registry.newcomers rest := by
  have notNew : ¬ registry.lacks node.id = true := by
    simpa [lacks, or_iff_not_imp_left] using known
  rw [newcomers, List.map_cons, List.filter_cons_of_neg notNew]
  rfl

/-- The first record of a newcomer brings it, and the later ones do not. -/
theorem newcomers_cons_new (slot : Slot) (named : node.id.isEmpty = false)
    (absent : registry.contains node.id = false) :
    registry.newcomers (node :: rest) =
      node.id :: (registry.store node.id slot).newcomers rest := by
  have isNew : registry.lacks node.id = true := by
    rw [lacks, named, absent]
    rfl
  have others : (registry.store node.id slot).lacks =
      fun id => !id == node.id && registry.lacks id := by
    funext id
    rw [lacks, lacks, contains_store, Bool.not_or, Bool.and_left_comm]
  rw [newcomers, List.map_cons, List.filter_cons_of_pos isNew, List.eraseDups_cons,
    List.filter_filter, newcomers, others]

/-- To store a tracked node again makes no difference to the newcomers. -/
theorem newcomers_store_tracked (tracked : registry.contains node.id = true) :
    (registry.store node.id slot).newcomers rest = registry.newcomers rest := by
  have same : (registry.store node.id slot).lacks = registry.lacks := by
    funext id
    rw [lacks, lacks, contains_store]
    by_cases own : id = node.id
    · rw [own, tracked, Bool.or_true]
    · rw [beq_false_of_ne own, Bool.false_or]
  rw [newcomers, same, newcomers]

theorem admitted_cons_known (known : node.id.isEmpty = true ∨ registry.contains node.id = true) :
    registry.admitted (node :: rest) = registry.admitted rest := by
  rw [admitted, admitted, newcomers_cons_known known]

theorem admitted_of_full (full : registry.isFull = true) (nodes : List Node) :
    registry.admitted nodes = [] := by
  obtain ⟨capacity, bounded, reached⟩ := isFull_iff.mp full
  rw [admitted, bounded]
  simp only [Nat.sub_eq_zero_of_le reached, List.take_zero]

/-- A newcomer takes one place of those that are free. -/
theorem admitted_cons_new (slot : Slot) (named : node.id.isEmpty = false)
    (absent : registry.contains node.id = false) (room : registry.isFull = false) :
    registry.admitted (node :: rest) =
      node.id :: (registry.store node.id slot).admitted rest := by
  rw [admitted, admitted, newcomers_cons_new slot named absent]
  cases bounded : registry.capacity with
  | none => simp only [store, bounded]
  | some capacity =>
    have free := count_le_of_not_full room bounded
    have places : capacity - registry.count = capacity - (registry.count + 1) + 1 := by omega
    simp only [store, bounded, absent, places, List.take_succ_cons]
    rfl

theorem admitted_store_tracked (tracked : registry.contains node.id = true) :
    (registry.store node.id slot).admitted rest = registry.admitted rest := by
  rw [admitted, newcomers_store_tracked tracked, admitted]
  simp only [store, tracked, if_pos]

/-- A registry is its bounds, its table and its places. -/
theorem eq_of_bounds {other : Registry} (bounds : registry.bounds = other.bounds)
    (slots : registry.slots = other.slots) (count : registry.count = other.count) :
    registry = other := by
  obtain ⟨limits, capacity, table, places⟩ := registry
  obtain ⟨otherLimits, otherCapacity, otherTable, otherPlaces⟩ := other
  obtain ⟨rfl, rfl⟩ := Prod.ext_iff.mp bounds
  cases slots
  cases count
  rfl

namespace Sound

/-! ## Who is tracked -/

/-- One record moves its id from the newcomers to the tracked ones, or nothing. -/
theorem joins_restoreOne (sound : registry.Sound) (id : String) :
    ((registry.restoreOne node).1.contains id = true ∨
        id ∈ (registry.restoreOne node).1.admitted rest) ↔
      (registry.contains id = true ∨ id ∈ registry.admitted (node :: rest)) := by
  rw [sound.restoreOne_eq]
  cases empty : node.id.isEmpty with
  | true => rw [if_neg (by simp), admitted_cons_known (.inl empty)]
  | false =>
    cases tracked : registry.contains node.id with
    | true =>
      have taken : registry.admits node.id = true := admits_iff.mpr (.inl tracked)
      rw [if_pos ⟨rfl, taken⟩, admitted_store_tracked tracked, admitted_cons_known (.inr tracked),
        contains_store, Bool.or_eq_true, beq_iff_eq]
      have known : id = node.id → registry.contains id = true := fun own => own ▸ tracked
      tauto
    | false =>
      cases full : registry.isFull with
      | true =>
        have passedOver : registry.admits node.id = false := by
          rw [admits, tracked, full]
          rfl
        rw [if_neg (by simp [passedOver]), admitted_of_full full, admitted_of_full full]
      | false =>
        have taken : registry.admits node.id = true := admits_iff.mpr (.inr full)
        rw [if_pos ⟨rfl, taken⟩, admitted_cons_new (.fresh node) empty tracked full,
          List.mem_cons, contains_store, Bool.or_eq_true, beq_iff_eq]
        tauto

/-- After a restore, what was tracked is tracked, and so are the newcomers that found a place. -/
theorem contains_restore (nodes : List Node) :
    ∀ {registry : Registry}, registry.Sound → ∀ id : String,
      ((registry.restore nodes).1.contains id = true ↔
        registry.contains id = true ∨ id ∈ registry.admitted nodes) := by
  induction nodes with
  | nil =>
    intro registry _ id
    have none : registry.admitted [] = [] := by
      rw [admitted]
      split <;> simp [newcomers]
    rw [none, Registry.restore, List.mem_nil_iff, or_false]
  | cons node rest ih =>
    intro registry sound id
    exact (ih (sound.restoreOne node) id).trans (sound.joins_restoreOne id)

/-- A tracked node is not lost in a restore. -/
theorem contains_restore_of_tracked (sound : registry.Sound) (nodes : List Node) {id : String}
    (tracked : registry.contains id = true) : (registry.restore nodes).1.contains id = true :=
  (contains_restore nodes sound id).mpr (.inl tracked)

/-- A full registry takes over no new node. -/
theorem contains_restore_of_full (sound : registry.Sound) (full : registry.isFull = true)
    (nodes : List Node) (id : String) :
    (registry.restore nodes).1.contains id = registry.contains id := by
  rw [Bool.eq_iff_iff, contains_restore nodes sound, admitted_of_full full, List.mem_nil_iff,
    or_false]

/-! ## How many records are taken -/

/-- A record counts as taken exactly if it has an id and its node is tracked in the end. -/
theorem taken_eq (sound : registry.Sound) (node : Node) (rest : List Node) :
    (registry.restoreOne node).2 =
      (!node.id.isEmpty && ((registry.restoreOne node).1.restore rest).1.contains node.id) := by
  have after := sound.restoreOne node
  rw [sound.restoreOne_eq] at after ⊢
  split at after
  case isTrue taken =>
    have stored : (registry.store node.id (.fresh node)).contains node.id = true := by
      rw [contains_store, BEq.rfl, Bool.true_or]
    rw [if_pos taken, after.contains_restore_of_tracked rest stored, taken.1]
    rfl
  case isFalse passedOver =>
    rw [if_neg passedOver]
    cases empty : node.id.isEmpty with
    | true => rfl
    | false =>
      have refused : registry.admits node.id = false := by simpa [empty] using passedOver
      obtain ⟨absent, full⟩ := admits_eq_false.mp refused
      rw [sound.contains_restore_of_full full, contains_eq_false absent]
      rfl

/-- The count of a restore is that of the records whose nodes are tracked afterwards. -/
theorem taken_restore (nodes : List Node) :
    ∀ {registry : Registry}, registry.Sound →
      (registry.restore nodes).2 = nodes.countP fun node =>
        !node.id.isEmpty && (registry.restore nodes).1.contains node.id := by
  induction nodes with
  | nil => exact fun _ => rfl
  | cons node rest ih =>
    intro registry sound
    rw [List.countP_cons, Registry.restore]
    simp only [← sound.taken_eq node rest, ih (sound.restoreOne node)]
    split <;> rfl

/-! ## What is tracked -/

/-- A node under no id keeps its slot: a record without an id is passed over. -/
theorem lookup_restore_unnamed (sound : registry.Sound) (nodes : List Node) {id : String}
    (empty : id.isEmpty = true) :
    (registry.restore nodes).1.slots.get? id = registry.slots.get? id := by
  cases found : (registry.restore nodes).1.slots.get? id with
  | some slot =>
    rcases lookup_restore nodes sound found with same | ⟨_, _, _, named, _⟩
    · exact same.symm
    · rw [empty] at named
      cases named
  | none =>
    refine (Dictionary.contains_eq_false.mp ?_).symm
    rw [← Bool.not_eq_true]
    intro tracked
    exact absurd (sound.contains_restore_of_tracked nodes tracked)
      (by rw [contains_eq_false found]; exact Bool.false_ne_true)

/-! ## Restoring again -/

theorem isFull_restoreOne (sound : registry.Sound) (full : registry.isFull = true) (node : Node) :
    (registry.restoreOne node).1.isFull = true := by
  rw [sound.restoreOne_eq]
  split
  · exact isFull_store full _ _
  · exact full

theorem isFull_restore (nodes : List Node) :
    ∀ {registry : Registry}, registry.Sound → registry.isFull = true →
      (registry.restore nodes).1.isFull = true := by
  induction nodes with
  | nil => exact fun _ full => full
  | cons node rest ih =>
    exact fun sound full => ih (sound.restoreOne node) (sound.isFull_restoreOne full node)

/-- A restore passes over the record of a new node only because the registry is full. -/
theorem isFull_of_passedOver (nodes : List Node) :
    ∀ {registry : Registry}, registry.Sound → ∀ node ∈ nodes, node.id.isEmpty = false →
      (registry.restore nodes).1.contains node.id = false →
        (registry.restore nodes).1.isFull = true := by
  induction nodes with
  | nil => exact fun _ _ member => absurd member List.not_mem_nil
  | cons first rest ih =>
    intro registry sound node member named absent
    rcases List.mem_cons.mp member with rfl | later
    · have passedOver : (registry.restoreOne node).2 = false := by
        rw [Registry.restore] at absent
        rw [sound.taken_eq node rest, absent, Bool.and_false]
      have noPlace : registry.admits node.id = false := by
        simpa [sound.restoreOne_eq, named, apply_ite Prod.snd] using passedOver
      exact isFull_restore rest (sound.restoreOne node)
        (sound.isFull_restoreOne (admits_eq_false.mp noPlace).2 node)
    · exact ih (sound.restoreOne first) node later named absent

/-- After a restore, the same records bring no newcomer that finds a place. -/
theorem contains_restore_again (sound : registry.Sound) (nodes : List Node) (id : String) :
    ((registry.restore nodes).1.restore nodes).1.contains id =
      (registry.restore nodes).1.contains id := by
  have after := restore nodes sound
  cases tracked : (registry.restore nodes).1.contains id with
  | true => exact after.contains_restore_of_tracked nodes tracked
  | false =>
    rw [← Bool.not_eq_true, Registry.contains, Dictionary.contains_iff]
    rintro ⟨slot, found⟩
    rcases lookup_restore nodes after found with earlier | ⟨node, member, rfl, named, _⟩
    · rw [contains_eq_true earlier] at tracked
      cases tracked
    · have full := isFull_of_passedOver nodes sound node member named tracked
      have same := after.contains_restore_of_full full nodes node.id
      rw [contains_eq_true found, tracked] at same
      cases same

/-- Restoring the same records again changes nothing. -/
theorem lookup_restore_again (sound : registry.Sound) (nodes : List Node) (id : String) :
    ((registry.restore nodes).1.restore nodes).1.slots.get? id =
      (registry.restore nodes).1.slots.get? id := by
  have after := restore nodes sound
  have sameIds := sound.contains_restore_again nodes id
  cases named : id.isEmpty with
  | true => exact after.lookup_restore_unnamed nodes named
  | false =>
    cases again : ((registry.restore nodes).1.restore nodes).1.slots.get? id with
    | none =>
      rw [contains_eq_false again] at sameIds
      exact (Dictionary.contains_eq_false.mp sameIds.symm).symm
    | some slot =>
      rw [contains_eq_true again] at sameIds
      obtain ⟨before, once⟩ := Dictionary.contains_iff.mp sameIds.symm
      have last := lookup_restore_last nodes after named again
      have lastBefore := lookup_restore_last nodes sound named once
      cases record : (nodes.filter fun node => node.id = id).getLast? with
      | some node =>
        rw [record] at last lastBefore
        rw [once, last, lastBefore]
      | none =>
        rw [record] at last
        exact last.symm

/-- The second restore of the same records takes the same ones and changes nothing. -/
theorem restore_restore (sound : registry.Sound) (nodes : List Node) :
    (registry.restore nodes).1.restore nodes = registry.restore nodes := by
  have after := restore nodes sound
  have again := restore nodes after
  have fixed := bounds_restore nodes after
  have slots : ((registry.restore nodes).1.restore nodes).1.slots =
      (registry.restore nodes).1.slots :=
    Dictionary.ext_get? fun id => sound.lookup_restore_again nodes id
  apply Prod.ext
  · have count : ((registry.restore nodes).1.restore nodes).1.count =
        (registry.restore nodes).1.count := by
      rw [again.counted, after.counted, slots]
    exact eq_of_bounds fixed slots count
  · rw [taken_restore nodes after, taken_restore nodes sound]
    simp only [sound.contains_restore_again nodes]

end Sound

/-- Whatever state a registry is in, restoring records has this effect.  Tracked afterwards are
the nodes that were tracked and the first newcomers for which there were places.  Each of them
has the last of its records, with an empty window, or what it had where it has no record or no
id.  The number of records that were taken is the number of those whose node has an id and is
tracked afterwards.  To restore the same records again takes the same number and changes
nothing. -/
theorem run_restore (limits : Window.Limits) (capacity : Option Nat)
    (operations : List Operation) (nodes : List Node) :
    let registry := (empty limits capacity).run operations
    let after := (registry.restore nodes).1
    let number := (registry.restore nodes).2
    (∀ id, after.contains id = true ↔
      registry.contains id = true ∨ id ∈ registry.admitted nodes) ∧
    (∀ id, after.contains id = true →
      match (nodes.filter fun node => !id.isEmpty && node.id = id).getLast? with
      | some node => after.get? id = some node ∧ after.window? id = some .empty
      | none => after.get? id = registry.get? id ∧ after.window? id = registry.window? id) ∧
    number = nodes.countP (fun node => !node.id.isEmpty && after.contains node.id) ∧
    after.restore nodes = (after, number) := by
  intro registry after number
  have sound : registry.Sound := Sound.run operations (sound_empty limits capacity)
  have afterSound : after.Sound := Sound.restore nodes sound
  refine ⟨Sound.contains_restore nodes sound, ?_, Sound.taken_restore nodes sound,
    sound.restore_restore nodes⟩
  intro id tracked
  obtain ⟨slot, found⟩ := Dictionary.contains_iff.mp tracked
  rw [afterSound.get?_eq, afterSound.window?_eq, sound.get?_eq, sound.window?_eq]
  cases named : id.isEmpty with
  | true =>
    have same := sound.lookup_restore_unnamed nodes named
    simp only [Bool.not_true, Bool.false_and, List.filter_false, List.getLast?_nil]
    exact ⟨congrArg _ same, congrArg _ same⟩
  | false =>
    have last := Sound.lookup_restore_last nodes sound named found
    simp only [Bool.not_false, Bool.true_and]
    split <;> rename_i record <;> rw [record] at last
    · rw [found, last]
      exact ⟨rfl, rfl⟩
    · rw [found, last]
      exact ⟨rfl, rfl⟩

example : (empty ⟨1, 0⟩ (some 2)).admitted (["b", "", "a", "b", "c"].map (Node.fresh · none 0)) =
    ["b", "a"] := by decide +kernel

end Headroom.Registry
