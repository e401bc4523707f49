import Headroom.Proofs.Engine.Ledger
import Headroom.Proofs.Engine.Silence

/-!
# Nodes are independent

The nodes of an engine share its settings, its clock and its counters, and batches, restores
and sweeps touch many of them at once.  Where no capacity makes them compete for places, none
of this is visible to a single node: a run looks to it like the run that is left when only what
concerns the node is kept.  Two engines are compared step by step, one that takes every step
and one that takes those of the node; they agree on the slot of the node all the way.
-/

namespace Headroom

def Outcome.id : Outcome → String
  | .accepted receipt => receipt.id
  | .rejected id _ _ => id

namespace Registry

variable {registry : Registry}

theorem admits_of_unbounded (unbounded : registry.capacity = none) (id : String) :
    registry.admits id = true := by
  refine admits_iff.mpr (.inr ?_)
  rw [isFull, unbounded]

namespace Sound

variable (sound : registry.Sound) (unbounded : registry.capacity = none)

include sound unbounded

/-- Where there is always a place, a record with an id is taken over. -/
theorem slot_restoreOne (node : Node) (id : String) :
    (registry.restoreOne node).1.slots.get? id =
      if node.id.isEmpty = false ∧ node.id = id then some (.fresh node)
      else registry.slots.get? id := by
  rw [sound.restoreOne_eq, admits_of_unbounded unbounded]
  cases node.id.isEmpty with
  | true => simp
  | false => simp [lookup_store, eq_comm]

theorem capacity_restoreOne (node : Node) : (registry.restoreOne node).1.capacity = none := by
  rw [sound.restoreOne_eq]
  split <;> exact unbounded

end Sound

/-- The records of other nodes do not matter to a node when it is taken over. -/
theorem slot_restore {id : String} (nodes : List Node) :
    ∀ {left right : Registry}, left.Sound → right.Sound → left.capacity = none →
      right.capacity = none → left.slots.get? id = right.slots.get? id →
        (left.restore nodes).1.slots.get? id =
          (right.restore (nodes.filter fun node => node.id = id)).1.slots.get? id := by
  induction nodes with
  | nil => exact fun _ _ _ _ same => same
  | cons node rest ih =>
    intro left right soundLeft soundRight openLeft openRight same
    have soundAfter := soundLeft.restoreOne node
    have openAfter := soundLeft.capacity_restoreOne openLeft node
    by_cases own : node.id = id
    · have taken : (left.restoreOne node).1.slots.get? id =
          (right.restoreOne node).1.slots.get? id := by
        rw [soundLeft.slot_restoreOne openLeft, soundRight.slot_restoreOne openRight, same]
      rw [List.filter_cons_of_pos (by simpa using own)]
      exact ih soundAfter (soundRight.restoreOne node) openAfter
        (soundRight.capacity_restoreOne openRight node) taken
    · have kept : (left.restoreOne node).1.slots.get? id = right.slots.get? id := by
        rw [soundLeft.slot_restoreOne openLeft, if_neg fun taken => own taken.2, same]
      rw [List.filter_cons_of_neg (by simpa using own)]
      exact ih soundAfter soundRight openAfter openRight kept

end Registry

namespace Engine

/-! ## What concerns a node -/

/-- The node that an operation is addressed to.  The transitions of a node are read from the
history, which the nodes share. -/
def Operation.addressee : Operation → Option String
  | submit reading => some reading.id
  | register request => some request.id
  | decommission id | recompute id | get id => some id
  | _ => none

/-- What an operation has to do with a node. -/
def Operation.about (id : String) : Operation → Option Operation
  | sweep => some sweep
  | restore stored =>
    some (restore { stored with nodes := stored.nodes.filter fun node => node.id = id })
  | operation => if operation.addressee = some id then some operation else none

def Step.about (id : String) : Step → Option Step
  | single now operation => (operation.about id).map (single now)
  | batch readings => some (batch (readings.filter fun timed => timed.2.id = id))

/-- What a response says about a node. -/
inductive Reply where
  | answered (answer : Answer)
  | submitted (outcomes : List Outcome)
  | swept (collected newlyStale : Bool)

/-- What the response to a step says about a node.  Of a sweep it is whether the node was
collected and whether it was found silent. -/
def Step.replies (id : String) : Step → Response → List Reply
  | batch _, .batch outcomes => [.submitted (outcomes.filter fun outcome => outcome.id = id)]
  | single _ .sweep, .single (.swept report) =>
    [.swept (decide (id ∈ report.collected)) (decide (id ∈ report.newlyStale))]
  | single _ operation, .single answer =>
    if operation.addressee = some id then [.answered answer] else []
  | _, _ => []

def replies (engine : Engine) (id : String) : List Step → List Reply
  | [] => []
  | step :: rest =>
    step.replies id (engine.execute step).2 ++ (engine.execute step).1.replies id rest

/-- An operation that has nothing to do with a node. -/
structure Operation.Elsewhere (id : String) (operation : Operation) : Prop where
  apart : operation.addressee ≠ some id
  unswept : operation ≠ .sweep
  unrestored : ∀ snapshot, operation ≠ .restore snapshot

/-- An operation is about a node because it is addressed to it, or because it touches all nodes
that are tracked or recorded.  Everything else is passed over. -/
inductive Concern (id : String) : Operation → Option Operation → Prop where
  | addressed {operation : Operation} (own : operation.addressee = some id) :
      Concern id operation (some operation)
  | swept : Concern id .sweep (some .sweep)
  | restored (snapshot : Snapshot) :
      Concern id (.restore snapshot) (some (.restore { snapshot with
        nodes := snapshot.nodes.filter fun node => node.id = id }))
  | other {operation : Operation} (elsewhere : operation.Elsewhere id) :
      Concern id operation none

/-- Every operation is about a node in one of the ways of `Concern`. -/
theorem concern_about (id : String) (operation : Operation) :
    Concern id operation (operation.about id) := by
  cases operation with
  | sweep => exact .swept
  | restore snapshot => exact .restored snapshot
  | _ =>
    simp only [Operation.about]
    split
    · rename_i own
      exact .addressed own
    · rename_i apart
      exact .other ⟨apart, nofun, nofun⟩

theorem Step.replies_addressed {id : String} {now : Int64} {operation : Operation}
    {answer : Answer} (own : operation.addressee = some id) :
    (single now operation).replies id (.single answer) = [.answered answer] := by
  cases operation <;> exact if_pos own

theorem Step.replies_other {id : String} {now : Int64} {operation : Operation} {answer : Answer}
    (apart : operation.addressee ≠ some id) (unswept : operation ≠ .sweep) :
    (single now operation).replies id (.single answer) = [] := by
  cases operation with
  | sweep => exact absurd rfl unswept
  | _ => simp only [replies, if_neg apart]

theorem outcome_id {engine : Engine} (sound : engine.registry.Sound) (now : Int64)
    (reading : Reading Float) :
    (outcome reading.id (engine.submit now reading).2).id = reading.id := by
  cases refused : engine.refusal? now reading with
  | some refusal =>
    rw [submit_refused sound refused]
    rfl
  | none =>
    rw [submit_accepted sound refused]
    rfl

/-! ## Engines that agree on a node -/

/-- Two engines without a capacity that have the same settings and the same slot of a node. -/
structure Agree (id : String) (left right : Engine) : Prop where
  soundLeft : left.Sound
  soundRight : right.Sound
  settings : left.settings = right.settings
  uncapped : right.settings.registry.capacity = none
  slot : left.registry.slots.get? id = right.registry.slots.get? id

theorem Sound.unbounded {engine : Engine} (sound : engine.Sound)
    (uncapped : engine.settings.registry.capacity = none) : engine.registry.capacity = none := by
  have capacity := congrArg Prod.snd sound.bounds
  rwa [uncapped] at capacity

/-- An operation that has nothing to do with a node leaves its slot alone. -/
theorem Sound.slot_elsewhere {engine : Engine} (sound : engine.Sound) {id : String}
    {operation : Operation} (elsewhere : operation.Elsewhere id) (now : Int64) :
    (engine.act ⟨now, operation⟩).registry.slots.get? id = engine.registry.slots.get? id := by
  have stored {name : String} (slot : Slot) (named : operation.addressee = some name) :
      (engine.registry.store name slot).slots.get? id = engine.registry.slots.get? id := by
    rw [Registry.lookup_store, if_neg]
    rintro rfl
    exact elsewhere.apart named
  have effect := (effect_act sound.registry ⟨now, operation⟩).2
  generalize (engine.act ⟨now, operation⟩).registry = registry at effect ⊢
  generalize (engine.act ⟨now, operation⟩).history = history at effect
  cases effect with
  | nothing => rfl
  | observed => exact stored _ rfl
  | described => exact stored _ rfl
  | retired => exact stored _ rfl
  | rescored => exact stored _ rfl
  | swept => exact absurd rfl elsewhere.unswept
  | restored => exact absurd rfl (elsewhere.unrestored _)

namespace Agree

variable {id : String} {left right : Engine}

theorem refl {engine : Engine} (sound : engine.Sound)
    (uncapped : engine.settings.registry.capacity = none) : Agree id engine engine :=
  ⟨sound, sound, rfl, uncapped, rfl⟩

/-- What two engines store for a node is what they have of it. -/
theorem slot_store (slot : Slot) :
    (left.registry.store id slot).slots.get? id = (right.registry.store id slot).slots.get? id := by
  rw [Registry.lookup_store, Registry.lookup_store, if_pos rfl, if_pos rfl]

variable (agree : Agree id left right)

include agree

theorem unboundedLeft : left.registry.capacity = none :=
  agree.soundLeft.unbounded (agree.settings ▸ agree.uncapped)

theorem unboundedRight : right.registry.capacity = none :=
  agree.soundRight.unbounded agree.uncapped

theorem limits : left.registry.limits = right.registry.limits := by
  rw [agree.soundLeft.limits, agree.soundRight.limits, agree.settings]

theorem get? : left.get? id = right.get? id := by
  rw [Engine.get?, Engine.get?, agree.soundLeft.registry.get?_eq, agree.soundRight.registry.get?_eq,
    agree.slot]

theorem contains : left.registry.contains id = right.registry.contains id := by
  rw [Registry.contains, Registry.contains, Dictionary.contains, Dictionary.contains, agree.slot]

theorem seat (name : Option String) (now : Int64) :
    left.registry.seat id name now = right.registry.seat id name now := by
  rw [Registry.seat, Registry.seat, agree.slot]

theorem refusal? {reading : Reading Float} (own : reading.id = id) (now : Int64) :
    left.refusal? now reading = right.refusal? now reading := by
  simp only [Engine.refusal?, Registry.admits_of_unbounded agree.unboundedLeft,
    Registry.admits_of_unbounded agree.unboundedRight, own, agree.get?, if_true]

theorem observed {reading : Reading Float} (own : reading.id = id) (now : Int64) :
    left.observed now reading = right.observed now reading := by
  rw [Engine.observed, Engine.observed, agree.settings, agree.limits, own, agree.seat]

theorem receiptFor {reading : Reading Float} (own : reading.id = id) (now : Int64) :
    left.receiptFor now reading = right.receiptFor now reading := by
  simp only [Engine.receiptFor, agree.observed own, agree.settings, standing, own, agree.get?,
    agree.contains]

theorem described {request : Registration} (own : request.id = id) (now : Int64) :
    left.described now request = right.described now request := by
  rw [Engine.described, Engine.described, own, agree.seat]

/-- A reading of the node is answered alike by two engines that agree on it. -/
theorem submit {reading : Reading Float} (own : reading.id = id) (now : Int64) :
    (left.submit now reading).2 = (right.submit now reading).2 ∧
      (left.submit now reading).1.registry.slots.get? id =
        (right.submit now reading).1.registry.slots.get? id := by
  have soundLeft := agree.soundLeft.registry
  have soundRight := agree.soundRight.registry
  have same := agree.refusal? own now
  cases refused : left.refusal? now reading with
  | some refusal =>
    rw [submit_refused soundLeft refused, submit_refused soundRight (same ▸ refused)]
    exact ⟨rfl, agree.slot⟩
  | none =>
    rw [submit_accepted soundLeft refused, submit_accepted soundRight (same ▸ refused)]
    refine ⟨congrArg Except.ok (agree.receiptFor own now), ?_⟩
    simp only [accepted, registry_noteAccepted, agree.observed own, own]
    exact slot_store _

theorem register {request : Registration} (own : request.id = id) (now : Int64) :
    (left.register now request).2 = (right.register now request).2 ∧
      (left.register now request).1.registry.slots.get? id =
        (right.register now request).1.registry.slots.get? id := by
  have soundLeft := agree.soundLeft.registry
  have soundRight := agree.soundRight.registry
  cases unnamed : request.id.isEmpty with
  | true =>
    rw [register_unnamed unnamed, register_unnamed unnamed]
    exact ⟨rfl, agree.slot⟩
  | false =>
    rw [register_admitted soundLeft unnamed (Registry.admits_of_unbounded agree.unboundedLeft _),
      register_admitted soundRight unnamed (Registry.admits_of_unbounded agree.unboundedRight _)]
    simp only [agree.described own, own, agree.contains, registry_log, true_and]
    exact slot_store _

theorem decommission (now : Int64) :
    (left.decommission now id).2 = (right.decommission now id).2 ∧
      (left.decommission now id).1.registry.slots.get? id =
        (right.decommission now id).1.registry.slots.get? id := by
  have soundLeft := agree.soundLeft.registry
  have soundRight := agree.soundRight.registry
  have same := agree.slot
  cases found : left.registry.slots.get? id with
  | none =>
    rw [decommission_absent soundLeft found, decommission_absent soundRight (same ▸ found)]
    exact ⟨rfl, same⟩
  | some slot =>
    by_cases gone : slot.node.category = .sundown
    · rw [decommission_again soundLeft found gone,
        decommission_again soundRight (same ▸ found) gone]
      exact ⟨rfl, same⟩
    · rw [decommission_active soundLeft found gone,
        decommission_active soundRight (same ▸ found) gone]
      exact ⟨rfl, slot_store _⟩

theorem recompute :
    (left.recompute id).2 = (right.recompute id).2 ∧
      (left.recompute id).1.registry.slots.get? id =
        (right.recompute id).1.registry.slots.get? id := by
  have soundLeft := agree.soundLeft.registry
  have soundRight := agree.soundRight.registry
  have same := agree.slot
  cases found : left.registry.slots.get? id with
  | none =>
    rw [recompute_absent soundLeft found, recompute_absent soundRight (same ▸ found)]
    exact ⟨rfl, same⟩
  | some slot =>
    rw [recompute_tracked soundLeft found, recompute_tracked soundRight (same ▸ found),
      agree.settings]
    exact ⟨rfl, slot_store _⟩

/-- An operation on the node answers the same on both engines and leaves the same of it. -/
theorem perform {operation : Operation} (own : operation.addressee = some id) (now : Int64) :
    (left.perform now operation).2 = (right.perform now operation).2 ∧
      (left.act ⟨now, operation⟩).registry.slots.get? id =
        (right.act ⟨now, operation⟩).registry.slots.get? id := by
  cases operation with
  | submit reading =>
    exact (agree.submit (Option.some.inj own) now).imp_left (congrArg Answer.submitted)
  | register request =>
    exact (agree.register (Option.some.inj own) now).imp_left (congrArg Answer.registered)
  | decommission other =>
    cases own
    exact (agree.decommission now).imp_left (congrArg Answer.decommissioned)
  | recompute other =>
    cases own
    exact agree.recompute.imp_left (congrArg Answer.recomputed)
  | get other =>
    cases own
    exact ⟨congrArg Answer.record agree.get?, agree.slot⟩
  | _ => cases own

/-! ### Steps that concern other nodes as well -/

/-- A sweep finds the same to do about the node on both engines. -/
theorem sweep (now : Int64) :
    (id ∈ (left.sweep now).2.collected ↔ id ∈ (right.sweep now).2.collected) ∧
      (id ∈ (left.sweep now).2.newlyStale ↔ id ∈ (right.sweep now).2.newlyStale) ∧
        (left.sweep now).1.registry.slots.get? id = (right.sweep now).1.registry.slots.get? id := by
  refine ⟨?_, ?_, ?_⟩
  · simp only [sweep_report, Registry.collect, Dictionary.mem_keys, Dictionary.get?_filter,
      agree.slot, agree.settings]
  · rw [mem_newlyStale agree.soundLeft.registry, mem_newlyStale agree.soundRight.registry,
      agree.get?, agree.settings]
  · rw [registry_sweep, registry_sweep, slot_swept agree.soundLeft.registry,
      slot_swept agree.soundRight.registry, agree.slot, agree.settings]

theorem restore (snapshot : Snapshot) :
    (left.restore snapshot).1.registry.slots.get? id =
      (right.restore { snapshot with
        nodes := snapshot.nodes.filter fun node => node.id = id }).1.registry.slots.get? id :=
  Registry.slot_restore snapshot.nodes agree.soundLeft.registry agree.soundRight.registry
    agree.unboundedLeft agree.unboundedRight agree.slot

/-! ### Whole runs -/

/-- Engines without a capacity go on agreeing on a node as long as its slots agree. -/
theorem act (action own : Action)
    (slot : (left.act action).registry.slots.get? id = (right.act own).registry.slots.get? id) :
    Agree id (left.act action) (right.act own) where
  soundLeft := agree.soundLeft.act action
  soundRight := agree.soundRight.act own
  settings := by
    rw [(effect_act agree.soundLeft.registry action).1,
      (effect_act agree.soundRight.registry own).1, agree.settings]
  uncapped := by
    rw [(effect_act agree.soundRight.registry own).1]
    exact agree.uncapped
  slot := slot

theorem act_other {operation : Operation} (elsewhere : operation.Elsewhere id) (now : Int64) :
    Agree id (left.act ⟨now, operation⟩) right where
  soundLeft := agree.soundLeft.act _
  soundRight := agree.soundRight
  settings := (effect_act agree.soundLeft.registry _).1.trans agree.settings
  uncapped := agree.uncapped
  slot := (agree.soundLeft.slot_elsewhere elsewhere now).trans agree.slot

/-- Of a batch the node needs its own readings only. -/
theorem submitEach (readings : List (Int64 × Reading Float)) :
    Agree id (left.submitEach readings).1
        (right.submitEach (readings.filter fun timed => timed.2.id = id)).1 ∧
      (left.submitEach readings).2.filter (fun outcome => outcome.id = id) =
        (right.submitEach (readings.filter fun timed => timed.2.id = id)).2.filter
          fun outcome => outcome.id = id := by
  induction readings generalizing left right with
  | nil => exact ⟨agree, rfl⟩
  | cons timed rest ih =>
    obtain ⟨now, reading⟩ := timed
    rw [submitEach_cons]
    by_cases own : reading.id = id
    · obtain ⟨answer, slot⟩ := agree.submit own now
      obtain ⟨after, outcomes⟩ :=
        ih (agree.act ⟨now, .submit reading⟩ ⟨now, .submit reading⟩ slot)
      rw [List.filter_cons_of_pos (by simpa using own), submitEach_cons, List.filter_cons,
        List.filter_cons, answer]
      refine ⟨after, ?_⟩
      split
      · exact congrArg _ outcomes
      · exact outcomes
    · have elsewhere : (Operation.submit reading).Elsewhere id :=
        ⟨fun same => own (Option.some.inj same), nofun, nofun⟩
      obtain ⟨after, outcomes⟩ := ih (agree.act_other elsewhere now)
      rw [List.filter_cons_of_neg (by simpa using own), List.filter_cons_of_neg]
      · exact ⟨after, outcomes⟩
      · rw [outcome_id agree.soundLeft.registry]
        simpa using own

/-- Both engines take a step, or the one that keeps to the node passes it over. -/
theorem execute (step : Step) :
    match step.about id with
    | some own => Agree id (left.execute step).1 (right.execute own).1 ∧
        step.replies id (left.execute step).2 = own.replies id (right.execute own).2
    | none => Agree id (left.execute step).1 right ∧
        step.replies id (left.execute step).2 = [] := by
  obtain ⟨now, operation⟩ | readings := step
  · have concern := concern_about id operation
    rw [Step.about]
    generalize operation.about id = kept at concern
    cases concern with
    | addressed own =>
      obtain ⟨answer, slot⟩ := agree.perform own now
      refine ⟨agree.act _ _ slot, ?_⟩
      exact (Step.replies_addressed own).trans
        ((congrArg (fun answer => [Reply.answered answer]) answer).trans
          (Step.replies_addressed own).symm)
    | swept =>
      obtain ⟨collected, newlyStale, slot⟩ := agree.sweep now
      exact ⟨agree.act ⟨now, .sweep⟩ ⟨now, .sweep⟩ slot,
        congrArg₂ (fun collected newlyStale => [Reply.swept collected newlyStale])
          (decide_eq_decide.mpr collected) (decide_eq_decide.mpr newlyStale)⟩
    | restored snapshot =>
      exact ⟨agree.act ⟨now, .restore snapshot⟩ ⟨now, .restore _⟩ (agree.restore snapshot), rfl⟩
    | other elsewhere =>
      exact ⟨agree.act_other elsewhere now,
        Step.replies_other elsewhere.apart elsewhere.unswept⟩
  · obtain ⟨after, outcomes⟩ := agree.submitEach readings
    exact ⟨after, congrArg (fun outcomes => [Reply.submitted outcomes]) outcomes⟩

/-- A run and its projection on a node end in the same slot, and give the node the same replies.
-/
theorem run (steps : List Step) :
    Agree id (left.run steps) (right.run (steps.filterMap (Step.about id))) ∧
      left.replies id steps = right.replies id (steps.filterMap (Step.about id)) := by
  induction steps generalizing left right with
  | nil => exact ⟨agree, rfl⟩
  | cons step rest ih =>
    have first := agree.execute step
    rw [List.filterMap_cons, replies]
    -- The second engine takes the step as well, or waits for one that concerns the node.
    split at first
    · rename_i own about
      obtain ⟨after, reply⟩ := first
      rw [about, reply]
      obtain ⟨last, others⟩ := ih after
      exact ⟨last, congrArg _ others⟩
    · rename_i about
      obtain ⟨after, reply⟩ := first
      rw [about, reply]
      exact ih after

end Agree

/-! ## The transitions of a node -/

def Reply.entries : Reply → List Entry
  | answered answer => answer.entries
  | submitted outcomes => outcomes.map Outcome.entry
  | swept _ _ => []

/-- An operation returns transitions of the node that it is addressed to only. -/
theorem addressee_of_transition {engine : Engine} (sound : engine.registry.Sound) {now : Int64}
    {operation : Operation} {transition : Transition}
    (returned : transition ∈ transitionsOf (engine.perform now operation).2.entries) :
    operation.addressee = some transition.id := by
  cases operation with
  | submit reading =>
    rw [perform] at returned
    cases refused : engine.refusal? now reading with
    | some refusal =>
      rw [submit_refused sound refused] at returned
      cases returned
    | none =>
      rw [submit_accepted sound refused] at returned
      have made : (engine.receiptFor now reading).transition = some transition := by
        rwa [Answer.entries, transitionsOf_accepted, Option.mem_toList] at returned
      obtain ⟨_, rfl⟩ := Transition.ofScore?_eq_some.mp made
      rfl
  | register request =>
    rw [perform] at returned
    rcases answer : engine.register now request with ⟨after, refusal | entered⟩ <;>
      rw [answer] at returned <;> cases returned
  | decommission id =>
    rw [perform] at returned
    cases found : engine.registry.slots.get? id with
    | none =>
      rw [decommission_absent sound found] at returned
      cases returned
    | some slot =>
      by_cases gone : slot.node.category = .sundown
      · rw [decommission_again sound found gone] at returned
        cases returned
      · rw [decommission_active sound found gone] at returned
        cases List.mem_singleton.mp returned
        rfl
  | recompute id => cases returned
  | _ => cases returned

/-- The transitions of a node are returned by the operations that are addressed to it. -/
theorem transitions_perform {engine : Engine} (sound : engine.registry.Sound) (now : Int64)
    (operation : Operation) (id : String) :
    (transitionsOf (engine.perform now operation).2.entries).filter
        (fun transition => transition.id = id) =
      if operation.addressee = some id then
        transitionsOf (engine.perform now operation).2.entries else [] := by
  split
  · rename_i own
    refine List.filter_eq_self.mpr fun transition member => ?_
    simpa [own, eq_comm] using addressee_of_transition sound member
  · rename_i apart
    refine List.filter_eq_nil_iff.mpr fun transition member same => apart ?_
    rw [addressee_of_transition sound member, of_decide_eq_true same]

theorem transitions_outcomes (id : String) (readings : List (Int64 × Reading Float)) :
    ∀ {engine : Engine}, engine.Sound →
      (transitionsOf ((engine.submitEach readings).2.map Outcome.entry)).filter
          (fun transition => transition.id = id) =
        transitionsOf (((engine.submitEach readings).2.filter
          fun outcome => outcome.id = id).map Outcome.entry) := by
  induction readings with
  | nil => exact fun _ => rfl
  | cons timed rest ih =>
    obtain ⟨now, reading⟩ := timed
    intro engine sound
    have first := transitions_perform sound.registry now (.submit reading) id
    have about := outcome_id sound.registry now reading
    simp only [perform, Operation.addressee, Option.some.injEq, entries_submitted reading.id]
      at first
    rw [submitEach_cons, List.map_cons, ← List.singleton_append, transitionsOf_append,
      List.filter_append, ih (sound.submit now reading), first, List.filter_cons, about]
    by_cases own : reading.id = id
    · rw [if_pos own, if_pos (decide_eq_true own)]
      exact (transitionsOf_append _ _).symm
    · rw [if_neg own, if_neg (by simpa using own), List.nil_append]

/-- A node is told of all its transitions, and of no other ones. -/
theorem transitions_execute (id : String) {engine : Engine} (sound : engine.Sound) (step : Step) :
    (transitionsOf (engine.execute step).2.entries).filter
        (fun transition => transition.id = id) =
      transitionsOf ((step.replies id (engine.execute step).2).flatMap Reply.entries) := by
  obtain ⟨now, operation⟩ | readings := step
  · refine (transitions_perform sound.registry now operation id).trans ?_
    split
    · rename_i own
      change _ = transitionsOf (((Step.single now operation).replies id
        (.single (engine.perform now operation).2)).flatMap Reply.entries)
      rw [Step.replies_addressed own, List.flatMap_singleton]
      rfl
    · rename_i apart
      change _ = transitionsOf (((Step.single now operation).replies id
        (.single (engine.perform now operation).2)).flatMap Reply.entries)
      by_cases swept : operation = .sweep
      · rw [swept]
        rfl
      · rw [Step.replies_other apart swept]
        rfl
  · refine (transitions_outcomes id readings sound).trans ?_
    exact congrArg transitionsOf (List.append_nil _).symm

/-- The transitions of a node in the ledger are those in its replies. -/
theorem transitions_entries (id : String) (steps : List Step) :
    ∀ {engine : Engine}, engine.Sound →
      (transitionsOf (engine.entries steps)).filter (fun transition => transition.id = id) =
        transitionsOf ((engine.replies id steps).flatMap Reply.entries) := by
  induction steps with
  | nil => exact fun _ => rfl
  | cons step rest ih =>
    intro engine sound
    have after : (engine.execute step).1.Sound := sound.run [step]
    rw [entries, replies, transitionsOf_append, List.filter_append, transitions_execute id sound,
      ih after, List.flatMap_append, transitionsOf_append]

/-! ## The theorem -/

/-- Two runs from one engine cannot be told apart by a node: they leave the same record and
window of it, answer its operations alike, and return the same transitions of it. -/
structure Indistinguishable (engine : Engine) (id : String) (first second : List Step) : Prop where
  slot : (engine.run first).registry.slot? id = (engine.run second).registry.slot? id
  replies : engine.replies id first = engine.replies id second
  transitions :
    (transitionsOf (engine.entries first)).filter (fun transition => transition.id = id) =
      (transitionsOf (engine.entries second)).filter fun transition => transition.id = id

theorem indistinguishable_about {engine : Engine} (sound : engine.Sound)
    (uncapped : engine.settings.registry.capacity = none) (id : String) (steps : List Step) :
    engine.Indistinguishable id steps (steps.filterMap (Step.about id)) := by
  obtain ⟨agree, replies⟩ := (Agree.refl sound uncapped : Agree id engine engine).run steps
  exact {
    slot := by
      rw [agree.soundLeft.registry.slot?_eq, agree.soundRight.registry.slot?_eq, agree.slot]
    replies := replies
    transitions := by
      rw [transitions_entries id steps sound, transitions_entries id _ sound, replies] }

namespace Indistinguishable

variable {engine : Engine} {id : String} {first second third : List Step}

theorem symm (same : engine.Indistinguishable id first second) :
    engine.Indistinguishable id second first :=
  ⟨same.slot.symm, same.replies.symm, same.transitions.symm⟩

theorem trans (same : engine.Indistinguishable id first second)
    (again : engine.Indistinguishable id second third) :
    engine.Indistinguishable id first third :=
  ⟨same.slot.trans again.slot, same.replies.trans again.replies,
    same.transitions.trans again.transitions⟩

end Indistinguishable

inductive Step.Apart : Step → Step → Prop where
  | intro {now later : Int64} {first second : Operation} {one other : String}
      (left : first.addressee = some one) (right : second.addressee = some other)
      (differ : one ≠ other) : Apart (.single now first) (.single later second)

/-- An operation on one node is about no other node. -/
theorem about_eq_none {operation : Operation} {one id : String}
    (addressed : operation.addressee = some one) (differ : one ≠ id) (now : Int64) :
    Step.about id (.single now operation) = none := by
  have apart : ¬ some one = some id := fun same => differ (Option.some.inj same)
  have passed : operation.about id = none := by
    cases operation <;> cases addressed <;> exact if_neg apart
  rw [Step.about, passed]
  rfl

/-- Each node sees at most one of two operations on different nodes, whatever their order. -/
theorem Step.Apart.filterMap_about {first second : Step} (apart : first.Apart second) (id : String)
    (rest : List Step) :
    (first :: second :: rest).filterMap (Step.about id) =
      (second :: first :: rest).filterMap (Step.about id) := by
  obtain @⟨now, later, first, second, one, other, left, right, differ⟩ := apart
  by_cases own : one = id
  · have passed := about_eq_none right (fun same => differ (own.trans same.symm)) later
    simp only [List.filterMap_cons, passed]
  · have passed := about_eq_none left own now
    simp only [List.filterMap_cons, passed]

/-- The nodes of an engine without a capacity do not interfere: to every node a run looks like
the run of what concerns the node, and no node notices when two adjacent operations on different
nodes change places. -/
theorem run_independence (settings : Settings Float) (name : String)
    (uncapped : settings.registry.capacity = none) (id : String) :
    (∀ steps, (fresh settings name).Indistinguishable id steps
      (steps.filterMap (Step.about id))) ∧
    ∀ before first second after, Step.Apart first second →
      (fresh settings name).Indistinguishable id (before ++ first :: second :: after)
        (before ++ second :: first :: after) := by
  have alone := indistinguishable_about (sound_fresh settings name) uncapped id
  refine ⟨alone, fun before first second after apart => ?_⟩
  have same : (before ++ first :: second :: after).filterMap (Step.about id) =
      (before ++ second :: first :: after).filterMap (Step.about id) := by
    rw [List.filterMap_append, List.filterMap_append, apart.filterMap_about]
  exact (alone _).trans (same ▸ (alone _).symm)

/-- A node that reports does not notice that another one reports as well and is decommissioned,
nor in which order. -/
theorem run_independence_departure :
    let report : Step := .single 1 (.submit (.loaded "a" none 0.5))
    let leave : Step := .single 2 (.decommission "b")
    let sweep : Step := .single 9 .sweep
    let steps (first second : Step) : List Step :=
      [.batch [(0, .loaded "a" none 1.0), (1, .loaded "b" none 0.5)], first, second, sweep]
    let alone : List Step := [.batch [(0, .loaded "a" none 1.0)], report, sweep]
    let left (steps : List Step) : Option Slot :=
      ((fresh .default "engine").run steps).registry.slot? "a"
    (left (steps report leave)).isSome = true ∧
      left (steps report leave) = left alone ∧
        left (steps report leave) = left (steps leave report) := by
  intro report leave sweep steps alone left
  obtain ⟨projected, swapped⟩ := run_independence .default "engine" rfl "a"
  have kept : (steps report leave).filterMap (Step.about "a") = alone := by
    simp [steps, report, leave, sweep, alone, Step.about, Operation.about,
      Operation.addressee, Reading.loaded]
  refine ⟨by decide +kernel, kept ▸ (projected _).slot, ?_⟩
  exact (swapped [_] report leave [_] (.intro rfl rfl (by decide))).slot

end Engine

end Headroom
