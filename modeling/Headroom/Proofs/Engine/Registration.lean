import Headroom.Proofs.Engine.Acceptance

/-!
# Registration before the first report

A name and a container may reach a node in a registration or in a reading, and each has rules of
its own for what it takes over and what it keeps.  The rules agree: a node that is registered and
then reports ends as one whose reading carried what the registration said and the reading did
not.  This holds for a node in any state, also where the registration enters it, because the
reading that would enter it finds a place just when the registration does.
-/

namespace Headroom

/-- A reading with the name and the container of a registration where it has none. -/
def Reading.filledFrom (reading : Reading Float) (request : Registration) : Reading Float :=
  { reading with
    name := reading.name.or request.name
    container := reading.container.or request.container }

/-- What is given twice counts as the later one, and the earlier one where that is missing. -/
theorem Node.described_described (node : Node) (first second : Option String)
    (firstContainer secondContainer : Option Container) :
    (node.described first firstContainer).described second secondContainer =
      node.described (second.or first) (secondContainer.or firstContainer) := by
  cases second <;> cases secondContainer <;> rfl

theorem Registry.store_store (registry : Registry) (id : String) (first second : Slot) :
    (registry.store id first).store id second = registry.store id second := by
  have tracked : (registry.store id first).slots.get? id = some first := by
    rw [lookup_store, if_pos rfl]
  rw [store_tracked tracked, store_put]

namespace Engine

section Registered

variable {engine : Engine} {now : Int64} {request : Registration} {reading : Reading Float}

def registered (engine : Engine) (now : Int64) (request : Registration) : Engine :=
  let slot := engine.described now request
  log { engine with registry := engine.registry.store request.id slot }
    (.registration slot.node.id slot.node.name !engine.registry.contains request.id)

/-- An update after a registration starts from what the registration left. -/
theorem seat_registered (name : Option String) :
    (engine.registered now request).registry.seat request.id name now =
      engine.described now request :=
  Registry.seat_tracked ((Registry.lookup_store _ _ _ _).trans (if_pos rfl))

/-- A description before a reading acts as if the reading had brought it. -/
theorem observe_described (settings : Settings Float) (limits : Window.Limits)
    (timestamp : Int64) (slot : Slot) :
    observe settings limits reading timestamp now
        { slot with node := slot.node.described request.name request.container } =
      observe settings limits (reading.filledFrom request) timestamp now slot := by
  simp only [observe, Reading.filledFrom, ← Node.described_described]
  rfl

/-- A name that the reading has anyway need not be known when the node is entered. -/
theorem observe_fresh (settings : Settings Float) (limits : Window.Limits) (timestamp : Int64)
    (id : String) :
    observe settings limits (reading.filledFrom request) timestamp now
        (.fresh (.fresh id request.name now)) =
      observe settings limits (reading.filledFrom request) timestamp now
        (.fresh (.fresh id (reading.filledFrom request).name now)) := by
  simp only [observe, Reading.filledFrom]
  cases reading.name <;> cases request.name <;> rfl

/-- A registered node takes in a reading as it would have taken in the filled one before. -/
theorem observed_registered (same : request.id = reading.id) :
    (engine.registered now request).observed now reading =
      engine.observed now (reading.filledFrom request) := by
  rw [observed, ← same, seat_registered, described]
  refine (observe_described _ _ _ _).trans ?_
  rw [observed, show (reading.filledFrom request).id = request.id from same.symm, Registry.seat,
    Registry.seat]
  cases engine.registry.slots.get? request.id with
  | some slot => rfl
  | none => exact observe_fresh _ _ _ _

theorem register_eq_registered (sound : engine.Sound) (now : Int64)
    (named : request.id.isEmpty = false) (room : engine.registry.admits request.id = true) :
    engine.register now request =
      (engine.registered now request,
        .ok ((engine.described now request).node, !engine.registry.contains request.id)) :=
  register_admitted sound.registry named room

theorem sound_registered (sound : engine.Sound) (now : Int64)
    (named : request.id.isEmpty = false) (room : engine.registry.admits request.id = true) :
    (engine.registered now request).Sound := by
  have after : (engine.act ⟨now, .register request⟩).Sound := sound.act _
  rwa [act, perform, register_eq_registered sound now named room] at after

/-- A registration leaves the category and the last sample of its node. -/
theorem described_node (sound : engine.Sound) :
    (engine.described now request).node.category = engine.standing request.id ∧
      (engine.described now request).node.lastSampleAt =
        (engine.get? request.id).bind (·.lastSampleAt) := by
  rw [standing_eq_seat sound.registry request.id request.name now,
    ← lastSampleAt_seat sound.registry request.id request.name now]
  exact ⟨rfl, rfl⟩

theorem refusal?_eq_none_iff :
    engine.refusal? now reading = none ↔
      reading.validate = .ok () ∧ engine.registry.admits reading.id = true ∧
        ((engine.get? reading.id).bind (·.lastSampleAt)).filter
          (fun last => timeOf now reading < last) = none := by
  rw [refusal?]
  cases reading.validate with
  | error objection => simp
  | ok done => cases engine.registry.admits reading.id <;> simp

/-- A reading that is accepted when it is filled is accepted after the registration. -/
theorem refusal?_registered (sound : engine.Sound) (after : (engine.registered now request).Sound)
    (same : request.id = reading.id)
    (accepted : engine.refusal? now (reading.filledFrom request) = none) :
    (engine.registered now request).refusal? now reading = none := by
  obtain ⟨valid, _, timely⟩ := refusal?_eq_none_iff.mp accepted
  have room : (engine.registered now request).registry.admits reading.id = true := by
    rw [← same, Registry.admits_iff, registered, registry_log]
    exact .inl (Registry.contains_eq_true ((Registry.lookup_store _ _ _ _).trans (if_pos rfl)))
  refine refusal?_eq_none_iff.mpr ⟨valid, room, ?_⟩
  rw [← lastSampleAt_seat after.registry reading.id request.name now, ← same, seat_registered,
    (described_node sound).2, same]
  exact timely

/-- Apart from who made the node known, the receipts are the same. -/
theorem receiptFor_registered (sound : engine.Sound)
    (after : (engine.registered now request).Sound) (same : request.id = reading.id) :
    (engine.registered now request).receiptFor now reading =
      { engine.receiptFor now (reading.filledFrom request) with created := false } := by
  have known : (engine.registered now request).registry.contains reading.id = true := by
    rw [← same]
    exact Registry.contains_eq_true ((Registry.lookup_store _ _ _ _).trans (if_pos rfl))
  have standing : (engine.registered now request).standing reading.id =
      engine.standing (reading.filledFrom request).id := by
    rw [standing_eq_seat after.registry reading.id request.name now, ← same, seat_registered,
      (described_node sound).1]
    exact congrArg _ same
  rw [receiptFor, observed_registered same, known, standing]
  rfl

/-- A registration and a reading lead to the nodes and the history that the filled reading leads
to alone. -/
theorem accepted_registered (sound : engine.Sound)
    (after : (engine.registered now request).Sound) (same : request.id = reading.id) :
    let twice := (engine.registered now request).accepted now reading
    let once := engine.accepted now (reading.filledFrom request)
    twice.registry = once.registry ∧ twice.history = once.history := by
  intro twice once
  constructor
  · simp only [twice, once, accepted, registry_noteAccepted, observed_registered same]
    rw [registered, registry_log, ← same, Registry.store_store]
    rw [show (reading.filledFrom request).id = request.id from same.symm]
  · simp only [twice, once, accepted, history_noteAccepted, receiptFor_registered sound after same]
    rfl

end Registered

/-- In every state that a run reaches, a registration and then a reading of the node are together
what the reading would be alone, if it had the name and the container of the registration where
it has none.  When that reading is accepted, so are the registration and the reading after it.
They leave the same nodes with the same windows, the same number of places and the same history,
and the same receipt, except that the registration has made a new node known already. -/
theorem run_registration (settings : Settings Float) (name : String) (steps : List Step)
    (now : Int64) (request : Registration) (reading : Reading Float) (receipt : Receipt)
    (same : request.id = reading.id)
    (accepted : (((fresh settings name).run steps).submit now
      (reading.filledFrom request)).2 = .ok receipt) :
    let engine := (fresh settings name).run steps
    let alone := (engine.submit now (reading.filledFrom request)).1
    let registered := (engine.register now request).1
    let reported := (registered.submit now reading).1
    (∃ node, (engine.register now request).2 = .ok (node, receipt.created)) ∧
      (registered.submit now reading).2 = .ok { receipt with created := false } ∧
      reported.registry = alone.registry ∧ reported.history = alone.history := by
  intro engine alone registered reported
  have sound : engine.Sound := (sound_fresh settings name).run steps
  obtain ⟨inOrder, rfl, result⟩ := accepted_of_submit_ok sound accepted
  have named : request.id.isEmpty = false := by
    rw [same]
    exact Reading.named_of_validate (valid_of_accepted inOrder)
  have room : engine.registry.admits request.id = true := by
    rw [same]
    exact admits_of_accepted inOrder
  have entered := register_eq_registered sound now named room
  have after := sound_registered sound now named room
  have inOrderAfter := refusal?_registered sound after same inOrder
  have first : registered = engine.registered now request := congrArg Prod.fst entered
  have last : registered.submit now reading =
      ((engine.registered now request).accepted now reading,
        .ok ((engine.registered now request).receiptFor now reading)) := by
    rw [first]
    exact submit_accepted after.registry inOrderAfter
  have created : (engine.receiptFor now (reading.filledFrom request)).created =
      !engine.registry.contains request.id := by
    rw [same]
    rfl
  refine ⟨⟨(engine.described now request).node, ?_⟩, ?_, ?_⟩
  · rw [entered, created]
  · rw [last, receiptFor_registered sound after same]
  · have leads : reported = (engine.registered now request).accepted now reading :=
      congrArg Prod.fst last
    rw [leads, show alone = engine.accepted now (reading.filledFrom request) from result]
    exact accepted_registered sound after same

/-- The only node that there is room for is registered under a name and reports without one. -/
theorem run_registration_new :
    let settings : Settings Float :=
      { Settings.default with registry := { RegistrySettings.default with capacity := some 1 } }
    let reading := Reading.loaded "node" none 1.0
    let alone := (fresh settings "engine").submit 5 { reading with name := some "first" }
    let registered := ((fresh settings "engine").register 5 ⟨"node", some "first", none⟩).1
    ∃ receipt, alone.2 = .ok receipt ∧ receipt.created = true ∧
      (registered.submit 5 reading).2 = .ok { receipt with created := false } ∧
      (registered.submit 5 reading).1.registry = alone.1.registry := by
  intro settings reading alone registered
  have inOrder : ((fresh settings "engine").refusal? 5
      { reading with name := some "first" }).isNone = true := by decide +kernel
  have ok := congrArg Prod.snd (submit_accepted (sound_fresh settings "engine").registry
    (Option.isNone_iff_eq_none.mp inOrder))
  obtain ⟨_, result, sameNodes, _⟩ :=
    run_registration settings "engine" [] 5 ⟨"node", some "first", none⟩ reading _ rfl ok
  exact ⟨_, ok, rfl, result, sameNodes⟩

end Engine

end Headroom
