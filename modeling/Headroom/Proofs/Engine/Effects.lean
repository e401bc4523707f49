import Headroom.Engine
import Headroom.Proofs.Reading
import Headroom.Proofs.Registry.Runs

/-!
# What the operations of an engine do

An engine keeps a registry, a history and counters.  Each operation is described
here once by what it does to them: a reading that is refused leaves registry and
history alone, and every other operation on a single node stores one slot.  Later
proofs read these descriptions and never the operations themselves.
-/

namespace Headroom

namespace Category

def Scored (category : Category) : Prop :=
  category = .low ∨ category = .medium ∨ category = .high

theorem Scored.ne_initial {category : Category} (scored : category.Scored) :
    category ≠ .initial := by
  rintro rfl
  rcases scored with same | same | same <;> cases same

theorem Scored.ne_sundown {category : Category} (scored : category.Scored) :
    category ≠ .sundown := by
  rintro rfl
  rcases scored with same | same | same <;> cases same

/-- A score leads from any category but the last one into a band. -/
theorem scored_next {α : Type} [Scalar α] {thresholds : Thresholds α} {current : Category}
    {score : α} (active : current ≠ .sundown) : (thresholds.next current score).Scored := by
  have banded : (thresholds.band score).Scored := by
    rw [Thresholds.band]
    split
    · exact .inl rfl
    · split
      · exact .inr (.inl rfl)
      · exact .inr (.inr rfl)
  cases current with
  | initial => exact banded
  | sundown => exact absurd rfl active
  | _ =>
    rw [Thresholds.next]
    split <;> try split
    all_goals simp [Scored]

end Category

namespace Thresholds

variable {α : Type} [Scalar α] {thresholds : Thresholds α} {current : Category} {score : α}

theorem next_eq_sundown :
    thresholds.next current score = .sundown ↔ current = .sundown := by
  by_cases gone : current = .sundown
  · rw [gone]
    constructor <;> intro same <;> rfl
  · have scored : (thresholds.next current score).Scored := Category.scored_next gone
    constructor
    · intro same
      exact absurd same scored.ne_sundown
    · intro same
      exact absurd same gone

theorem next_ne_initial : thresholds.next current score ≠ .initial := by
  intro same
  by_cases gone : current = .sundown
  · rw [gone] at same
    cases same
  · exact (Category.scored_next gone).ne_initial same

end Thresholds

theorem Transition.ofScore?_eq_some {thresholds : Thresholds Float} {id : String}
    {current : Category} {score : Float} {timestamp : Int64} {transition : Transition} :
    ofScore? thresholds id current score timestamp = some transition ↔
      thresholds.next current score ≠ current ∧
        transition = ⟨id, current, thresholds.next current score, some score, timestamp⟩ := by
  rw [ofScore?]
  split
  · rename_i stays
    constructor
    · intro same
      cases same
    · intro moved
      exact absurd stays moved.1
  · rename_i moves
    rw [Option.some.injEq]
    constructor
    · intro same
      exact ⟨moves, same.symm⟩
    · intro moved
      exact moved.2.symm

theorem Transition.target_ofScore? (thresholds : Thresholds Float) (id : String)
    (current : Category) (score : Float) (timestamp : Int64) :
    ((ofScore? thresholds id current score timestamp).map (·.target)).getD current =
      thresholds.next current score := by
  rw [ofScore?]
  split
  · rename_i same
    exact same.symm
  · rfl

namespace Engine

/-! ## Notes leave everything but counters and journal alone -/

section Notes

variable (engine : Engine)

@[simp]
theorem registry_noteTransition (transition : Transition) :
    (engine.noteTransition transition).registry = engine.registry := rfl

@[simp]
theorem history_noteTransition (transition : Transition) :
    (engine.noteTransition transition).history = engine.history := rfl

@[simp]
theorem settings_noteTransition (transition : Transition) :
    (engine.noteTransition transition).settings = engine.settings := rfl

@[simp]
theorem registry_noteAccepted (receipt : Receipt) :
    (engine.noteAccepted receipt).registry = engine.registry := by
  cases change : receipt.transition <;> simp [noteAccepted, change]

@[simp]
theorem history_noteAccepted (receipt : Receipt) :
    (engine.noteAccepted receipt).history = engine.history := by
  cases change : receipt.transition <;> simp [noteAccepted, change]

@[simp]
theorem settings_noteAccepted (receipt : Receipt) :
    (engine.noteAccepted receipt).settings = engine.settings := by
  cases change : receipt.transition <;> simp [noteAccepted, change]

@[simp]
theorem tally_noteAccepted (receipt : Receipt) :
    (engine.noteAccepted receipt).tally = { engine.tally with
      accepted := engine.tally.accepted + 1
      transitions := engine.tally.transitions + if receipt.transition.isSome then 1 else 0 } := by
  cases change : receipt.transition with
  | none => simp [noteAccepted, change]
  | some transition => simp [noteAccepted, change, noteTransition, log]

@[simp]
theorem registry_noteRejected (id : String) (refusal : Refusal) :
    (engine.noteRejected id refusal).registry = engine.registry := rfl

@[simp]
theorem history_noteRejected (id : String) (refusal : Refusal) :
    (engine.noteRejected id refusal).history = engine.history := rfl

@[simp]
theorem settings_noteRejected (id : String) (refusal : Refusal) :
    (engine.noteRejected id refusal).settings = engine.settings := rfl

@[simp]
theorem registry_log (event : Event) : (engine.log event).registry = engine.registry := rfl

@[simp]
theorem history_log (event : Event) : (engine.log event).history = engine.history := rfl

@[simp]
theorem settings_log (event : Event) : (engine.log event).settings = engine.settings := rfl

end Notes

/-! ## Readings -/

def observe (settings : Settings Float) (limits : Window.Limits) (reading : Reading Float)
    (timestamp now : Int64) (slot : Slot) : Slot :=
  let sample := reading.sampleAt timestamp
  let window := slot.window.push limits sample
  let scores := settings.scoring.scores window
  let category := settings.thresholds.next slot.node.category scores.overall
  let observed := slot.node.observed timestamp now scores category (settings.scoring.usage sample)
  { slot with node := observed.described reading.name reading.container, window := window }

theorem accept_late {settings : Settings Float} {limits : Window.Limits}
    {reading : Reading Float} {timestamp now last : Int64} {slot : Slot}
    (late : slot.node.lastSampleAt.filter (fun last => timestamp < last) = some last) :
    accept settings limits reading timestamp now slot =
      (slot, .error (.stale reading.id timestamp last)) := by
  rw [accept]
  simp only [late]

theorem accept_inOrder {settings : Settings Float} {limits : Window.Limits}
    {reading : Reading Float} {timestamp now : Int64} {slot : Slot}
    (inOrder : slot.node.lastSampleAt.filter (fun last => timestamp < last) = none) :
    let after := observe settings limits reading timestamp now slot
    accept settings limits reading timestamp now slot =
      (after, .ok ⟨reading.id, timestamp, after.node.scores, after.node.category, false,
        Transition.ofScore? settings.thresholds reading.id slot.node.category
          after.node.scores.overall timestamp⟩) := by
  rw [accept]
  simp only [inOrder, Transition.target_ofScore?]
  rfl

def timeOf (now : Int64) (reading : Reading Float) : Int64 := reading.timestamp.getD now

/-- The category in which a node stands.  A node that is not tracked is about to start as
initial. -/
def standing (engine : Engine) (id : String) : Category :=
  ((engine.get? id).map (·.category)).getD .initial

def refusal? (engine : Engine) (now : Int64) (reading : Reading Float) : Option Refusal :=
  match reading.validate with
  | .error objection => some (.invalid objection)
  | .ok () =>
    if engine.registry.admits reading.id then
      (((engine.get? reading.id).bind (·.lastSampleAt)).filter
        fun last => timeOf now reading < last).map (.stale reading.id (timeOf now reading))
    else some (.full (engine.registry.capacity.getD 0))

theorem valid_of_accepted {engine : Engine} {now : Int64} {reading : Reading Float}
    (accepted : engine.refusal? now reading = none) : reading.validate = .ok () := by
  cases checked : reading.validate with
  | error objection => simp only [refusal?, checked, reduceCtorEq] at accepted
  | ok done => rfl

theorem admits_of_accepted {engine : Engine} {now : Int64} {reading : Reading Float}
    (accepted : engine.refusal? now reading = none) :
    engine.registry.admits reading.id = true := by
  by_contra full
  simp only [refusal?, valid_of_accepted accepted, full, if_false, reduceCtorEq] at accepted

def observed (engine : Engine) (now : Int64) (reading : Reading Float) : Slot :=
  observe engine.settings engine.registry.limits reading (timeOf now reading) now
    (engine.registry.seat reading.id reading.name now)

def receiptFor (engine : Engine) (now : Int64) (reading : Reading Float) : Receipt where
  id := reading.id
  timestamp := timeOf now reading
  scores := (engine.observed now reading).node.scores
  category := (engine.observed now reading).node.category
  created := !engine.registry.contains reading.id
  transition := Transition.ofScore? engine.settings.thresholds reading.id
    (engine.standing reading.id) (engine.observed now reading).node.scores.overall
    (timeOf now reading)

def accepted (engine : Engine) (now : Int64) (reading : Reading Float) : Engine :=
  let receipt := engine.receiptFor now reading
  noteAccepted
    { engine with
      registry := engine.registry.store reading.id (engine.observed now reading)
      history := receipt.transition.elim engine.history engine.history.record }
    receipt

section Submit

variable {engine : Engine} (sound : engine.registry.Sound)

include sound

theorem get?_seat (id : String) (name : Option String) (now : Int64) :
    engine.get? id = if engine.registry.contains id then
      some (engine.registry.seat id name now).node else none := by
  rw [get?, sound.get?_eq, Registry.contains, Dictionary.contains, Registry.seat]
  cases engine.registry.slots.get? id <;> rfl

theorem standing_eq_seat (id : String) (name : Option String) (now : Int64) :
    engine.standing id = (engine.registry.seat id name now).node.category := by
  rw [standing, get?, sound.get?_eq, Registry.seat]
  cases engine.registry.slots.get? id <;> rfl

theorem lastSampleAt_seat (id : String) (name : Option String) (now : Int64) :
    (engine.registry.seat id name now).node.lastSampleAt =
      (engine.get? id).bind (·.lastSampleAt) := by
  rw [get?, sound.get?_eq, Registry.seat]
  cases engine.registry.slots.get? id <;> rfl

/-- A refused reading is noted, and nothing else happens. -/
theorem submit_refused {now : Int64} {reading : Reading Float} {refusal : Refusal}
    (refused : engine.refusal? now reading = some refusal) :
    engine.submit now reading = (engine.noteRejected reading.id refusal, .error refusal) := by
  suffices ingested : engine.ingest now reading = (engine, .error refusal) by
    rw [submit, ingested]
  cases checked : reading.validate with
  | error objection =>
    simp only [refusal?, checked, Option.some.injEq] at refused
    subst refused
    simp only [ingest, checked]
  | ok done =>
    simp only [refusal?, checked] at refused
    simp only [ingest, checked]
    cases room : engine.registry.admits reading.id with
    | false =>
      simp only [room, Bool.false_eq_true, if_false, Option.some.injEq] at refused
      subst refused
      rw [sound.upsert_full room]
    | true =>
      rw [room, if_pos rfl, Option.map_eq_some_iff] at refused
      obtain ⟨last, late, rfl⟩ := refused
      rw [← lastSampleAt_seat sound reading.id reading.name now] at late
      have failed : accept engine.settings engine.registry.limits reading (timeOf now reading) now
          (engine.registry.seat reading.id reading.name now) = (_, .error (.stale reading.id _ last)) :=
        accept_late late
      rw [← timeOf, sound.upsert_error room failed]
      have tracked : engine.registry.contains reading.id = true := by
        cases found : engine.registry.slots.get? reading.id with
        | some slot => exact Registry.contains_eq_true found
        | none =>
          rw [Registry.seat, found] at late
          cases late
      obtain ⟨slot, found⟩ := Dictionary.contains_iff.mp tracked
      simp only [tracked, Bool.true_eq_false, false_and, if_false, Registry.seat_tracked found,
        Registry.store_same found]

/-- A reading that nothing speaks against is taken in one known way. -/
theorem submit_accepted {now : Int64} {reading : Reading Float}
    (accepted : engine.refusal? now reading = none) :
    engine.submit now reading =
      (engine.accepted now reading, .ok (engine.receiptFor now reading)) := by
  have checked := valid_of_accepted accepted
  have room := admits_of_accepted accepted
  rw [refusal?, checked, room, if_pos rfl, Option.map_eq_none_iff,
    ← lastSampleAt_seat sound reading.id reading.name now] at accepted
  have done : accept engine.settings engine.registry.limits reading (timeOf now reading) now
      (engine.registry.seat reading.id reading.name now) = (engine.observed now reading, _) :=
    accept_inOrder accepted
  simp only [submit, ingest, checked]
  rw [← timeOf, sound.upsert_ok room done, ← standing_eq_seat sound]
  rfl

end Submit

/-! ## Other operations on one node -/

/-- The slot of a node that is described anew or entered by a registration. -/
def described (engine : Engine) (now : Int64) (request : Registration) : Slot :=
  let seat := engine.registry.seat request.id request.name now
  { seat with node := seat.node.described request.name request.container }

def rescored (settings : Settings Float) (slot : Slot) : Slot :=
  { slot with node := { slot.node with scores := settings.scoring.scores slot.window } }

def farewell (slot : Slot) (id : String) (now : Int64) : Transition :=
  ⟨id, slot.node.category, .sundown, none, now⟩

section Single

variable {engine : Engine}

theorem register_unnamed {now : Int64} {request : Registration}
    (unnamed : request.id.isEmpty = true) :
    engine.register now request = (engine, .error (.invalid .emptyId)) := by
  rw [register, if_pos unnamed]

variable (sound : engine.registry.Sound)

include sound

theorem register_full {now : Int64} {request : Registration} (named : request.id.isEmpty = false)
    (full : engine.registry.admits request.id = false) :
    engine.register now request =
      (engine, .error (.full (engine.registry.capacity.getD 0))) := by
  have unchanged : engine.registry.register request.id request.name request.container now =
      (engine.registry, .error (engine.registry.capacity.getD 0)) := by
    rw [Registry.register, sound.upsert_full full]
  simp only [register, named, Bool.false_eq_true, if_false, unchanged]

/-- A registration under a proper id goes through if there is room, or if the node is tracked. -/
theorem register_admitted {now : Int64} {request : Registration}
    (named : request.id.isEmpty = false) (room : engine.registry.admits request.id = true) :
    let slot := engine.described now request
    let created := !engine.registry.contains request.id
    engine.register now request =
      (log { engine with registry := engine.registry.store request.id slot }
        (.registration slot.node.id slot.node.name created), .ok (slot.node, created)) := by
  have stored : engine.registry.register request.id request.name request.container now =
      (engine.registry.store request.id (engine.described now request),
        .ok ((engine.described now request).node, !engine.registry.contains request.id)) := by
    rw [Registry.register, sound.upsert_ok room rfl]
    rfl
  simp only [register, named, Bool.false_eq_true, if_false, stored]

theorem recompute_absent {id : String} (absent : engine.registry.slots.get? id = none) :
    engine.recompute id = (engine, .error ⟨id⟩) := by
  simp only [recompute, sound.modify?_absent absent]

theorem recompute_tracked {id : String} {slot : Slot}
    (found : engine.registry.slots.get? id = some slot) :
    engine.recompute id =
      ({ engine with registry := engine.registry.store id (rescored engine.settings slot) },
        .ok (engine.settings.scoring.scores slot.window)) := by
  simp only [recompute, sound.modify?_tracked found]
  rfl

theorem decommission_absent {now : Int64} {id : String}
    (absent : engine.registry.slots.get? id = none) :
    engine.decommission now id = (engine, .error ⟨id⟩) := by
  simp only [decommission, Registry.retire?, sound.modify?_absent absent]

/-- A node is decommissioned only once. -/
theorem decommission_again {now : Int64} {id : String} {slot : Slot}
    (found : engine.registry.slots.get? id = some slot)
    (gone : slot.node.category = .sundown) :
    engine.decommission now id = (engine, .ok none) := by
  simp [decommission, Registry.retire?, sound.modify?_tracked found, gone, Category.isTerminal,
    Transition.ofDecommission?, Registry.store_same found]

/-- A decommission moves an active node out of service, with all that is noted about it. -/
theorem decommission_active {now : Int64} {id : String} {slot : Slot}
    (found : engine.registry.slots.get? id = some slot)
    (active : slot.node.category ≠ .sundown) :
    let transition := farewell slot id now
    let recorded := { engine with
      registry := engine.registry.store id { slot with node := slot.node.retired now }
      history := engine.history.record transition }
    engine.decommission now id =
      ((recorded.log (.decommission id slot.node.category)).noteTransition transition,
        .ok (some transition)) := by
  have leavable : slot.node.category.isTerminal = false := by
    cases stage : slot.node.category <;> simp_all [Category.isTerminal]
  simp [decommission, Registry.retire?, sound.modify?_tracked found, leavable,
    Transition.ofDecommission?, farewell]

end Single

/-! ## Sweeps and restores -/

def cleared (engine : Engine) (now : Int64) : Registry :=
  (engine.registry.collect now engine.settings.registry.sundownRetention).1

def swept (engine : Engine) (now : Int64) : Registry :=
  ((engine.cleared now).flagSilent now engine.settings.registry.silenceTimeout).1

theorem registry_collect (engine : Engine) (now : Int64) :
    (engine.collect now).1.registry = engine.cleared now := by
  simp only [collect]
  split <;> rfl

theorem settings_collect (engine : Engine) (now : Int64) :
    (engine.collect now).1.settings = engine.settings := by
  simp only [collect]
  split <;> rfl

theorem history_collect (engine : Engine) (now : Int64) :
    (engine.collect now).1.history = engine.history := by
  simp only [collect]
  split <;> rfl

theorem registry_flagSilent (engine : Engine) (now : Int64) :
    (engine.flagSilent now).1.registry =
      (engine.registry.flagSilent now engine.settings.registry.silenceTimeout).1 := by
  simp only [flagSilent]
  split <;> split <;> rfl

theorem settings_flagSilent (engine : Engine) (now : Int64) :
    (engine.flagSilent now).1.settings = engine.settings := by
  simp only [flagSilent]
  split <;> split <;> rfl

theorem history_flagSilent (engine : Engine) (now : Int64) :
    (engine.flagSilent now).1.history = engine.history := by
  simp only [flagSilent]
  split <;> split <;> rfl

@[simp]
theorem registry_sweep (engine : Engine) (now : Int64) :
    (engine.sweep now).1.registry = engine.swept now := by
  simp only [sweep, snapshot, registry_flagSilent, registry_collect, settings_collect, swept]

@[simp]
theorem settings_sweep (engine : Engine) (now : Int64) :
    (engine.sweep now).1.settings = engine.settings := by
  simp only [sweep, snapshot, settings_flagSilent, settings_collect]

@[simp]
theorem history_sweep (engine : Engine) (now : Int64) :
    (engine.sweep now).1.history = engine.history := by
  simp only [sweep, snapshot, history_flagSilent, history_collect]

/-- What a sweep reports is read off the registry. -/
theorem sweep_report (engine : Engine) (now : Int64) :
    (engine.sweep now).2 =
      let silence :=
        ((engine.cleared now).flagSilent now engine.settings.registry.silenceTimeout).2
      ⟨(engine.registry.collect now engine.settings.registry.sundownRetention).2,
        silence.newlyStale, silence.staleTotal, (engine.swept now).nodes.length⟩ := by
  have collected : (engine.collect now).2 =
      (engine.registry.collect now engine.settings.registry.sundownRetention).2 := by
    simp only [collect]
    split
    · rename_i none
      exact (List.isEmpty_iff.mp none).symm
    · rfl
  simp only [sweep, snapshot, view, collected, registry_flagSilent, registry_collect,
    settings_collect, swept]
  simp only [flagSilent, registry_collect, settings_collect]

theorem sound_cleared {engine : Engine} (sound : engine.registry.Sound) (now : Int64) :
    (engine.cleared now).Sound :=
  sound.collect _ _

theorem sound_swept {engine : Engine} (sound : engine.registry.Sound) (now : Int64) :
    (engine.swept now).Sound :=
  (sound_cleared sound now).flagSilent _ _

/-- A sweep drops the slots of the nodes that expired and sets the flags of the others. -/
theorem slot_swept {engine : Engine} (sound : engine.registry.Sound) (now : Int64) (id : String) :
    (engine.swept now).slots.get? id =
      ((engine.registry.slots.get? id).filter fun slot =>
        !slot.node.isExpired now engine.settings.registry.sundownRetention).map fun slot =>
          { slot with node := { slot.node with
            stale := slot.node.isSilent now engine.settings.registry.silenceTimeout } } := by
  rw [swept, (sound_cleared sound now).slots_flagSilent, Dictionary.get?_map, cleared,
    Registry.collect, Dictionary.get?_filter]

/-- A slot that a sweep leaves was there before, up to its flag. -/
theorem lookup_swept {engine : Engine} (sound : engine.registry.Sound) {now : Int64}
    {id : String} {slot : Slot} (found : (engine.swept now).slots.get? id = some slot) :
    ∃ kept, engine.registry.slots.get? id = some kept ∧
      slot = { kept with node := { kept.node with
        stale := kept.node.isSilent now engine.settings.registry.silenceTimeout } } := by
  rw [slot_swept sound, Option.map_eq_some_iff] at found
  obtain ⟨kept, found, rfl⟩ := found
  exact ⟨kept, (Option.filter_eq_some_iff.mp found).1, rfl⟩

/-- A sweep drops the nodes that expired and sets the flags of the others. -/
theorem get?_swept {engine : Engine} (sound : engine.registry.Sound) (now : Int64) (id : String) :
    (engine.swept now).get? id =
      ((engine.get? id).filter fun node =>
        !node.isExpired now engine.settings.registry.sundownRetention).map fun node =>
          { node with stale := node.isSilent now engine.settings.registry.silenceTimeout } := by
  rw [swept, (sound_cleared sound now).get?_flagSilent, cleared, sound.get?_collect]
  rfl

/-- The records after a sweep: what has not expired, with its flag set anew. -/
theorem get?_sweep {engine : Engine} (sound : engine.registry.Sound) (now : Int64) (id : String) :
    (engine.sweep now).1.get? id =
      ((engine.get? id).filter fun node =>
        !node.isExpired now engine.settings.registry.sundownRetention).map fun node =>
          { node with stale := node.isSilent now engine.settings.registry.silenceTimeout } := by
  rw [get?, registry_sweep, get?_swept sound]

end Engine

end Headroom
