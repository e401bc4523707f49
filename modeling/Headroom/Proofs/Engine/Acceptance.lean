import Headroom.Proofs.Engine.Rejection

/-!
# Accepted readings

A reading that is accepted concerns one node: its record and its window change, and those of
every other node stay.  The window takes the reading in, and the record is rewritten from the
window and from what it said before; each field has its own rule, which also says what becomes
of a node that was not tracked before.  The receipt repeats the record, and a change of category
goes into the history, unless the history is configured to hold nothing.
-/

namespace Headroom

/-- What the record of a node says once a reading was accepted, by its record before, if it was
tracked, and by its window with the reading. -/
structure Node.Takes (settings : Settings Float) (reading : Reading Float) (timestamp now : Int64)
    (window : Window Float) (before : Option Node) (after : Node) : Prop where
  id : after.id = reading.id
  name : after.name = reading.name.getD (before.elim reading.id Node.name)
  container : after.container = reading.container.or (before.bind Node.container)
  scores : after.scores = settings.scoring.scores window
  category : after.category =
    settings.thresholds.next (before.elim .initial Node.category) after.scores.overall
  started : before.elim .initial Node.lifecycle = .initial → after.lifecycle = .active
  lifecycle : before.elim .initial Node.lifecycle ≠ .initial →
    before.map Node.lifecycle = some after.lifecycle
  stale : after.stale = false
  createdAt : after.createdAt = before.elim now Node.createdAt
  lastUpdated : after.lastUpdated = now
  lastSampleAt : after.lastSampleAt = some timestamp
  sampleCount : after.sampleCount.toNat =
    (before.elim 0 (fun node => node.sampleCount.toNat) + 1) % 2 ^ 64
  usage : after.usage = settings.scoring.usage (reading.sampleAt timestamp)

/-- What a receipt says, by the record of the node before, if it was tracked, and after. -/
structure Receipt.Attests (reading : Reading Float) (now : Int64) (before : Option Node)
    (after : Node) (receipt : Receipt) : Prop where
  id : receipt.id = reading.id
  timestamp : receipt.timestamp = reading.timestamp.getD now
  scores : receipt.scores = after.scores
  category : receipt.category = after.category
  created : receipt.created = true ↔ before = none
  moved : receipt.transition.isSome = true ↔ before.elim .initial Node.category ≠ after.category
  transition : ∀ change, receipt.transition = some change →
    change = ⟨reading.id, before.elim .initial Node.category, after.category,
      some after.scores.overall, receipt.timestamp⟩

/-- A history takes in the change of a receipt, if there is one, and drops only its oldest
entries for it.  One that holds nothing stays empty-handed. -/
structure History.Gains (capacity : Nat) (change : Option Transition)
    (before after : History) : Prop where
  unmoved : change = none → after = before
  barred : capacity = 0 → after = before
  appended : ∀ transition, change = some transition → capacity ≠ 0 →
    ∃ dropped kept, before.entries = dropped ++ kept ∧ after.entries = kept ++ [transition]

theorem History.gains_record (history : History) (change : Option Transition) :
    history.Gains history.capacity change (change.elim history history.record) := by
  cases change with
  | none =>
    constructor
    case unmoved | barred => intro _; rfl
    case appended =>
      intro transition same
      cases same
  | some transition =>
    constructor
    case unmoved =>
      intro same
      cases same
    case barred =>
      intro empty
      exact if_pos empty
    case appended =>
      intro appended same room
      cases same
      have surplus : (history.record transition).entries =
          history.entries.drop (history.entries.length + 1 - history.capacity) ++ [transition] := by
        rw [record, if_neg room]
      exact ⟨_, _, (List.take_append_drop _ history.entries).symm, surplus⟩

namespace Engine

section Acceptance

variable {engine : Engine} {now : Int64} {reading : Reading Float}

/-- What becomes of the slots of an engine when a reading is accepted. -/
theorem lookup_accepted (id : String) :
    (engine.accepted now reading).registry.slots.get? id =
      if id = reading.id then some (engine.observed now reading)
      else engine.registry.slots.get? id := by
  rw [accepted, registry_noteAccepted, Registry.lookup_store]

/-- An answer that is a receipt tells that the reading was in order, and what the engine became.
-/
theorem accepted_of_submit_ok (sound : engine.Sound) {receipt : Receipt}
    (ok : (engine.submit now reading).2 = .ok receipt) :
    engine.refusal? now reading = none ∧ receipt = engine.receiptFor now reading ∧
      (engine.submit now reading).1 = engine.accepted now reading := by
  cases refused : engine.refusal? now reading with
  | some refusal =>
    rw [submit_refused sound.registry refused] at ok
    cases ok
  | none =>
    rw [submit_accepted sound.registry refused] at ok ⊢
    exact ⟨rfl, (Except.ok.inj ok).symm, rfl⟩

theorem sound_accepted (sound : engine.Sound) (accepted : engine.refusal? now reading = none) :
    (engine.accepted now reading).registry.Sound := by
  have after : (engine.act ⟨now, .submit reading⟩).Sound := sound.act _
  rw [act, perform, submit_accepted sound.registry accepted] at after
  exact after.registry

/-- The record of a node that was tracked, after a reading. -/
theorem takes_observe (settings : Settings Float) (limits : Window.Limits)
    (timestamp now : Int64) {slot : Slot} (own : slot.node.id = reading.id) :
    let after := observe settings limits reading timestamp now slot
    after.node.Takes settings reading timestamp now after.window (some slot.node) where
  id := own
  name := rfl
  container := Option.orElse_eq_or
  scores := rfl
  category := rfl
  started := fun initial => if_pos initial
  lifecycle := fun begun => congrArg some (if_neg begun).symm
  stale := rfl
  createdAt := rfl
  lastUpdated := rfl
  lastSampleAt := rfl
  sampleCount := UInt64.toNat_add _ _
  usage := rfl

/-- A new node is treated like one that was tracked and of which nothing is known yet. -/
theorem takes_of_takes_fresh {settings : Settings Float} {timestamp : Int64}
    {window : Window Float} {after : Node}
    (takes : after.Takes settings reading timestamp now window
      (some (.fresh reading.id reading.name now))) :
    after.Takes settings reading timestamp now window none where
  id := takes.id
  name := by
    rw [takes.name]
    cases reading.name <;> rfl
  container := takes.container
  scores := takes.scores
  category := takes.category
  started := takes.started
  lifecycle := fun begun => absurd rfl begun
  stale := takes.stale
  createdAt := takes.createdAt
  lastUpdated := takes.lastUpdated
  lastSampleAt := takes.lastSampleAt
  sampleCount := takes.sampleCount
  usage := takes.usage

/-- The record after a reading is built from the one before and from the window with the reading.
-/
theorem takes_observed (sound : engine.Sound) :
    (engine.observed now reading).node.Takes engine.settings reading (timeOf now reading) now
      (engine.observed now reading).window (engine.get? reading.id) := by
  have own := sound.registry.seat_id reading.id reading.name now
  have takes := takes_observe engine.settings engine.registry.limits (timeOf now reading) now own
  rw [get?, sound.registry.get?_eq, observed]
  cases tracked : engine.registry.slots.get? reading.id with
  | none =>
    rw [Registry.seat, tracked] at takes ⊢
    exact takes_of_takes_fresh takes
  | some slot =>
    rw [Registry.seat, tracked] at takes ⊢
    exact takes

/-- A receipt says what the record says from then on. -/
theorem attests_receiptFor (sound : engine.Sound) :
    (engine.receiptFor now reading).Attests reading now (engine.get? reading.id)
      (engine.observed now reading).node := by
  have takes : (engine.observed now reading).node.Takes engine.settings reading
      (timeOf now reading) now (engine.observed now reading).window (engine.get? reading.id) :=
    takes_observed sound
  have standing : engine.standing reading.id =
      (engine.get? reading.id).elim .initial Node.category := by
    rw [Engine.standing]
    cases engine.get? reading.id <;> rfl
  have change : (engine.receiptFor now reading).transition =
      Transition.ofScore? engine.settings.thresholds reading.id
        ((engine.get? reading.id).elim .initial Node.category)
        (engine.observed now reading).node.scores.overall (timeOf now reading) := by
    rw [receiptFor, standing]
  refine ⟨rfl, rfl, rfl, rfl, ?created, ?moved, ?transition⟩
  case created =>
    rw [receiptFor, Bool.not_eq_true', ← Bool.not_eq_true, sound.registry.contains_iff_get?,
      Option.eq_none_iff_forall_ne_some, not_exists]
    rfl
  case moved =>
    rw [change, Option.isSome_iff_exists]
    simp only [Transition.ofScore?_eq_some, exists_and_left, exists_eq, and_true]
    rw [takes.category, ne_comm]
  case transition =>
    intro transition carried
    rw [change, Transition.ofScore?_eq_some, ← takes.category] at carried
    exact carried.2

/-- The effect of a reading on the node that it is about, on the other nodes and on the
history. -/
theorem run_acceptance (settings : Settings Float) (name : String) (steps : List Step)
    (now : Int64) (reading : Reading Float) (receipt : Receipt)
    (accepted : (((fresh settings name).run steps).submit now reading).2 = .ok receipt) :
    let engine := (fresh settings name).run steps
    let after := (engine.submit now reading).1
    (∀ other, other ≠ reading.id → after.get? other = engine.get? other ∧
      after.registry.window? other = engine.registry.window? other) ∧
    (∃ node window, after.get? reading.id = some node ∧
      after.registry.window? reading.id = some window ∧
      window = ((engine.registry.window? reading.id).getD .empty).push settings.window.limits
        (reading.sampleAt receipt.timestamp) ∧
      node.Takes settings reading receipt.timestamp now window (engine.get? reading.id) ∧
      receipt.Attests reading now (engine.get? reading.id) node) ∧
    engine.history.Gains settings.registry.auditLogSize.toNat receipt.transition after.history := by
  intro engine after
  have sound : engine.Sound := (sound_fresh settings name).run steps
  have configured : engine.settings = settings := (sound_fresh settings name).settings_run steps
  have limits : engine.registry.limits = settings.window.limits := by
    rw [← configured]
    exact congrArg Prod.fst sound.bounds
  obtain ⟨inOrder, rfl, result⟩ := accepted_of_submit_ok sound accepted
  have reached : after = engine.accepted now reading := result
  have soundAfter : after.registry.Sound := by
    rw [reached]
    exact sound_accepted sound inOrder
  have lookup (id : String) : after.registry.slots.get? id =
      if id = reading.id then some (engine.observed now reading)
      else engine.registry.slots.get? id := by
    rw [reached, lookup_accepted]
  refine ⟨?others, ⟨(engine.observed now reading).node, (engine.observed now reading).window,
    ?record, ?window, ?pushed, ?takes, attests_receiptFor sound⟩, ?history⟩
  case others =>
    intro other foreign
    rw [get?, get?, soundAfter.get?_eq, soundAfter.window?_eq, sound.registry.get?_eq,
      sound.registry.window?_eq, lookup, if_neg foreign]
    exact ⟨rfl, rfl⟩
  case record => rw [get?, soundAfter.get?_eq, lookup, if_pos rfl, Option.map_some]
  case window => rw [soundAfter.window?_eq, lookup, if_pos rfl, Option.map_some]
  case pushed =>
    rw [← limits, sound.registry.window?_eq, observed, Registry.seat]
    cases engine.registry.slots.get? reading.id <;> rfl
  case takes =>
    rw [← configured]
    exact takes_observed sound
  case history =>
    have capacity : settings.registry.auditLogSize.toNat = engine.history.capacity := by
      rw [sound.capacity, configured]
    rw [capacity, reached, Engine.accepted, history_noteAccepted]
    exact History.gains_record _ _

/-- A node that was registered under a name reports for the first time. -/
theorem run_acceptance_registered :
    let engine := (fresh .default "engine").run
      [.single 0 (.register ⟨"node", some "first", none⟩)]
    let result := engine.submit 5 (.loaded "node" none 1.0)
    ∃ node receipt, result.1.get? "node" = some node ∧ result.2 = .ok receipt ∧
      node.name = "first" ∧ node.createdAt = 0 ∧ node.lastSampleAt = some 5 ∧
      node.sampleCount.toNat = 1 ∧ node.lifecycle = .active ∧ receipt.created = false ∧
      receipt.category = node.category ∧ receipt.transition.isSome = true := by
  intro engine result
  have sound : engine.Sound := (sound_fresh _ _).run _
  have inOrder : (engine.refusal? 5 (.loaded "node" none 1.0)).isNone = true := by decide +kernel
  have ok : result.2 = .ok (engine.receiptFor 5 (.loaded "node" none 1.0)) :=
    congrArg Prod.snd (submit_accepted sound.registry (Option.isNone_iff_eq_none.mp inOrder))
  obtain ⟨_, ⟨node, window, found, _, _, takes, attests⟩, _⟩ :=
    run_acceptance .default "engine" _ 5 _ _ ok
  have tracked : (engine.get? "node").isSome = true := by decide +kernel
  have name : (engine.get? "node").elim "node" Node.name = "first" := by decide +kernel
  have created : (engine.get? "node").elim 5 Node.createdAt = 0 := by decide +kernel
  have count : (engine.get? "node").elim 0 (fun node => node.sampleCount.toNat) = 0 := by
    decide +kernel
  have begun : (engine.get? "node").elim .initial Node.lifecycle = .initial := by decide +kernel
  have unscored : (engine.get? "node").elim .initial Node.category = .initial := by decide +kernel
  have moved : (engine.get? "node").elim .initial Node.category ≠ node.category := by
    rw [unscored, takes.category]
    exact Thresholds.next_ne_initial.symm
  refine ⟨node, _, found, ok, takes.name.trans name, takes.createdAt.trans created,
    takes.lastSampleAt, ?counted, takes.started begun, ?known, attests.category,
    attests.moved.mpr moved⟩
  case counted => exact takes.sampleCount.trans (congrArg (fun count => (count + 1) % 2 ^ 64) count)
  case known =>
    rw [← Bool.not_eq_true, attests.created]
    exact Option.isSome_iff_ne_none.mp tracked

/-- An engine that is set up to keep no history hands out a change that is kept nowhere. -/
theorem change_without_history :
    let settings : Settings Float :=
      { Settings.default with registry := { RegistrySettings.default with auditLogSize := 0 } }
    let result := (fresh settings "engine").submit 0 (.loaded "node" none 0.0)
    (settings.validate matches .ok ()) = true ∧
      (result.2 matches .ok ⟨_, _, _, _, _, some _⟩) = true ∧
      result.1.history.entries.isEmpty = true := by
  decide +kernel

end Acceptance

end Engine

end Headroom
