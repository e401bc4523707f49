import Headroom.Proofs.Engine.Runs

/-!
# What holds of every slot

Without a restore a slot comes about in one way and changes in five: its node reports, is
described, is decommissioned, is scored anew, or gets its flag from a sweep.  A property of
slots that a new one has and that each of these changes keeps holds of every slot in every
state that a run reaches, whatever happens to the other nodes.
-/

namespace Headroom.Engine

/-- A property of slots that a new slot has and that every change of a slot keeps. -/
structure Kept (settings : Settings Float) (p : String → Slot → Prop) : Prop where
  entered : ∀ id name now, p id (.fresh (.fresh id name now))
  observed : ∀ (reading : Reading Float) (timestamp now : Int64) (slot : Slot),
    p reading.id slot → (∀ last, slot.node.lastSampleAt = some last → last ≤ timestamp) →
      p reading.id (observe settings settings.window.limits reading timestamp now slot)
  described : ∀ id slot name container, p id slot →
    p id { slot with node := slot.node.described name container }
  retired : ∀ id slot now, p id slot → p id { slot with node := slot.node.retired now }
  rescored : ∀ id slot, p id slot → p id (rescored settings slot)
  flagged : ∀ id slot now, p id slot → p id { slot with node := { slot.node with
    stale := slot.node.isSilent now settings.registry.silenceTimeout } }

/-- An accepted reading is not older than the last one of its node. -/
theorem le_timeOf_of_accepted {engine : Engine} (sound : engine.registry.Sound) {now : Int64}
    {reading : Reading Float} (accepted : engine.refusal? now reading = none) {last : Int64}
    (known : (engine.registry.seat reading.id reading.name now).node.lastSampleAt = some last) :
    last ≤ timeOf now reading := by
  have valid := valid_of_accepted accepted
  have room := admits_of_accepted accepted
  rw [lastSampleAt_seat sound] at known
  simp only [refusal?, valid, room, if_true, known, Option.map_eq_none_iff,
    Option.filter_eq_none_iff, decide_eq_true_eq] at accepted
  exact Int64.not_lt.mp (accepted last rfl)

namespace Kept

variable {settings : Settings Float} {p : String → Slot → Prop} (kept : Kept settings p)

include kept

theorem seat {registry : Registry} (before : ∀ id slot, registry.slots.get? id = some slot → p id slot)
    (id : String) (name : Option String) (now : Int64) : p id (registry.seat id name now) :=
  Registry.forall_seat (before id) fun _ => kept.entered id name now

/-- One action keeps what every change of a slot keeps. -/
theorem act {engine : Engine} (sound : engine.Sound) (same : engine.settings = settings)
    {action : Action} (noRestore : ∀ snapshot, action.operation ≠ .restore snapshot)
    (before : ∀ id slot, engine.registry.slots.get? id = some slot → p id slot) :
    ∀ id slot, (engine.act action).registry.slots.get? id = some slot → p id slot := by
  subst same
  refine (effect_act sound.registry action).2.forall_slots sound.registry before ?observed
    ?described (fun id slot => kept.retired id slot action.now) kept.rescored kept.flagged ?restored
  case observed =>
    intro reading accepted
    rw [Engine.observed, sound.limits]
    exact kept.observed reading _ action.now _ (kept.seat before _ _ _)
      fun last => le_timeOf_of_accepted sound.registry accepted
  case described =>
    intro request _
    exact kept.described _ _ request.name request.container (kept.seat before _ _ _)
  case restored => exact fun snapshot asked => absurd asked (noRestore snapshot)

/-- A sequence of actions keeps what every change of a slot keeps. -/
theorem follow (actions : List Action) : ∀ {engine : Engine}, engine.Sound →
    engine.settings = settings →
    (∀ action ∈ actions, ∀ snapshot, action.operation ≠ .restore snapshot) →
    (∀ id slot, engine.registry.slots.get? id = some slot → p id slot) →
    ∀ id slot, (engine.follow actions).registry.slots.get? id = some slot → p id slot := by
  induction actions with
  | nil => exact fun _ _ _ before => before
  | cons action rest ih =>
    intro engine sound same noRestore before
    exact ih (sound.act action) ((effect_act sound.registry action).1.trans same)
      (fun later member => noRestore later (List.mem_cons_of_mem _ member))
      (kept.act sound same (noRestore action List.mem_cons_self) before)

/-- In every state that a run without a restore reaches, the property holds of every slot. -/
theorem run (name : String) {steps : List Step}
    (noRestore : ∀ step ∈ steps, ∀ snapshot, step.operation? ≠ some (.restore snapshot))
    {id : String} {slot : Slot}
    (found : ((fresh settings name).run steps).registry.slots.get? id = some slot) : p id slot := by
  rw [run_eq_follow] at found
  refine kept.follow _ (sound_fresh settings name) rfl (noRestore_actions noRestore) ?_ id slot found
  exact fun _ _ tracked => by cases tracked

end Kept

end Headroom.Engine
