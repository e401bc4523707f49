import Headroom.Proofs.Engine.Slots
import Headroom.Proofs.Engine.Occasions
import Headroom.Proofs.Window

/-!
# Windows along a run

The window of a node is kept by pushes alone, but what it should hold is said by the answers
of the run: the samples that were accepted for the node since it was entered or last taken over
from a snapshot.  The registry keeps both in step.  It lets no sample in that is older than the
last one, which is what makes the window of each node the longest suffix of these samples that
fits.
-/

namespace Headroom

theorem WindowSettings.maxSamples_pos (settings : WindowSettings) :
    0 < settings.limits.maxSamples :=
  Nat.le_max_left 1 _

namespace Engine

/-- The samples accepted for a node since it was entered or last taken over from a snapshot,
after one more action, going by the answer. -/
def Action.remember (action : Action) (answer : Answer) (id : String)
    (samples : List (Sample Float)) : List (Sample Float) :=
  match action.operation, answer with
  | .submit reading, .submitted (.ok receipt) =>
    if reading.id = id then
      (if receipt.created then [] else samples) ++ [reading.sampleAt receipt.timestamp]
    else samples
  | .register request, .registered (.ok (_, created)) =>
    if request.id = id ∧ created = true then [] else samples
  | .restore snapshot, _ => if snapshot.nodes.any (·.id = id) then [] else samples
  | _, _ => samples

/-- The samples accepted for a node since it was entered or last taken over, after a sequence
of actions. -/
def sampled (engine : Engine) (id : String) (samples : List (Sample Float)) :
    List Action → List (Sample Float)
  | [] => samples
  | action :: rest =>
    (engine.act action).sampled id
      (action.remember (engine.perform action.now action.operation).2 id samples) rest

/-- The samples of a node as its slot bears them. -/
structure Bears (limits : Window.Limits) (samples : List (Sample Float)) (slot : Slot) : Prop where
  window : slot.window.Reflects limits samples
  last : ∀ newest, samples.getLast? = some newest →
    slot.node.lastSampleAt = some newest.timestamp

theorem bears_fresh (limits : Window.Limits) (node : Node) : Bears limits [] (.fresh node) :=
  ⟨Window.reflects_empty, nofun⟩

theorem Bears.handed {limits : Window.Limits} {samples : List (Sample Float)} {before after : Slot}
    (bears : Bears limits samples before) (window : after.window = before.window)
    (last : after.node.lastSampleAt = before.node.lastSampleAt) : Bears limits samples after :=
  ⟨window ▸ bears.window, fun newest isLast => last.trans (bears.last newest isLast)⟩

theorem Bears.observe {limits : Window.Limits} {samples : List (Sample Float)} {slot : Slot}
    (bears : Bears limits samples slot) (positive : 0 < limits.maxSamples)
    (settings : Settings Float) (reading : Reading Float) {timestamp : Int64} (now : Int64)
    (timely : ∀ last, slot.node.lastSampleAt = some last → last ≤ timestamp) :
    Bears limits (samples ++ [reading.sampleAt timestamp])
      (observe settings limits reading timestamp now slot) where
  window := bears.window.push positive fun newest isLast => timely _ (bears.last newest isLast)
  last := fun newest isLast => by
    rw [List.getLast?_concat] at isLast
    cases isLast
    rfl

section Action

variable {engine : Engine} {now : Int64} {id : String} {samples : List (Sample Float)} {slot : Slot}

/-- A node starts without samples where it is new. -/
theorem bears_seat (name : Option String)
    (before : ∀ slot, engine.registry.slots.get? id = some slot →
      Bears engine.registry.limits samples slot) :
    Bears engine.registry.limits (if !engine.registry.contains id then [] else samples)
      (engine.registry.seat id name now) := by
  cases tracked : engine.registry.slots.get? id with
  | some slot =>
    rw [Registry.contains_eq_true tracked, Registry.seat_tracked tracked]
    exact before slot tracked
  | none =>
    rw [Registry.contains_eq_false tracked, Registry.seat, tracked]
    exact bears_fresh _ _

/-- A reading adds its sample to what the slot of its node bears. -/
theorem bears_submit (sound : engine.Sound) {reading : Reading Float}
    (before : ∀ slot, engine.registry.slots.get? id = some slot →
      Bears engine.registry.limits samples slot)
    (found : (engine.act ⟨now, .submit reading⟩).registry.slots.get? id = some slot) :
    Bears engine.registry.limits
      (Action.remember ⟨now, .submit reading⟩ (engine.perform now (.submit reading)).2 id samples)
      slot := by
  rw [act, perform] at found
  rw [perform]
  cases verdict : engine.refusal? now reading with
  | some refusal =>
    rw [submit_refused sound.registry verdict] at found ⊢
    exact before slot found
  | none =>
    rw [submit_accepted sound.registry verdict] at found ⊢
    simp only [accepted, registry_noteAccepted, Registry.lookup_store] at found
    simp only [Action.remember, receiptFor]
    split at found
    · rename_i own
      subst own
      cases found
      rw [if_pos rfl]
      have positive : 0 < engine.registry.limits.maxSamples := by
        rw [sound.limits]
        exact WindowSettings.maxSamples_pos _
      exact (bears_seat reading.name before).observe positive _ _ _
        fun _ => le_timeOf_of_accepted sound.registry verdict
    · rename_i other
      rw [if_neg (Ne.symm other)]
      exact before slot found

/-- A registration leaves every window alone, or enters a node that bears no sample yet. -/
theorem bears_register (sound : engine.Sound) {request : Registration}
    (before : ∀ slot, engine.registry.slots.get? id = some slot →
      Bears engine.registry.limits samples slot)
    (found : (engine.act ⟨now, .register request⟩).registry.slots.get? id = some slot) :
    Bears engine.registry.limits
      (Action.remember ⟨now, .register request⟩ (engine.perform now (.register request)).2 id
        samples) slot := by
  rw [act, perform] at found
  rw [perform]
  cases unnamed : request.id.isEmpty with
  | true =>
    rw [register_unnamed unnamed] at found ⊢
    exact before slot found
  | false =>
    cases room : engine.registry.admits request.id with
    | false =>
      rw [register_full sound.registry unnamed room] at found ⊢
      exact before slot found
    | true =>
      rw [register_admitted sound.registry unnamed room] at found ⊢
      simp only [registry_log, Registry.lookup_store] at found
      simp only [Action.remember]
      split at found
      · rename_i own
        subst own
        cases found
        simp only [true_and]
        exact (bears_seat request.name before).handed rfl rfl
      · rename_i other
        rw [if_neg fun both => other both.1.symm]
        exact before slot found

/-- A restore empties the windows of the nodes that it takes over. -/
theorem bears_restore (sound : engine.Sound) {snapshot : Snapshot}
    (before : ∀ slot, engine.registry.slots.get? id = some slot →
      Bears engine.registry.limits samples slot)
    (found : (engine.act ⟨now, .restore snapshot⟩).registry.slots.get? id = some slot) :
    Bears engine.registry.limits
      (Action.remember ⟨now, .restore snapshot⟩ (engine.perform now (.restore snapshot)).2 id
        samples) slot := by
  have named := (sound.act ⟨now, .restore snapshot⟩).named id slot found
  have last := sound.registry.lookup_restore_last snapshot.nodes named found
  simp only [Action.remember]
  split at last
  · rename_i node isLast
    have member := List.mem_filter.mp (List.mem_of_getLast? isLast)
    rw [if_pos (List.any_eq_true.mpr ⟨node, member⟩), last]
    exact bears_fresh _ _
  · rename_i none
    have others := List.filter_eq_nil_iff.mp (List.getLast?_eq_none_iff.mp none)
    rw [if_neg fun some => by
      obtain ⟨node, member, own⟩ := List.any_eq_true.mp some
      exact others node member own]
    exact before slot last

/-- Every action leaves in a slot the samples that it leaves to remember. -/
theorem bears_act (sound : engine.Sound) (action : Action)
    (before : ∀ slot, engine.registry.slots.get? id = some slot →
      Bears engine.registry.limits samples slot) :
    ∀ slot, (engine.act action).registry.slots.get? id = some slot →
      Bears engine.registry.limits
        (action.remember (engine.perform action.now action.operation).2 id samples) slot := by
  intro slot found
  obtain ⟨now, operation⟩ := action
  have effect := (effect_act sound.registry ⟨now, operation⟩).2
  cases operation with
  | submit reading => exact bears_submit sound before found
  | register request => exact bears_register sound before found
  | restore snapshot => exact bears_restore sound before found
  | _ =>
    obtain ⟨earlier, tracked, passed⟩ := effect.passed sound (by simp) (by simp) (by simp) found
    exact (before earlier tracked).handed passed.window passed.last

end Action

/-! ## Whole runs -/

/-- Over a sequence of actions, slots go on bearing the samples that were accepted. -/
theorem bears_follow (id : String) (actions : List Action) :
    ∀ {engine : Engine} {samples : List (Sample Float)}, engine.Sound →
      (∀ slot, engine.registry.slots.get? id = some slot →
        Bears engine.settings.window.limits samples slot) →
      ∀ slot, (engine.follow actions).registry.slots.get? id = some slot →
        Bears engine.settings.window.limits (engine.sampled id samples actions) slot := by
  induction actions with
  | nil => exact fun _ before => before
  | cons action rest ih =>
    intro engine samples sound before
    have settings := (effect_act sound.registry action).1
    rw [← sound.limits] at before
    have borne := bears_act sound action before
    rw [sound.limits, ← settings] at borne
    have after := ih (sound.act action) borne
    rwa [settings] at after

/-- In every state that a run reaches, restores included, the samples accepted for a node since
it was entered or last taken over are in the order of their times, and its window holds the
longest suffix of them that has no more than the greatest number of samples and none older than
the greatest age.  So it holds the newest of them, if there is any, and every other sample
exactly as long as there are few enough newer ones and it is young enough. -/
theorem run_windows (settings : Settings Float) (name : String) (steps : List Step) (id : String)
    (slot : Slot)
    (tracked : ((fresh settings name).run steps).registry.slot? id = some slot) :
    let limits := settings.window.limits
    let samples := (fresh settings name).sampled id [] (steps.flatMap Step.actions)
    slot.window.Reflects limits samples ∧ slot.window.latest? = samples.getLast? ∧
      (samples ≠ [] → slot.window.isEmpty = false) ∧
      ∀ older sample newer, samples = older ++ sample :: newer →
        (sample :: newer <:+ slot.window.samples ↔
          newer.length < limits.maxSamples ∧ Window.Young limits samples sample) := by
  intro limits samples
  have sound := ((sound_fresh settings name).run steps).registry
  rw [sound.slot?_eq, run_eq_follow] at tracked
  have bears : Bears limits samples slot :=
    bears_follow id _ (sound_fresh settings name) (fun _ found => by cases found) slot tracked
  have newest := bears.window.latest? (WindowSettings.maxSamples_pos _)
    (WindowSettings.maxAge_nonneg _)
  refine ⟨bears.window, newest, fun some => ?_, fun _ _ _ split => bears.window.holds_iff split⟩
  rw [Window.isEmpty, List.isEmpty_eq_false_iff, Ne, ← List.getLast?_eq_none_iff]
  exact fun none => some (List.getLast?_eq_none_iff.mp (newest.symm.trans none))

/-- A node with a few samples is taken over from a snapshot and reports three times after that;
the first of these reports has become too old by the third. -/
theorem run_windows_taken_over :
    let steps : List Step :=
      [.single 0 (.submit (.loaded "a" (some 0) 0.5)),
        .single 0 (.restore ⟨0, [.fresh "a" none 0]⟩),
        .batch [(0, .loaded "a" (some 0) 0.5), (1, .loaded "a" (some 200000) 0.5)],
        .single 0 (.submit (.loaded "a" (some 400000) 0.5))]
    let samples := (fresh .default "engine").sampled "a" [] (steps.flatMap Step.actions)
    samples.map (·.timestamp) = [0, 200000, 400000] ∧
      ∃ slot, ((fresh .default "engine").run steps).registry.slot? "a" = some slot ∧
        slot.window.samples.map (·.timestamp) = [200000, 400000] ∧
        slot.window.Reflects WindowSettings.default.limits samples := by
  intro steps samples
  have times : samples.map (·.timestamp) = [0, 200000, 400000] := by decide +kernel
  have tracked : (((fresh .default "engine").run steps).registry.slot? "a").map
      (fun slot => slot.window.samples.map (·.timestamp)) = some [200000, 400000] := by
    decide +kernel
  obtain ⟨slot, found, held⟩ := Option.map_eq_some_iff.mp tracked
  have reflects := (run_windows .default "engine" steps "a" slot found).1
  exact ⟨times, slot, found, held, reflects⟩

end Engine

end Headroom
