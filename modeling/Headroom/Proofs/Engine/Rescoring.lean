import Headroom.Proofs.Engine.Occasions

/-!
# Scoring a node anew

Scoring a node anew takes its scores from its window.  A node that has reported since it was
entered or taken over got its scores from that same window, so nothing happens to it.  A node
that has not reported has an empty window, which counts as full headroom, while its record may
carry scores from elsewhere: a restored one those it was stored with, an entered one the
initial ones, whose overall score is one even where the weights do not add up to one.
-/

namespace Headroom

theorem Window.eq_empty {window : Window Float} (empty : window.isEmpty = true) :
    window = .empty := by
  obtain ⟨samples⟩ := window
  exact congrArg Window.mk (List.isEmpty_iff.mp empty)

namespace Engine

variable {engine : Engine} {id : String} {slot : Slot}

/-- A node whose scores are those of its window is left alone. -/
theorem recompute_settled (sound : engine.registry.Sound)
    (found : engine.registry.slots.get? id = some slot)
    (settled : slot.node.scores = engine.settings.scoring.scores slot.window) :
    engine.recompute id = (engine, .ok slot.node.scores) := by
  have same : rescored engine.settings slot = slot := by
    rw [rescored, ← settled]
  rw [recompute_tracked sound found, same, Registry.store_same found, ← settled]

/-- A node with an empty window is given full headroom. -/
theorem recompute_silent (sound : engine.registry.Sound)
    (found : engine.registry.slots.get? id = some slot) (silent : slot.window.isEmpty = true) :
    let full := engine.settings.scoring.combine 1.0 1.0 1.0 1.0
    engine.recompute id =
      ({ engine with
        registry := engine.registry.store id (.fresh { slot.node with scores := full }) },
        .ok full) := by
  have stored : rescored engine.settings slot =
      .fresh { slot.node with scores := engine.settings.scoring.combine 1.0 1.0 1.0 1.0 } := by
    rw [rescored, Scoring.scores_of_isEmpty _ silent, Window.eq_empty silent,
      sound.live id slot found]
    rfl
  rw [recompute_tracked sound found, stored, Scoring.scores_of_isEmpty _ silent]

/-- A node whose latest occasion was a report has the scores of its window. -/
theorem Occasion.Marks.settled {scoring : Scoring Float} {occasion : Occasion}
    (marks : occasion.Marks scoring slot) (reported : occasion.isReport = true) :
    slot.node.scores = scoring.scores slot.window := by
  cases occasion with
  | reported now reading => exact marks.scores.resolve_right nofun
  | entered now => cases reported
  | restored record => cases reported

theorem Occasion.Marks.silent_window {scoring : Scoring Float} {occasion : Occasion}
    (marks : occasion.Marks scoring slot) (unreported : occasion.isReport = false) :
    slot.window.isEmpty = true := by
  rw [marks.window, unreported, Bool.not_false]

/-- In every state that a run reaches, a node that has reported since it was entered or taken
over is scored anew as it was, and so is one that already has the scores of an empty window.
Any other node has an empty window, gets these scores and is changed in nothing else; the scores
that it loses are the ones that it was entered or taken over with. -/
theorem run_recompute (settings : Settings Float) (name : String) (steps : List Step) :
    let engine := (fresh settings name).run steps
    let full := engine.settings.scoring.combine 1.0 1.0 1.0 1.0
    ∀ id node, engine.get? id = some node →
      ∃ latest,
        ((fresh settings name).occasions id (steps.flatMap Step.actions)).getLast? = some latest ∧
        (latest.isReport = true ∨ node.scores = full →
          engine.recompute id = (engine, .ok node.scores)) ∧
        (latest.isReport = false →
          engine.registry.window? id = some .empty ∧
            engine.recompute id =
              ({ engine with
                registry := engine.registry.store id (.fresh { node with scores := full }) },
                .ok full) ∧
            (node.scores = full ∨ latest.given = some node.scores)) := by
  intro engine full id node tracked
  have sound : engine.registry.Sound := ((sound_fresh settings name).run steps).registry
  obtain ⟨slot, found, rfl⟩ := sound.get?_eq_some_iff.mp tracked
  obtain ⟨latest, last, marks⟩ := recalls_run settings name steps id slot found
  refine ⟨latest, last, ?_, ?_⟩
  · intro settled
    refine recompute_settled sound found ?_
    cases reported : latest.isReport with
    | true => exact marks.settled reported
    | false =>
      rw [Scoring.scores_of_isEmpty _ (marks.silent_window reported)]
      exact settled.resolve_left (by rw [reported]; exact Bool.false_ne_true)
  · intro unreported
    have silent := marks.silent_window unreported
    have origin := marks.scores
    rw [Scoring.scores_of_isEmpty _ silent] at origin
    have window : engine.registry.window? id = some .empty := by
      rw [sound.window?_eq, found, Option.map_some, Window.eq_empty silent]
    exact ⟨window, recompute_silent sound found silent, origin⟩

/-- A node that reported keeps the scores of its load. -/
theorem run_recompute_reported :
    let steps : List Step := [.single 0 (.submit (.loaded "node" none 1.0))]
    let engine := (fresh .default "engine").run steps
    ∃ node, engine.get? "node" = some node ∧
      engine.recompute "node" = (engine, .ok node.scores) := by
  intro steps engine
  have tracked : (engine.get? "node").isSome = true := by decide +kernel
  obtain ⟨node, found⟩ := Option.isSome_iff_exists.mp tracked
  obtain ⟨latest, last, settled, _⟩ := run_recompute .default "engine" steps "node" node found
  have reported : (((fresh .default "engine").occasions "node"
      (steps.flatMap Step.actions)).getLast?.map Occasion.isReport) = some true := by
    decide +kernel
  rw [last] at reported
  exact ⟨node, found, settled (.inl (Option.some.inj reported))⟩

/-- A node of medium load that is taken over from the snapshot of an engine with the same
settings gets full headroom when it is scored anew, and stays in its category.  A node that was
entered gets less than its initial score when the weights add up to less than one. -/
theorem recompute_without_report :
    let first := (fresh .default "first").run [.single 0 (.submit (.loaded "node" none 1.0))]
    let second := (fresh .default "second").run [.single 0 (.restore (first.view 0))]
    let uneven : Settings Float := { Settings.default with
      scoring := { Scoring.default with weights := ⟨0.7, 0.1, 0.1, 0.1⟩ } }
    let third := (fresh uneven "third").run [.single 0 (.register ⟨"node", none, none⟩)]
    let overall := fun (engine : Engine) =>
      (engine.get? "node").map fun node => (node.category, node.scores.overall == 1.0)
    (overall second = some (.medium, false) ∧
      overall (second.recompute "node").1 = some (.medium, true)) ∧
    ((uneven.validate matches .ok ()) = true ∧ overall third = some (.initial, true) ∧
      overall (third.recompute "node").1 = some (.initial, false)) := by
  decide +kernel

end Engine

end Headroom
