import Headroom.Proofs.Engine.Numbers
import Headroom.Proofs.Engine.Occasions
import Headroom.Proofs.Engine.Slots
import Headroom.Proofs.Thresholds

/-!
# Scores and categories stay in step

A reading changes the window, the scores and the category of its node together; nothing else
changes a window, and whatever computes the scores of a node again finds them as they are.  So
the scores of a node that reported are always those of its window, and unless it is
decommissioned its category is one that may be held at these scores.
-/

namespace Headroom.Engine

theorem defined_overall (scoring : Scoring Float) (window : Window Float) :
    (scoring.scores window).overall.isNaN = false :=
  Double.isNaN_of_isFinite (Scores.isFinite_scores scoring window _ (by simp))

/-- The scores of a slot are those of its window, and its category may be held at them.  Both
are said of a slot with a sample; one without has not counted any. -/
structure InStep (settings : Settings Float) (slot : Slot) : Prop where
  unreported : slot.window.isEmpty = true →
    slot.node.sampleCount = 0 ∧ slot.node.lastSampleAt = none
  scored : slot.window.isEmpty = false → slot.node.scores = settings.scoring.scores slot.window
  held : slot.window.isEmpty = false → slot.node.category ≠ .sundown →
    settings.thresholds.Region slot.node.scores.overall slot.node.category

/-- After a reading, the scores are those of the window, and hysteresis has put the node where its
score may hold it. -/
theorem InStep.observe {settings : Settings Float} (widening : settings.thresholds.Widening)
    {limits : Window.Limits} (nonneg : 0 ≤ limits.maxAge) (reading : Reading Float)
    (timestamp now : Int64) (slot : Slot) :
    InStep settings (observe settings limits reading timestamp now slot) := by
  have filled : (Engine.observe settings limits reading timestamp now slot).window.isEmpty = false :=
    Window.isEmpty_push nonneg _ _
  refine ⟨fun empty => ?_, fun _ => rfl, fun _ _ => ?_⟩
  · rw [filled] at empty
    cases empty
  · have held := widening.region_next slot.node.category
      (defined_overall settings.scoring (slot.window.push limits (reading.sampleAt timestamp)))
    exact held

theorem InStep.rescored {settings : Settings Float} {slot : Slot} (inStep : InStep settings slot) :
    InStep settings (rescored settings slot) := by
  refine ⟨inStep.unreported, fun _ => rfl, fun filled active => ?_⟩
  have held := inStep.held filled active
  rw [inStep.scored filled] at held
  exact held

theorem kept_inStep {settings : Settings Float} (widening : settings.thresholds.Widening) :
    Kept settings fun _ slot => InStep settings slot where
  entered := fun _ _ _ => ⟨fun _ => ⟨rfl, rfl⟩, nofun, nofun⟩
  observed := fun reading timestamp now slot _ _ =>
    .observe widening (WindowSettings.maxAge_nonneg _) reading timestamp now slot
  described := fun _ _ _ _ inStep => ⟨inStep.unreported, inStep.scored, inStep.held⟩
  retired := fun _ _ _ inStep =>
    ⟨inStep.unreported, inStep.scored, fun _ active => absurd rfl active⟩
  rescored := fun _ _ => .rescored
  flagged := fun _ _ _ inStep => ⟨inStep.unreported, inStep.scored, inStep.held⟩

theorem thresholds_of_validate {settings : Settings Float} (valid : settings.validate = .ok ()) :
    settings.thresholds.validate = .ok () := by
  simp only [Settings.validate, Guards.bind_eq_ok, Guards.exists_unit] at valid
  exact valid.2.2.1

/-- In every state that a run without a restore reaches, a node that has a sample has the scores
of its window, and unless it is decommissioned they lie in the region of its category: below the
raised boundary for `low`, between the boundaries for `medium`, not below the lowered boundary
for `high`. -/
theorem run_bands (settings : Settings Float) (name : String) (steps : List Step)
    (valid : settings.validate = .ok ())
    (noRestore : ∀ step ∈ steps, ∀ snapshot, step.operation? ≠ some (.restore snapshot))
    (id : String) (slot : Slot)
    (tracked : ((fresh settings name).run steps).registry.slot? id = some slot)
    (sampled : slot.node.sampleCount ≠ 0 ∨ slot.node.lastSampleAt ≠ none ∨
      slot.window.isEmpty = false) :
    slot.node.scores = settings.scoring.scores slot.window ∧
      (slot.node.category ≠ .sundown →
        settings.thresholds.Region slot.node.scores.overall slot.node.category) := by
  have sound := ((sound_fresh settings name).run steps).registry
  rw [sound.slot?_eq] at tracked
  have widening := Thresholds.widening_of_validate (thresholds_of_validate valid)
  have inStep : InStep settings slot := (kept_inStep widening).run name noRestore tracked
  have filled : slot.window.isEmpty = false := by
    cases empty : slot.window.isEmpty with
    | false => rfl
    | true =>
      obtain ⟨uncounted, never⟩ := inStep.unreported empty
      rw [empty] at sampled
      simp [uncounted, never] at sampled
  exact ⟨inStep.scored filled, inStep.held filled⟩

/-- A node with a busy processor is held in the middle. -/
theorem run_bands_busy :
    let steps : List Step := [.single 0 (.submit (.loaded "a" none 1.0))]
    ∃ slot, ((fresh .default "engine").run steps).registry.slot? "a" = some slot ∧
      slot.node.category = .medium ∧ (0.4 : Float) ≤ slot.node.scores.overall ∧
        slot.node.scores.overall < (0.8 : Float) := by
  intro steps
  have noRestore : ∀ step ∈ steps, ∀ snapshot, step.operation? ≠ some (.restore snapshot) := by
    simp [steps]
  have tracked : (((fresh .default "engine").run steps).registry.slot? "a").map
      (fun slot => (slot.node.category, slot.node.sampleCount)) = some (.medium, 1) := by
    decide +kernel
  obtain ⟨slot, found, same⟩ := Option.map_eq_some_iff.mp tracked
  obtain ⟨medium, counted⟩ := Prod.mk.inj same
  have bands := run_bands .default "engine" steps rfl noRestore "a" slot found
    (.inl (by rw [counted]; decide))
  rw [medium] at bands
  exact ⟨slot, found, medium, bands.2 (by decide)⟩

end Headroom.Engine
