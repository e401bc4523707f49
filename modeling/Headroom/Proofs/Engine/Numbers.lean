import Headroom.Proofs.Double
import Headroom.Proofs.Engine.Runs

/-!
# The numbers of a node are finite

Scores and usage are computed from readings of any size, yet every number that ends up
in a record is finite, so a document can hold each of them.  Only a restore brings in
numbers that were not computed by the engine.
-/

namespace Headroom

def Node.numbers (node : Node) : List Float :=
  node.scores.dimensions ++ [node.scores.overall, node.usage.cpuPercent, node.usage.memoryPercent]

def Node.IsFinite (node : Node) : Prop := ∀ number ∈ node.numbers, number.isFinite = true

namespace Scores

def IsFinite (scores : Scores Float) : Prop :=
  ∀ number ∈ scores.dimensions ++ [scores.overall], number.isFinite = true

theorem forall_numbers {scores : Scores Float} {p : Float → Prop} :
    (∀ number ∈ scores.dimensions ++ [scores.overall], p number) ↔
      p scores.cpu ∧ p scores.memory ∧ p scores.network ∧ p scores.availability ∧
        p scores.overall := by
  simp only [dimensions, List.cons_append, List.nil_append, List.forall_mem_cons,
    List.not_mem_nil, false_implies, implies_true, and_true]

theorem isFinite_initial : (initial : Scores Float).IsFinite :=
  forall_numbers.mpr ⟨rfl, rfl, rfl, rfl, rfl⟩

theorem isFinite_combine (scoring : Scoring Float) {cpu memory network availability : Float}
    (cpuFinite : cpu.isFinite = true) (memoryFinite : memory.isFinite = true)
    (networkFinite : network.isFinite = true) (availabilityFinite : availability.isFinite = true) :
    (scoring.combine cpu memory network availability).IsFinite :=
  forall_numbers.mpr ⟨cpuFinite, memoryFinite, networkFinite, availabilityFinite,
    Double.isFinite_clampUnit _⟩

theorem isFinite_scores (scoring : Scoring Float) (window : Window Float) :
    (scoring.scores window).IsFinite := by
  rw [Scoring.scores]
  by_cases empty : window.isEmpty = true
  · rw [if_pos empty]
    exact isFinite_combine scoring rfl rfl rfl rfl
  · rw [if_neg empty]
    exact isFinite_combine scoring (Double.isFinite_headroom _) (Double.isFinite_headroom _)
      (Double.isFinite_clampUnit _) (Double.isFinite_clampUnit _)

end Scores

namespace Usage

def IsFinite (usage : Usage Float) : Prop :=
  usage.cpuPercent.isFinite = true ∧ usage.memoryPercent.isFinite = true

theorem isFinite_none : (none : Usage Float).IsFinite := ⟨rfl, rfl⟩

theorem isFinite_usage (scoring : Scoring Float) (sample : Sample Float) :
    (scoring.usage sample).IsFinite := by
  have ceilingFinite : (Scoring.percentCeiling : Float).isFinite = true := rfl
  exact ⟨Double.isFinite_clampTo ceilingFinite _, Double.isFinite_clampTo ceilingFinite _⟩

end Usage

theorem Node.forall_numbers {node : Node} {p : Float → Prop} :
    (∀ number ∈ node.numbers, p number) ↔
      (∀ number ∈ node.scores.dimensions ++ [node.scores.overall], p number) ∧
        p node.usage.cpuPercent ∧ p node.usage.memoryPercent := by
  simp only [numbers, Scores.dimensions, List.cons_append, List.nil_append, List.forall_mem_cons,
    List.not_mem_nil, false_implies, implies_true, and_true, and_assoc]

theorem Node.isFinite_iff {node : Node} :
    node.IsFinite ↔ node.scores.IsFinite ∧ node.usage.IsFinite := Node.forall_numbers

namespace Engine

def HasFiniteNumbers (engine : Engine) : Prop :=
  ∀ id slot, engine.registry.slots.get? id = some slot → slot.node.IsFinite

def Operation.RestoresFinite (operation : Operation) : Prop :=
  ∀ snapshot, operation = .restore snapshot → ∀ node ∈ snapshot.nodes, node.IsFinite

theorem isFinite_seat {engine : Engine} (before : engine.HasFiniteNumbers) (id : String)
    (name : Option String) (now : Int64) : (engine.registry.seat id name now).node.IsFinite := by
  rw [Registry.seat]
  cases found : engine.registry.slots.get? id with
  | some slot => exact before id slot found
  | none => exact Node.isFinite_iff.mpr ⟨Scores.isFinite_initial, Usage.isFinite_none⟩

/-- What an operation computes is finite, and what it does not compute stays as it is. -/
theorem HasFiniteNumbers.act {engine : Engine} (before : engine.HasFiniteNumbers)
    (sound : engine.registry.Sound) {action : Action} (restored : action.operation.RestoresFinite) :
    (engine.act action).HasFiniteNumbers := by
  obtain ⟨_, effect⟩ := effect_act sound action
  refine effect.forall_slots (p := fun _ slot => slot.node.IsFinite) sound before ?observed
    ?described ?retired ?rescored ?flagged ?restored
  case observed =>
    intro reading _
    exact Node.isFinite_iff.mpr ⟨Scores.isFinite_scores _ _, Usage.isFinite_usage _ _⟩
  case described =>
    intro request _
    exact isFinite_seat before request.id request.name action.now
  case retired => exact fun _ _ finite => finite
  case rescored =>
    intro id slot finite
    exact Node.isFinite_iff.mpr ⟨Scores.isFinite_scores _ _, (Node.isFinite_iff.mp finite).2⟩
  case flagged => exact fun _ _ _ finite => finite
  case restored => exact fun snapshot same node member _ => restored snapshot same node member

/-- Records stay finite along a sequence of actions, as long as no restore brings in others. -/
theorem HasFiniteNumbers.follow (actions : List Action) :
    ∀ {engine : Engine}, engine.HasFiniteNumbers → engine.Sound →
      (∀ action ∈ actions, action.operation.RestoresFinite) →
      (engine.follow actions).HasFiniteNumbers := by
  induction actions with
  | nil => exact fun before _ _ => before
  | cons action rest ih =>
    intro engine before sound restored
    have first := before.act sound.registry (restored action List.mem_cons_self)
    exact ih first (sound.act action) fun later member =>
      restored later (List.mem_cons_of_mem _ member)

def Step.RestoresFinite (step : Step) : Prop :=
  ∀ snapshot, step.operation? = some (.restore snapshot) → ∀ node ∈ snapshot.nodes, node.IsFinite

theorem Step.restoresFinite_actions {step : Step} (restored : step.RestoresFinite) :
    ∀ action ∈ step.actions, action.operation.RestoresFinite := by
  intro action member
  cases step with
  | single now operation =>
    rw [List.mem_singleton.mp member]
    exact fun snapshot same => restored snapshot (congrArg _ same)
  | batch readings =>
    obtain ⟨timed, _, rfl⟩ := List.mem_map.mp member
    intro snapshot same
    cases same

/-- In every state that a run reaches, the numbers of the records are finite. -/
theorem HasFiniteNumbers.run {engine : Engine} (before : engine.HasFiniteNumbers)
    (sound : engine.Sound) {steps : List Step} (restored : ∀ step ∈ steps, step.RestoresFinite) :
    (engine.run steps).HasFiniteNumbers := by
  rw [run_eq_follow]
  refine before.follow _ sound fun action member => ?_
  obtain ⟨step, inside, among⟩ := List.mem_flatMap.mp member
  exact Step.restoresFinite_actions (restored step inside) action among

theorem hasFiniteNumbers_fresh (settings : Settings Float) (name : String) :
    (fresh settings name).HasFiniteNumbers := fun _ _ found => by cases found

end Engine

end Headroom
