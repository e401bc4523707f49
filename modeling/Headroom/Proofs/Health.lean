import Headroom.Health
import Headroom.Proofs.Lookup

/-!
# The condition of the whole

Of two conditions the worse one is the one of greater severity, so the condition of the whole is
the most severe one that a component reports, in whatever order the components are visited.
-/

namespace Headroom

namespace Condition

def severity : Condition → Nat
  | healthy => 0
  | degraded => 1
  | unhealthy => 2

theorem severity_injective : Function.Injective severity := by
  intro first second same
  cases first <;> cases second <;> first | rfl | cases same

theorem severity_worse (first second : Condition) :
    (first.worse second).severity = max first.severity second.severity := by
  cases first <;> cases second <;> rfl

/-- The order of two conditions makes no difference to what they make of a third. -/
theorem worse_right_comm (first second third : Condition) :
    (first.worse second).worse third = (first.worse third).worse second := by
  apply severity_injective
  simp only [severity_worse]
  exact max_right_comm _ _ _

/-- The worst of a list is one of its conditions, or the one to start from. -/
theorem foldl_worse_mem (conditions : List Condition) :
    ∀ start, conditions.foldl worse start ∈ start :: conditions := by
  induction conditions with
  | nil =>
    intro start
    exact List.mem_singleton_self start
  | cons condition rest ih =>
    intro start
    rw [List.foldl_cons]
    have either : start.worse condition = start ∨ start.worse condition = condition := by
      cases start <;> cases condition <;> decide
    have earlier : rest.foldl worse (start.worse condition) ∈ start.worse condition :: rest :=
      ih (start.worse condition)
    rw [List.mem_cons] at earlier ⊢
    cases earlier with
    | inl worst =>
      rw [worst]
      cases either with
      | inl first =>
        left
        exact first
      | inr second =>
        right
        rw [second]
        exact List.mem_cons_self
    | inr member =>
      right
      exact List.mem_cons_of_mem _ member

/-- None of a list is worse than the worst, nor is the one to start from. -/
theorem severity_le_foldl_worse (conditions : List Condition) :
    ∀ start, ∀ condition ∈ start :: conditions,
      condition.severity ≤ (conditions.foldl worse start).severity := by
  induction conditions with
  | nil =>
    intro start condition member
    rw [List.mem_singleton.mp member]
    exact le_rfl
  | cons first rest ih =>
    intro start condition member
    have bound := ih (start.worse first)
    have next := bound _ List.mem_cons_self
    rw [severity_worse, max_le_iff] at next
    rw [List.mem_cons, List.mem_cons] at member
    rcases member with rfl | rfl | later
    · exact next.1
    · exact next.2
    · exact bound condition (List.mem_cons_of_mem _ later)

end Condition

theorem Component.name_injective : Function.Injective Component.name := by
  intro component other same
  cases component <;> cases other <;> first | rfl | exact absurd same (by decide)

namespace Health

variable {health : Health}

/-- A report changes what is known of its own component. -/
theorem get?_note (now : Int64) (name : String) (problem : Option String) (other : String) :
    (health.note now name problem).components.get? other =
      if other = name then
        some ⟨if problem.isSome then .degraded else .healthy, problem, now⟩
      else health.components.get? other := by
  cases problem <;> exact Dictionary.get?_insert _ _ _ _

theorem get?_setHealthy (now : Int64) (name other : String) :
    (health.setHealthy now name).components.get? other =
      if other = name then some ⟨.healthy, none, now⟩ else health.components.get? other :=
  Dictionary.get?_insert _ _ _ _

theorem conditionOf?_congr {other : Health} {name : String}
    (same : health.components.get? name = other.components.get? name) :
    health.conditionOf? name = other.conditionOf? name := by
  rw [conditionOf?, conditionOf?, same]

/-- A component reports that it is degraded where there is a problem, and healthy otherwise. -/
structure Shows (health : Health) (component : Component) (problem : Prop) : Prop where
  degraded : problem → health.conditionOf? component.name = some .degraded
  healthy : ¬ problem → health.conditionOf? component.name = some .healthy

/-- Who notes whether there is a problem shows it. -/
theorem shows_note (now : Int64) (component : Component) (problem : Option String) :
    (health.note now component.name problem).Shows component (problem.isSome = true) := by
  constructor <;> intro known <;> simp [conditionOf?, get?_note, known]

/-- A note about one component leaves what the others show. -/
theorem Shows.note {component other : Component} {problem : Prop}
    (shown : health.Shows component problem) (now : Int64) (found : Option String)
    (differs : component ≠ other) : (health.note now other.name found).Shows component problem := by
  have kept : (health.note now other.name found).conditionOf? component.name =
      health.conditionOf? component.name := by
    rw [conditionOf?, get?_note, if_neg (Component.name_injective.ne differs)]
    rfl
  constructor
  · intro holds
    rw [kept]
    exact shown.degraded holds
  · intro fails
    rw [kept]
    exact shown.healthy fails

theorem Shows.congr {component : Component} {problem other : Prop}
    (shown : health.Shows component problem) (same : problem ↔ other) :
    health.Shows component other := by
  constructor
  · intro holds
    exact shown.degraded (same.mpr holds)
  · intro fails
    exact shown.healthy (mt same.mp fails)

/-- A condition that a component reports, where no component reports a worse one. -/
structure IsWorst (health : Health) (worst : Condition) : Prop where
  reported : ∃ name, health.conditionOf? name = some worst
  worst : ∀ name condition, health.conditionOf? name = some condition →
    condition.severity ≤ worst.severity

theorem mem_conditions {condition : Condition} :
    condition ∈ health.components.values.map (·.condition) ↔
      ∃ name, health.conditionOf? name = some condition := by
  simp only [List.mem_map, Dictionary.mem_values, conditionOf?, Option.map_eq_some_iff]
  tauto

/-- Where there are reports, the condition of the whole is the worst that is reported. -/
theorem isWorst_overall {name : String} (reports : (health.conditionOf? name).isSome = true) :
    health.IsWorst health.overall := by
  obtain ⟨condition, known⟩ := Option.isSome_iff_exists.mp reports
  have bound := Condition.severity_le_foldl_worse
    (health.components.values.map (·.condition)) .healthy
  refine ⟨?_, fun other condition reported =>
    bound condition (List.mem_cons_of_mem _ (mem_conditions.mpr ⟨other, reported⟩))⟩
  rcases List.mem_cons.mp (Condition.foldl_worse_mem
    (health.components.values.map (·.condition)) .healthy) with healthy | member
  · -- Nothing is better than the condition to start from, so the known one is this one.
    have atMost := bound condition (List.mem_cons_of_mem _ (mem_conditions.mpr ⟨name, known⟩))
    rw [healthy] at atMost
    have same : condition = .healthy := Condition.severity_injective (Nat.le_zero.mp atMost)
    exact ⟨name, by rw [known, same, overall, healthy]⟩
  · exact mem_conditions.mp member

/-- The order in which the components are visited makes no difference. -/
theorem overall_perm {conditions : List Condition}
    (order : conditions.Perm (health.components.values.map (·.condition))) :
    conditions.foldl Condition.worse .healthy = health.overall :=
  order.foldl_eq' (fun first _ second _ start => Condition.worse_right_comm start first second) _

end Health

end Headroom
