import Mathlib.Logic.Basic

/-!
# Sequences of guards

Checks are sequences in which every guard may object.  A sequence passes exactly
when each of its guards passes, and these lemmas take it apart one guard at a time.
-/

namespace Headroom.Guards

variable {ε α β : Type}

@[simp]
theorem bind_eq_ok {first : Except ε α} {next : α → Except ε β} {result : β} :
    (first >>= next) = .ok result ↔ ∃ value, first = .ok value ∧ next value = .ok result := by
  cases first <;> simp [bind, Except.bind]

theorem map_eq_ok {first : Except ε α} {change : α → β} {result : β} :
    first.map change = .ok result ↔ ∃ value, first = .ok value ∧ change value = result := by
  cases first <;> simp [Except.map]

/-- An objection ends the sequence. -/
@[simp]
theorem error_bind {objection : ε} {next : α → Except ε β} :
    (.error objection >>= next) = .error objection := rfl

/-- A condition under which the sequence stops. -/
@[simp]
theorem ite_error_eq_ok {p : Prop} [Decidable p] {objection : ε} {rest : Except ε α} {value : α} :
    (if p then .error objection else rest) = .ok value ↔ ¬ p ∧ rest = .ok value := by
  by_cases holds : p <;> simp [holds]

/-- A condition without which the sequence stops. -/
@[simp]
theorem ite_ok_eq_ok {p : Prop} [Decidable p] {objection : ε} {rest : Except ε α} {value : α} :
    (if p then rest else .error objection) = .ok value ↔ p ∧ rest = .ok value := by
  by_cases holds : p <;> simp [holds]

@[simp]
theorem pure_eq_ok {value result : α} :
    (pure value : Except ε α) = .ok result ↔ value = result := by
  simp [pure, Except.pure]

theorem eq_ok_of_isOk {result : Except ε Unit} (passed : result.isOk = true) : result = .ok () := by
  cases result with
  | ok done => rfl
  | error objection => cases passed

theorem exists_unit {p : Unit → Prop} : (∃ value, p value) ↔ p () :=
  ⟨fun ⟨_, holds⟩ => holds, fun holds => ⟨(), holds⟩⟩

end Headroom.Guards
