import Headroom.Sample
import Headroom.Proofs.Guards
import Mathlib

/-!
# Readings in order

The checks of a reading object to the first fault they find.  Which readings pass
does not depend on that order: they are those in which no single quantity is at
fault.
-/

namespace Headroom

namespace Text

/-- The characters of a text without the white space at its two ends. -/
def trimmed (text : String) : List Char :=
  (text.toList.dropWhile isBlankChar).reverse.dropWhile isBlankChar

theorem isBlank_iff {text : String} : isBlank text = true ↔ trimmed text = [] := by
  simp only [isBlank, trimmed, List.all_eq_true, List.dropWhile_eq_nil_iff, List.mem_reverse]
  constructor
  · exact fun blank char member => blank char ((List.dropWhile_sublist _).mem member)
  · intro endsBlank
    have allDropped : text.toList.dropWhile isBlankChar = [] := by
      by_contra kept
      have headKept := List.head_dropWhile_not isBlankChar kept
      rw [endsBlank _ (List.head_mem kept)] at headKept
      cases headKept
    exact List.dropWhile_eq_nil_iff.mp allDropped

end Text

namespace Reading

/-- A reading of a node that has a load and uses nothing else. -/
def loaded (id : String) (timestamp : Option Int64) (cpuLoad : Float) : Reading Float where
  id := id
  name := none
  timestamp := timestamp
  cpuLoad := cpuLoad
  memoryUsed := 0.0
  memoryTotal := 1.0
  networkLatency := 0.0
  networkThroughput := 0.0
  heartbeatRate := 1.0
  container := none

inductive Faulty (reading : Reading Float) : Prop where
  | unnamed (blank : Text.trimmed reading.id = [])
  | quantity (value : Float)
      (measured : value ∈ [reading.cpuLoad, reading.memoryUsed, reading.networkLatency,
        reading.networkThroughput])
      (wrong : value.isFinite = false ∨ value < 0.0)
  | total (wrong : reading.memoryTotal.isFinite = false ∨ reading.memoryTotal ≤ 0.0)
  | excess (above : reading.memoryUsed > reading.memoryTotal)
  | heartbeat
      (wrong : reading.heartbeatRate.isFinite = false ∨
        ¬ (0.0 ≤ reading.heartbeatRate ∧ reading.heartbeatRate ≤ 1.0))
  | timestamp (time : Int64) (given : reading.timestamp = some time) (negative : time < 0)

theorem checkFinite_eq_ok {measure : Measure} {value : Float} {done : Unit} :
    checkFinite measure value = .ok done ↔ value.isFinite = true := by
  simp [checkFinite, Scalar.isFinite]

theorem checkNonNegative_eq_ok {measure : Measure} {value : Float} {done : Unit} :
    checkNonNegative measure value = .ok done ↔ value.isFinite = true ∧ ¬ value < 0.0 := by
  simp [checkNonNegative, checkFinite_eq_ok]

/-- A reading passes exactly when nothing is wrong with it. -/
theorem validate_eq_ok {reading : Reading Float} :
    reading.validate = .ok () ↔ ¬ reading.Faulty := by
  simp only [validate, Guards.error_bind, Guards.ite_error_eq_ok, Guards.bind_eq_ok,
    Guards.exists_unit, checkNonNegative_eq_ok, checkFinite_eq_ok, Text.isBlank_iff,
    Scalar.inUnit, Bool.not_eq_true', Bool.and_eq_false_iff, decide_eq_false_iff_not]
  constructor
  · rintro ⟨named, cpu, used, latency, throughput, totalFinite, positive, fits, rateFinite, rate,
      time⟩ faulty
    cases faulty with
    | unnamed blank => exact named blank
    | quantity value measured wrong =>
      have sound : ∀ quantity ∈ [reading.cpuLoad, reading.memoryUsed, reading.networkLatency,
          reading.networkThroughput], quantity.isFinite = true ∧ ¬ quantity < 0.0 := by
        simp only [List.forall_mem_cons, List.not_mem_nil, false_implies, implies_true, and_true]
        exact ⟨cpu, used, latency, throughput⟩
      obtain ⟨finite, notNegative⟩ := sound value measured
      cases wrong with
      | inl infinite =>
        rw [finite] at infinite
        cases infinite
      | inr negative => exact notNegative negative
    | total wrong =>
      cases wrong with
      | inl infinite =>
        rw [totalFinite] at infinite
        cases infinite
      | inr none => exact positive none
    | excess above => exact fits above
    | heartbeat wrong =>
      cases wrong with
      | inl infinite =>
        rw [rateFinite] at infinite
        cases infinite
      | inr outside => simp [outside] at rate
    | timestamp moment given negative =>
      rw [given] at time
      exact (Guards.ite_error_eq_ok.mp time).1 negative
  · intro sound
    have measured (value : Float) (member : value ∈ [reading.cpuLoad, reading.memoryUsed,
        reading.networkLatency, reading.networkThroughput]) :
        value.isFinite = true ∧ ¬ value < 0.0 :=
      ⟨by_contra fun wrong => sound (.quantity value member (.inl (by simpa using wrong))),
        fun wrong => sound (.quantity value member (.inr wrong))⟩
    have totalFinite : reading.memoryTotal.isFinite = true :=
      by_contra fun wrong => sound (.total (.inl (by simpa using wrong)))
    have rateFinite : reading.heartbeatRate.isFinite = true :=
      by_contra fun wrong => sound (.heartbeat (.inl (by simpa using wrong)))
    refine ⟨fun blank => sound (.unnamed blank), measured _ (by simp), measured _ (by simp),
      measured _ (by simp), measured _ (by simp), totalFinite,
      fun wrong => sound (.total (.inr wrong)), fun above => sound (.excess above), rateFinite,
      fun wrong => sound (.heartbeat (.inr (by tauto))), ?_⟩
    cases given : reading.timestamp with
    | none => rfl
    | some time => exact if_neg fun negative => sound (.timestamp time given negative)

structure InRange (reading : Reading Float) : Prop where
  quantity : ∀ value ∈ [reading.cpuLoad, reading.memoryUsed, reading.networkLatency,
    reading.networkThroughput], value.isFinite = true ∧ ¬ value < 0.0
  total : reading.memoryTotal.isFinite = true ∧ ¬ reading.memoryTotal ≤ 0.0
  fits : ¬ reading.memoryUsed > reading.memoryTotal
  heartbeat : reading.heartbeatRate.isFinite = true ∧
    0.0 ≤ reading.heartbeatRate ∧ reading.heartbeatRate ≤ 1.0

/-- Nothing but its id can be wrong with a reading whose quantities and time are in range. -/
theorem InRange.faulty_iff {reading : Reading Float} (inRange : reading.InRange)
    (timed : ∀ time, reading.timestamp = some time → ¬ time < 0) :
    reading.Faulty ↔ Text.trimmed reading.id = [] := by
  refine ⟨fun faulty => ?_, .unnamed⟩
  cases faulty with
  | unnamed blank => exact blank
  | quantity value measured wrong =>
    obtain ⟨finite, notNegative⟩ := inRange.quantity value measured
    simp only [finite, reduceCtorEq, false_or] at wrong
    exact absurd wrong notNegative
  | total wrong =>
    simp only [inRange.total.1, reduceCtorEq, false_or] at wrong
    exact absurd wrong inRange.total.2
  | excess above => exact absurd above inRange.fits
  | heartbeat wrong =>
    simp only [inRange.heartbeat.1, reduceCtorEq, false_or] at wrong
    exact absurd inRange.heartbeat.2 wrong
  | timestamp time given negative => exact absurd negative (timed time given)

/-- The quantities of a node without any load are in range. -/
theorem inRange_loaded_zero (id : String) (timestamp : Option Int64) :
    (loaded id timestamp 0.0).InRange where
  quantity := by
    simp only [loaded]
    decide +kernel
  total := by
    simp only [loaded]
    decide +kernel
  fits := by
    simp only [loaded]
    decide +kernel
  heartbeat := by
    simp only [loaded]
    decide +kernel

/-- A blank id is objected to before anything else is looked at. -/
theorem validate_blank {reading : Reading Float} (blank : Text.trimmed reading.id = []) :
    reading.validate = .error .emptyId := by
  rw [validate, if_pos (Text.isBlank_iff.mpr blank)]
  rfl

/-- A reading that passes has an id. -/
theorem named_of_validate {reading : Reading Float} (valid : reading.validate = .ok ()) :
    reading.id.isEmpty = false := by
  by_contra unnamed
  have empty : reading.id = "" := String.isEmpty_iff.mp (by simpa using unnamed)
  refine validate_eq_ok.mp valid (.unnamed ?_)
  rw [empty]
  rfl

end Reading

end Headroom
