import Headroom.Proofs.Load

/-!
# Idle nodes

A node that does nothing, and whose heartbeats all arrive, has full headroom in every dimension.
Overall it has what the weights add up to.  They are accepted when this is one up to a tolerance,
so in exact arithmetic an idle node may score a little less than one overall, and an upper
boundary that lies this close to one keeps it out of the highest category.
-/

namespace Headroom

/-! ## What the checks guarantee -/

/-- The sum of accepted weights is one up to the tolerance. -/
theorem Weights.sum_of_validate {weights : Weights ℚ} (valid : weights.validate = .ok ()) :
    1 - tolerance ≤ Scalar.sum weights.toList ∧ Scalar.sum weights.toList ≤ 1 + tolerance := by
  have one : (1.0 : ℚ) = 1 := by norm_num
  simp only [validate, Guards.error_bind, Guards.ite_error_eq_ok, Guards.pure_eq_ok, not_or,
    not_lt, one] at valid
  obtain ⟨_, ⟨notAbove, notBelow⟩, _⟩ := valid
  exact ⟨sub_le_comm.mp notBelow, by rwa [← sub_le_iff_le_add']⟩

/-- Accepted thresholds lie in order inside the unit interval, and so do their margins. -/
structure Thresholds.Ordered (thresholds : Thresholds ℚ) : Prop where
  high_le_one : thresholds.high ≤ 1
  descent_le_ascent : thresholds.descent .high ≤ thresholds.ascent .high
  apart : thresholds.ascent .low ≤ thresholds.descent .high
  descent_lt : thresholds.descent .low < thresholds.ascent .high

theorem Thresholds.ordered_of_validate {thresholds : Thresholds ℚ}
    (valid : thresholds.validate = .ok ()) : thresholds.Ordered := by
  have zero : (0.0 : ℚ) = 0 := by norm_num
  have one : (1.0 : ℚ) = 1 := by norm_num
  simp only [validate, Guards.error_bind, Guards.ite_error_eq_ok, Guards.pure_eq_ok,
    Bool.or_eq_true, not_or, Bool.not_eq_true', Bool.not_eq_false, decide_eq_true_eq, not_le,
    not_lt] at valid
  obtain ⟨⟨⟨_, high⟩, ordered⟩, ⟨_, highMargin⟩, apart, _⟩ := valid
  simp only [Scalar.inUnit, Bool.and_eq_true, decide_eq_true_eq, zero, one] at high highMargin
  exact ⟨high.2, sub_le_self _ highMargin, apart, ordered⟩

theorem Settings.accepted_of_validate {settings : Settings ℚ} (valid : settings.validate = .ok ()) :
    settings.scoring.validate = .ok () ∧ settings.thresholds.validate = .ok () := by
  simp only [validate, Guards.bind_eq_ok, Guards.exists_unit] at valid
  exact ⟨valid.2.1, valid.2.2.1⟩

theorem Scoring.weights_of_validate {scoring : Scoring ℚ} (valid : scoring.validate = .ok ()) :
    scoring.weights.validate = .ok () := by
  simp only [validate, Guards.bind_eq_ok, Guards.exists_unit, Guards.error_bind,
    Guards.ite_error_eq_ok] at valid
  exact valid.2.2.2.2

/-! ## Who reaches the highest category -/

/-- The score from which on a category leads to the highest one, or stays it. -/
def Thresholds.entrance (thresholds : Thresholds ℚ) (current : Category) : ℚ :=
  if current = .high then thresholds.descent .high else thresholds.ascent .high

namespace Thresholds.Ordered

variable {thresholds : Thresholds ℚ}

theorem next_eq_high_iff (ordered : thresholds.Ordered) {current : Category}
    (remains : current ≠ .sundown) {score : ℚ} :
    thresholds.next current score = .high ↔ thresholds.entrance current ≤ score := by
  obtain ⟨_, descends, apart, below⟩ := ordered
  simp only [ascent, descent] at descends apart below
  cases current with
  | sundown => exact absurd rfl remains
  | _ =>
    simp only [next, band, entrance, ascent, descent]
    grind

/-- A full score leads to the highest category, wherever in the unit interval its boundary is. -/
theorem next_one (ordered : thresholds.Ordered) {current : Category}
    (remains : current ≠ .sundown) : thresholds.next current 1 = .high := by
  apply (ordered.next_eq_high_iff remains).mpr
  rw [entrance]
  split
  · exact ordered.descent_le_ascent.trans ordered.high_le_one
  · exact ordered.high_le_one

end Thresholds.Ordered

/-! ## Idle windows -/

/-- A sample without any load, in whose time every heartbeat arrived. -/
structure Sample.Idle (sample : Sample ℚ) : Prop where
  cpuLoad : sample.cpuLoad = 0
  memoryUsed : sample.memoryUsed = 0
  networkLatency : sample.networkLatency = 0
  networkThroughput : sample.networkThroughput = 0
  heartbeatRate : sample.heartbeatRate = 1

/-- Nothing is no share of any memory, not even of none. -/
theorem Sample.Idle.memoryRatio {sample : Sample ℚ} (idle : sample.Idle) :
    sample.memoryRatio = 0 := by
  have zero : (0.0 : ℚ) = 0 := by norm_num
  rw [Sample.memoryRatio, idle.memoryUsed, zero_div, zero, ite_self]

/-- The mean of a quantity that is the same in every sample. -/
theorem Window.mean_of_forall {window : Window ℚ} (filled : window.isEmpty = false)
    {quantity : Sample ℚ → ℚ} {value : ℚ}
    (same : ∀ sample ∈ window.samples, quantity sample = value) :
    window.mean? quantity = some value := by
  have size_ne_zero : (window.size : ℚ) ≠ 0 := by
    rw [Window.isEmpty, List.isEmpty_eq_false_iff] at filled
    exact Nat.cast_ne_zero.mpr (List.length_eq_zero_iff.not.mpr filled)
  have sum : Scalar.sum (window.samples.map quantity) = window.size * value := by
    rw [Scalar.sum_eq, List.map_congr_left same, List.map_const', List.sum_replicate, nsmul_eq_mul]
    rfl
  rw [Window.mean?, filled, if_neg Bool.false_ne_true, sum]
  exact congrArg some (mul_div_cancel_left₀ value size_ne_zero)

theorem headroom_zero : headroom (0 : ℚ) = 1 := by
  rw [headroom_eq, min_eq_right zero_le_one, max_self, sub_zero]

namespace Scoring

variable {scoring : Scoring ℚ}

theorem network_zero : scoring.network 0 0 = 1 := by
  have one : (1.0 : ℚ) = 1 := by norm_num
  rw [network, zero_div, zero_div, headroom_zero, mul_one, mul_one, one, add_sub_cancel,
    Scalar.clampUnit_eq, min_self, max_eq_right zero_le_one]

/-- Full headroom in every dimension counts as much as the weights do together. -/
theorem combine_one (valid : scoring.validate = .ok ()) :
    scoring.combine 1 1 1 1 = ⟨1, 1, 1, 1, min 1 (Scalar.sum scoring.weights.toList)⟩ := by
  have nonneg : 0 ≤ Scalar.sum scoring.weights.toList := by
    rw [Scalar.sum_eq]
    exact List.sum_nonneg (sound_of_validate valid).weights
  have weighted : List.zipWith (· * ·) scoring.weights.toList [1, 1, 1, 1] =
      scoring.weights.toList := by
    simp only [Weights.toList, List.zipWith_cons_cons, List.zipWith_nil_left, mul_one]
  rw [combine, overall, weighted, Scalar.clampUnit_eq,
    max_eq_right (le_min zero_le_one nonneg)]

/-- A window without load has full headroom, whether anything was reported or not. -/
theorem scores_of_idle {window : Window ℚ} (idle : ∀ sample ∈ window.samples, sample.Idle) :
    scoring.scores window = scoring.combine 1 1 1 1 := by
  have one : (1.0 : ℚ) = 1 := by norm_num
  cases filled : window.isEmpty with
  | true => rw [scores, filled, if_pos rfl, one]
  | false =>
    have mean {quantity : Sample ℚ → ℚ} {value : ℚ}
        (same : ∀ sample ∈ window.samples, quantity sample = value) :
        (window.mean? quantity).getD 0.0 = value := by
      rw [Window.mean_of_forall filled same, Option.getD_some]
    rw [scores, filled, if_neg Bool.false_ne_true]
    simp only [mean fun sample member => (idle sample member).cpuLoad,
      mean fun sample member => (idle sample member).memoryRatio,
      mean fun sample member => (idle sample member).networkLatency,
      mean fun sample member => (idle sample member).networkThroughput,
      mean fun sample member => (idle sample member).heartbeatRate,
      zero_div, headroom_zero, network_zero, Scalar.clampUnit_eq, min_self,
      max_eq_right (zero_le_one' ℚ)]

end Scoring

/-- Whatever settings are accepted, a node that has nothing in its window or only idle samples
has full headroom in every dimension, and overall the sum of the weights up to one, which is less
than one by the tolerance at most.  These are the scores of a new node exactly if the weights do
not fall short of one.  The scores of a new node lead to the highest category from every category
that can be left, and those of an idle node exactly if they reach the upper boundary, or the end
of its margin for a node that is in the highest category already. -/
theorem idle_headroom (settings : Settings ℚ) (valid : settings.validate = .ok ())
    (window : Window ℚ) (idle : ∀ sample ∈ window.samples, sample.Idle) :
    let scores := settings.scoring.scores window
    let total := Scalar.sum settings.scoring.weights.toList
    scores = ⟨1, 1, 1, 1, min 1 total⟩ ∧
      1 - Weights.tolerance ≤ scores.overall ∧
      (scores = .initial ↔ 1 ≤ total) ∧
      ∀ current, current ≠ .sundown →
        settings.thresholds.next current (Scores.initial : Scores ℚ).overall = .high ∧
          (settings.thresholds.next current scores.overall = .high ↔
            settings.thresholds.entrance current ≤ scores.overall) := by
  intro scores total
  have one : (1.0 : ℚ) = 1 := by norm_num
  obtain ⟨scoringValid, thresholdsValid⟩ := Settings.accepted_of_validate valid
  have ordered := Thresholds.ordered_of_validate thresholdsValid
  have atLeast := (Weights.sum_of_validate (Scoring.weights_of_validate scoringValid)).1
  have full : scores = ⟨1, 1, 1, 1, min 1 total⟩ :=
    (Scoring.scores_of_idle idle).trans (Scoring.combine_one scoringValid)
  have tolerance_nonneg : (0 : ℚ) ≤ Weights.tolerance := by norm_num [Weights.tolerance]
  refine ⟨full, ?_, ?_, fun current remains => ⟨?_, ordered.next_eq_high_iff remains⟩⟩
  · rw [full]
    exact le_min (sub_le_self 1 tolerance_nonneg) atLeast
  · rw [full, Scores.initial, one, Scores.mk.injEq]
    simp
  · rw [Scores.initial, one]
    exact ordered.next_one remains

/-- Without other settings, an idle node that was loaded before returns to the highest category. -/
theorem idle_headroom_default :
    let idle : Sample ℚ := ⟨0, 0, 0, 16, 0, 0, 1⟩
    let scores := (Scoring.default : Scoring ℚ).scores ⟨[idle, idle]⟩
    scores = .initial ∧ (Thresholds.default : Thresholds ℚ).next .low scores.overall = .high := by
  intro idle scores
  have idleSamples : ∀ sample ∈ [idle, idle], sample.Idle := by
    simpa using (⟨rfl, rfl, rfl, rfl, rfl⟩ : idle.Idle)
  obtain ⟨_, _, initial, leads⟩ :=
    idle_headroom .default (Guards.eq_ok_of_isOk (by decide +kernel)) ⟨[idle, idle]⟩ idleSamples
  have total : 1 ≤ Scalar.sum (Weights.default : Weights ℚ).toList := by decide +kernel
  have full : scores = .initial := initial.mpr total
  rw [full]
  exact ⟨rfl, (leads .low (by decide)).1⟩

/-- Weights that fall short of one by less than the tolerance, and an upper boundary of one: an
idle node scores less than a new one, and neither it nor an empty window reaches the highest
category. -/
theorem idle_below_boundary :
    let settings : Settings ℚ := { (Settings.default : Settings ℚ) with
      scoring.weights := ⟨0.25, 0.25, 0.25, 0.249999523162841796875⟩
      thresholds.high := 1.0 }
    let idle : Sample ℚ := ⟨0, 0, 0, 1, 0, 0, 1⟩
    settings.validate = .ok () ∧ idle.Idle ∧
      ∀ window ∈ [Window.empty, ⟨[idle]⟩],
        settings.scoring.scores window ≠ .initial ∧
          settings.thresholds.next .initial (settings.scoring.scores window).overall = .medium := by
  intro settings idle
  refine ⟨Guards.eq_ok_of_isOk (by decide +kernel), ⟨rfl, rfl, rfl, rfl, rfl⟩, ?_⟩
  have overall : ∀ window ∈ [Window.empty, ⟨[idle]⟩],
      (settings.scoring.scores window).overall ≠ 1.0 ∧
        settings.thresholds.next .initial (settings.scoring.scores window).overall = .medium := by
    rw [List.forall_mem_cons, List.forall_mem_singleton]
    decide +kernel
  intro window member
  refine ⟨fun same => ?_, (overall window member).2⟩
  exact (overall window member).1 (congrArg Scores.overall same)

end Headroom
