import Headroom.Proofs.Hysteresis
import Headroom.Settings

/-!
# Load and headroom

In exact arithmetic every step from the samples of a window to the category of its node keeps
the order of loads: a mean grows with its samples, a share of a baseline with the mean, and the
headroom that is left falls with the share; weights that are not negative carry this to the
overall score, and the classification to the category.  So of two windows of the same length,
the one that is loaded less at every position never scores lower and never leads lower.
-/

namespace Headroom

/-! ## Arithmetic without rounding -/

namespace Scalar

theorem sum_eq (values : List ℚ) : sum values = values.sum :=
  List.sum_eq_foldl.symm

theorem clamp_eq {low high : ℚ} (ordered : low ≤ high) (value : ℚ) :
    clamp low high value = max low (min high value) := by
  change (if value < low then low else if high < value then high else value) = _
  split_ifs with below above
  · rw [max_eq_left ((min_le_right high value).trans below.le)]
  · rw [min_eq_left above.le, max_eq_right ordered]
  · rw [min_eq_right (not_lt.mp above), max_eq_right (not_lt.mp below)]

theorem clamp_zero_one (value : ℚ) : clamp 0.0 1.0 value = max 0 (min 1 value) := by
  have zero : (0.0 : ℚ) = 0 := by norm_num
  have one : (1.0 : ℚ) = 1 := by norm_num
  calc clamp 0.0 1.0 value = clamp 0 1 value := by congr
    _ = max 0 (min 1 value) := clamp_eq zero_le_one value

theorem clampUnit_eq (value : ℚ) : clampUnit value = max 0 (min 1 value) :=
  clamp_zero_one value

theorem clampUnit_mono {lesser greater : ℚ} (le : lesser ≤ greater) :
    clampUnit lesser ≤ clampUnit greater := by
  rw [clampUnit_eq, clampUnit_eq]
  gcongr

end Scalar

theorem headroom_eq (share : ℚ) : headroom share = 1 - max 0 (min 1 share) := by
  have one : (1.0 : ℚ) = 1 := by norm_num
  rw [← Scalar.clamp_zero_one, ← one]
  rfl

theorem headroom_antitone {lesser greater : ℚ} (le : lesser ≤ greater) :
    headroom greater ≤ headroom lesser := by
  rw [headroom_eq, headroom_eq]
  gcongr

/-! ## What the checks guarantee -/

theorem Baseline.check_eq_ok {baseline : Baseline} {value : ℚ} :
    baseline.check value = .ok () ↔ 0 < value := by
  have zero : (0.0 : ℚ) = 0 := by norm_num
  rw [← zero]
  simp [check, Scalar.isFinite]

/-- What makes load count against a node: positive baselines, shares of both network quantities
and weights that are not negative. -/
structure Scoring.Sound (scoring : Scoring ℚ) : Prop where
  cpuCapacity : 0 < scoring.cpuCapacity
  latencyCeiling : 0 < scoring.latencyCeiling
  throughputCapacity : 0 < scoring.throughputCapacity
  latencyShare : 0 ≤ scoring.latencyShare ∧ scoring.latencyShare ≤ 1
  weights : ∀ weight ∈ scoring.weights.toList, 0 ≤ weight

/-- Settings that are accepted count load against a node in every quantity. -/
theorem Scoring.sound_of_validate {scoring : Scoring ℚ} (valid : scoring.validate = .ok ()) :
    scoring.Sound := by
  have zero : (0.0 : ℚ) = 0 := by norm_num
  have one : (1.0 : ℚ) = 1 := by norm_num
  simp only [Scoring.validate, Weights.validate, Guards.bind_eq_ok, Guards.exists_unit,
    Guards.error_bind, Baseline.check_eq_ok] at valid
  simp only [Guards.ite_error_eq_ok, Guards.pure_eq_ok] at valid
  obtain ⟨cpu, latency, throughput, share, weights, _⟩ := valid
  simp only [Scalar.inUnit, Bool.not_eq_true', Bool.not_eq_false, Bool.and_eq_true,
    decide_eq_true_eq, zero, one] at share
  simp only [List.any_eq_true, Scalar.isFinite, Bool.not_true, Bool.false_or, decide_eq_true_eq,
    not_exists, not_and, not_lt, zero] at weights
  exact ⟨cpu, latency, throughput, share, weights⟩

/-! ## Windows under load -/

structure Sample.Lighter (light heavy : Sample ℚ) : Prop where
  cpuLoad : light.cpuLoad ≤ heavy.cpuLoad
  memory : light.memoryUsed / light.memoryTotal ≤ heavy.memoryUsed / heavy.memoryTotal
  networkLatency : light.networkLatency ≤ heavy.networkLatency
  networkThroughput : light.networkThroughput ≤ heavy.networkThroughput
  heartbeatRate : heavy.heartbeatRate ≤ light.heartbeatRate

def Sample.Checked (sample : Sample ℚ) : Prop :=
  ∃ (reading : Reading ℚ) (timestamp : Int64), reading.validate = .ok () ∧
    sample = reading.sampleAt timestamp

theorem Sample.Checked.memoryRatio_eq {sample : Sample ℚ} (checked : sample.Checked) :
    sample.memoryRatio = sample.memoryUsed / sample.memoryTotal := by
  obtain ⟨reading, timestamp, valid, rfl⟩ := checked
  simp only [Reading.validate, Guards.error_bind, Guards.ite_error_eq_ok, Guards.bind_eq_ok,
    Guards.exists_unit] at valid
  obtain ⟨_, _, _, _, _, _, positive, _⟩ := valid
  exact if_neg positive

/-- Of checked samples, the one under less load has the smaller share of memory in use. -/
theorem Sample.forall₂_memoryRatio {light heavy : List (Sample ℚ)}
    (lighter : List.Forall₂ Lighter light heavy) :
    (∀ sample ∈ light, sample.Checked) → (∀ sample ∈ heavy, sample.Checked) →
      List.Forall₂ (fun light heavy => light.memoryRatio ≤ heavy.memoryRatio) light heavy := by
  induction lighter with
  | nil => exact fun _ _ => .nil
  | cons first rest ih =>
    intro lightChecked heavyChecked
    rw [List.forall_mem_cons] at lightChecked heavyChecked
    refine .cons ?_ (ih lightChecked.2 heavyChecked.2)
    rw [lightChecked.1.memoryRatio_eq, heavyChecked.1.memoryRatio_eq]
    exact first.memory

theorem Window.isEmpty_congr {first second : Window ℚ}
    (sameLength : first.samples.length = second.samples.length) :
    first.isEmpty = second.isEmpty := by
  rw [isEmpty, isEmpty, ← Bool.coe_iff_coe, List.isEmpty_iff_length_eq_zero, sameLength,
    List.isEmpty_iff_length_eq_zero]

/-- Where a quantity is less at every position of a window, so is its mean. -/
theorem Window.mean_mono {less more : Window ℚ} {quantity : Sample ℚ → ℚ}
    (le : List.Forall₂ (fun first second => quantity first ≤ quantity second) less.samples
      more.samples) :
    (less.mean? quantity).getD 0.0 ≤ (more.mean? quantity).getD 0.0 := by
  have sameLength := le.length_eq
  have sums : Scalar.sum (less.samples.map quantity) ≤ Scalar.sum (more.samples.map quantity) := by
    rw [Scalar.sum_eq, Scalar.sum_eq]
    exact (List.forall₂_map_left_iff.mpr (List.forall₂_map_right_iff.mpr le)).sum_le_sum
  rw [mean?, mean?, isEmpty_congr sameLength, size, size, sameLength]
  split
  · exact le_rfl
  · have nonneg : (0 : ℚ) ≤ more.samples.length := Nat.cast_nonneg _
    exact div_le_div_of_nonneg_right sums nonneg

structure Scores.AtLeast (higher lower : Scores ℚ) : Prop where
  cpu : lower.cpu ≤ higher.cpu
  memory : lower.memory ≤ higher.memory
  network : lower.network ≤ higher.network
  availability : lower.availability ≤ higher.availability
  overall : lower.overall ≤ higher.overall

namespace Scoring

variable {scoring : Scoring ℚ}

/-- Weights that are not negative carry the order of the dimensions to the overall score. -/
theorem Sound.combine_atLeast (sound : scoring.Sound)
    {cpu memory network availability cpu' memory' network' availability' : ℚ}
    (cpuLe : cpu' ≤ cpu) (memoryLe : memory' ≤ memory) (networkLe : network' ≤ network)
    (availabilityLe : availability' ≤ availability) :
    (scoring.combine cpu memory network availability).AtLeast
      (scoring.combine cpu' memory' network' availability') where
  cpu := cpuLe
  memory := memoryLe
  network := networkLe
  availability := availabilityLe
  overall := by
    obtain ⟨cpuWeight, memoryWeight, networkWeight, availabilityWeight⟩ :
        0 ≤ scoring.weights.cpu ∧ 0 ≤ scoring.weights.memory ∧ 0 ≤ scoring.weights.network ∧
          0 ≤ scoring.weights.availability := by
      simpa [Weights.toList] using sound.weights
    apply Scalar.clampUnit_mono
    rw [Scalar.sum_eq, Scalar.sum_eq]
    simp only [Weights.toList, List.zipWith_cons_cons, List.zipWith_nil_left, List.sum_cons,
      List.sum_nil]
    gcongr

/-- More latency and more throughput leave less headroom of the network. -/
theorem Sound.network_antitone (sound : scoring.Sound)
    {latency latency' throughput throughput' : ℚ} (latencyLe : latency ≤ latency')
    (throughputLe : throughput ≤ throughput') :
    scoring.network latency' throughput' ≤ scoring.network latency throughput := by
  obtain ⟨nonneg, atMostOne⟩ := sound.latencyShare
  have latencyShares : headroom (latency' / scoring.latencyCeiling) ≤
      headroom (latency / scoring.latencyCeiling) :=
    headroom_antitone (div_le_div_of_nonneg_right latencyLe sound.latencyCeiling.le)
  have throughputShares : headroom (throughput' / scoring.throughputCapacity) ≤
      headroom (throughput / scoring.throughputCapacity) :=
    headroom_antitone (div_le_div_of_nonneg_right throughputLe sound.throughputCapacity.le)
  have rest : (0 : ℚ) ≤ 1.0 - scoring.latencyShare := by
    norm_num
    linarith
  apply Scalar.clampUnit_mono
  exact add_le_add (mul_le_mul_of_nonneg_left latencyShares nonneg)
    (mul_le_mul_of_nonneg_left throughputShares rest)

/-- Of two windows of the same length, the one that is loaded less at every position scores at
least as high, dimension by dimension and overall. -/
theorem Sound.scores_atLeast (sound : scoring.Sound) {light heavy : Window ℚ}
    (lighter : List.Forall₂ Sample.Lighter light.samples heavy.samples)
    (ratios : List.Forall₂ (fun light heavy => light.memoryRatio ≤ heavy.memoryRatio)
      light.samples heavy.samples) :
    (scoring.scores light).AtLeast (scoring.scores heavy) := by
  rw [scores, scores, Window.isEmpty_congr lighter.length_eq]
  split
  · exact ⟨le_rfl, le_rfl, le_rfl, le_rfl, le_rfl⟩
  · apply sound.combine_atLeast
    · exact headroom_antitone (div_le_div_of_nonneg_right
        (Window.mean_mono (lighter.imp fun _ _ load => load.cpuLoad)) sound.cpuCapacity.le)
    · exact headroom_antitone (Window.mean_mono ratios)
    · exact sound.network_antitone
        (Window.mean_mono (lighter.imp fun _ _ load => load.networkLatency))
        (Window.mean_mono (lighter.imp fun _ _ load => load.networkThroughput))
    · exact Scalar.clampUnit_mono
        (Window.mean_mono (lighter.flip.imp fun _ _ load => load.heartbeatRate))

end Scoring

theorem Thresholds.dominates_of_le_rat {lesser greater : ℚ} (le : lesser ≤ greater) :
    Dominates greater lesser where
  below := fun _ below => le.trans_lt below
  above := fun _ above => above.trans le

/-- In exact arithmetic, of two windows of checked samples, the one that is loaded less at every
position scores at least as high in every dimension and overall, whatever accepted baselines and
weights it is scored with.  From the same category it leads to one that is at least as high,
however the thresholds lie. -/
theorem lighter_load (scoring : Scoring ℚ) (valid : scoring.validate = .ok ())
    (light heavy : Window ℚ) (lightChecked : ∀ sample ∈ light.samples, sample.Checked)
    (heavyChecked : ∀ sample ∈ heavy.samples, sample.Checked)
    (lighter : List.Forall₂ Sample.Lighter light.samples heavy.samples) :
    (scoring.scores light).AtLeast (scoring.scores heavy) ∧
      ∀ (thresholds : Thresholds ℚ) (current : Category),
        let lower := thresholds.next current (scoring.scores heavy).overall
        let higher := thresholds.next current (scoring.scores light).overall
        (current = .sundown ∧ lower = .sundown ∧ higher = .sundown) ∨
          (lower.Scored ∧ higher.Scored ∧ lower.rank ≤ higher.rank) := by
  have ratios := Sample.forall₂_memoryRatio lighter lightChecked heavyChecked
  have atLeast := (Scoring.sound_of_validate valid).scores_atLeast lighter ratios
  refine ⟨atLeast, fun thresholds current => ?_⟩
  by_cases gone : current = .sundown
  · rw [gone]
    exact .inl ⟨rfl, rfl, rfl⟩
  · right
    refine ⟨Category.scored_next gone, Category.scored_next gone, ?_⟩
    exact Thresholds.rank_next_mono (Thresholds.dominates_of_le_rat atLeast.overall) current

/-- Two samples with half the load and none, against two with full load. -/
theorem lighter_load_relieved :
    let sample := fun load : ℚ => (⟨0, load, 1, 2, 10, 0, 1⟩ : Sample ℚ)
    let light : Window ℚ := ⟨[sample (1 / 2), sample 0]⟩
    let heavy : Window ℚ := ⟨[sample 1, sample 1]⟩
    let scores := (Scoring.default : Scoring ℚ).scores
    (scores light).AtLeast (scores heavy) ∧
      ((Thresholds.default : Thresholds ℚ).next .low (scores heavy).overall).rank ≤
        ((Thresholds.default : Thresholds ℚ).next .low (scores light).overall).rank := by
  intro sample light heavy scores
  have checked (load : ℚ) (listed : load ∈ [0, 1 / 2, 1]) : (sample load).Checked := by
    refine ⟨⟨"a", none, none, load, 1, 2, 10, 0, 1, none⟩, 0, Guards.eq_ok_of_isOk ?_, rfl⟩
    simp only [List.mem_cons, List.not_mem_nil, or_false] at listed
    rcases listed with rfl | rfl | rfl <;> decide +kernel
  have lighter : List.Forall₂ Sample.Lighter light.samples heavy.samples :=
    .cons ⟨by norm_num, le_rfl, le_rfl, le_rfl, le_rfl⟩
      (.cons ⟨by norm_num, le_rfl, le_rfl, le_rfl, le_rfl⟩ .nil)
  have compared := lighter_load .default (Guards.eq_ok_of_isOk (by decide +kernel)) light heavy
    (by simp [light, checked]) (by simp [heavy, checked]) lighter
  refine ⟨compared.1, ?_⟩
  rcases compared.2 .default .low with gone | ranked
  · cases gone.1
  · exact ranked.2.2

end Headroom
