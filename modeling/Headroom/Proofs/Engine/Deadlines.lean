import Headroom.Proofs.Engine.Acceptance
import Headroom.Proofs.Engine.Sweeping
import Headroom.Proofs.Engine.Windows

/-!
# Decisions about time

Three decisions compare the difference of two times with a configured duration: whether a sample
is too old, whether a decommissioned node has expired, and whether a node is silent.  Both the
duration and the difference are cut off at the ends of 64 bits.  As long as the duration itself
needs no cutting off, this is never noticed, whatever the times are.  A longer duration acts like
the greatest one, so a decision can come too early, but only once the true difference of the times
is at least the greatest one.
-/

namespace Headroom

namespace Time

/-! ## Exact arithmetic beside 64 bits -/

def exactly (seconds : UInt64) : Int := seconds.toNat * 1000

/-- The machine's subtraction, with the end of the range that is nearer where it overflows. -/
def cutOff (left right : Int64) : Int64 :=
  if left.toBitVec.ssubOverflow right.toBitVec then
    if left < right then Int64.minValue else Int64.maxValue
  else left - right

/-- A decision by a configured duration and the difference of two times, beside the same decision
over all integers. -/
structure Agrees (seconds : UInt64) (difference : Int) (decided exact : Prop) : Prop where
  /-- If the duration fits into 64 bits, the decision is the exact one. -/
  fitting : exactly seconds ≤ Int64.maxValue.toInt → (decided ↔ exact)
  /-- If it does not, the decision is another one at most where the difference does not fit, or
  is the last one that fits. -/
  beyond : ¬(decided ↔ exact) → Int64.maxValue.toInt ≤ difference

/-- A condition without times can be added to a decision. -/
theorem Agrees.and_left {seconds : UInt64} {difference : Int} {decided exact : Prop}
    (agrees : Agrees seconds difference decided exact) (condition : Prop) :
    Agrees seconds difference (condition ∧ decided) (condition ∧ exact) where
  fitting fits := and_congr_right fun _ => agrees.fitting fits
  beyond differ := agrees.beyond fun same => differ (and_congr_right fun _ => same)

theorem toInt_ofSeconds (seconds : UInt64) :
    (ofSeconds seconds).toInt = min (exactly seconds) Int64.maxValue.toInt := by
  have least : Int64.minValue.toInt ≤ 0 := by decide
  have greatest : 0 ≤ Int64.maxValue.toInt := by decide
  rw [ofSeconds, milliseconds, toInt_saturate, exactly]
  omega

/-- Saturation replaces the result of the machine's subtraction exactly where it overflows. -/
theorem before_eq_cutOff (left right : Int64) : before left right = cutOff left right := by
  have least : Int64.minValue.toInt = -2 ^ 63 := by decide
  have greatest : Int64.maxValue.toInt = 2 ^ 63 - 1 := by decide
  -- The flag does not tell the two ends apart; the order of the operands does.
  have overflow : left.toBitVec.ssubOverflow right.toBitVec = true ↔
      2 ^ 63 ≤ left.toInt - right.toInt ∨ left.toInt - right.toInt < -2 ^ 63 := by
    simp [BitVec.ssubOverflow]
  rw [← Int64.toInt_inj, before, toInt_saturate, cutOff]
  split
  · rename_i outside
    rw [overflow] at outside
    split
    · rename_i less
      rw [Int64.lt_iff_toInt_lt] at less
      omega
    · rename_i notLess
      rw [Int64.lt_iff_toInt_lt] at notLess
      omega
  · rename_i inside
    have exact : (left - right).toInt = left.toInt - right.toInt := by
      rw [← Int64.toInt_toBitVec, Int64.toBitVec_sub,
        BitVec.toInt_sub_of_not_ssubOverflow inside, Int64.toInt_toBitVec, Int64.toInt_toBitVec]
    rw [overflow] at inside
    omega

theorem elapsed_eq_cutOff (now past : Int64) : elapsed now past = cutOff now past :=
  before_eq_cutOff now past

/-- Whether a time lies further back than a duration is decided as over the integers. -/
theorem lt_before_iff {duration now time : Int64} (nonneg : 0 ≤ duration) :
    time < before now duration ↔ time.toInt < now.toInt - duration.toInt := by
  have positive : (0 : Int) ≤ duration.toInt := Int64.le_iff_toInt_le.mp nonneg
  have least := time.minValue_le_toInt
  have greatest := now.toInt_le
  rw [Int64.lt_iff_toInt_lt, before, toInt_saturate]
  omega

theorem agrees_elapsed (seconds : UInt64) (now past : Int64) :
    Agrees seconds (now.toInt - past.toInt) (ofSeconds seconds ≤ elapsed now past)
      (exactly seconds ≤ now.toInt - past.toInt) := by
  rw [le_elapsed_iff (ofSeconds_nonneg seconds), toInt_ofSeconds]
  constructor <;> omega

/-- The longest duration is over too early where the difference is the greatest one. -/
example : ofSeconds (2 ^ 64 - 1) ≤ elapsed Int64.maxValue 0 ∧
    ¬exactly (2 ^ 64 - 1) ≤ Int64.maxValue.toInt - 0 := by
  decide +kernel

theorem agrees_before (seconds : UInt64) (newest time : Int64) :
    Agrees seconds (newest.toInt - time.toInt) (time < before newest (ofSeconds seconds))
      (time.toInt < newest.toInt - exactly seconds) := by
  rw [lt_before_iff (ofSeconds_nonneg seconds), toInt_ofSeconds]
  constructor <;> omega

end Time

/-! ## The three decisions -/

namespace Window

variable {α : Type} {limits : Limits} {window : Window α} {sample : Sample α}

def outdated (limits : Limits) (newest other : Sample α) : Bool :=
  other.timestamp < Time.before newest.timestamp limits.maxAge

/-- The samples that the number of samples lets stay when one more comes. -/
def spared (limits : Limits) (window : Window α) : List (Sample α) :=
  window.samples.drop (window.samples.length + 1 - limits.maxSamples)

/-- In the order of times, the samples that are older than a cutoff are those in front. -/
theorem InOrder.dropWhile_eq_filter {recent : List (Sample α)} (ordered : InOrder recent)
    (cutoff : Int64) :
    recent.dropWhile (fun other => other.timestamp < cutoff) =
      recent.filter fun other => !decide (other.timestamp < cutoff) := by
  let older := fun (other : Sample α) => decide (other.timestamp < cutoff)
  have front : (recent.takeWhile older).filter (fun other => !older other) = [] := by
    refine List.filter_eq_nil_iff.mpr fun other member => ?_
    simp [List.mem_takeWhile_imp member]
  have left : (recent.dropWhile older).filter (fun other => !older other) =
      recent.dropWhile older := by
    refine List.filter_eq_self.mpr fun other member => ?_
    have young : cutoff ≤ other.timestamp := ordered.le_of_mem_dropWhile cutoff other member
    simpa [older] using young
  calc recent.dropWhile older
      = (recent.takeWhile older ++ recent.dropWhile older).filter (fun other => !older other) := by
        rw [List.filter_append, front, left, List.nil_append]
    _ = recent.filter (fun other => !older other) := by rw [List.takeWhile_append_dropWhile]

/-- A push evicts by age exactly the samples that are too old, as long as the times are in
order. -/
theorem samples_push (ordered : InOrder (window.samples ++ [sample])) :
    (window.push limits sample).samples =
      (window.spared limits ++ [sample]).filter fun other => !outdated limits sample other := by
  have sublist : (window.spared limits ++ [sample]).Sublist (window.samples ++ [sample]) :=
    (List.drop_sublist _ _).append (List.Sublist.refl _)
  have orderedRest : InOrder (window.spared limits ++ [sample]) := ordered.sublist sublist
  exact orderedRest.dropWhile_eq_filter _

theorem agrees_outdated (settings : WindowSettings) (newest other : Sample α) :
    Time.Agrees settings.maxAgeSeconds (newest.timestamp.toInt - other.timestamp.toInt)
      (outdated settings.limits newest other = true)
      (other.timestamp.toInt < newest.timestamp.toInt - Time.exactly settings.maxAgeSeconds) := by
  rw [outdated, decide_eq_true_iff]
  exact Time.agrees_before _ _ _

end Window

namespace Node

variable (settings : RegistrySettings) (node : Node) (now : Int64)

theorem agrees_isExpired :
    Time.Agrees settings.sundownRetentionSeconds (now.toInt - node.lastUpdated.toInt)
      (node.isExpired now settings.sundownRetention = true)
      (node.category = .sundown ∧ Time.exactly settings.sundownRetentionSeconds ≤
        now.toInt - node.lastUpdated.toInt) := by
  rw [isExpired_iff]
  exact (Time.agrees_elapsed _ _ _).and_left _

theorem agrees_isSilent :
    Time.Agrees settings.silenceTimeoutSeconds (now.toInt - node.silentSince.toInt)
      (node.isSilent now settings.silenceTimeout = true)
      (node.category ≠ .sundown ∧ Time.exactly settings.silenceTimeoutSeconds ≤
        now.toInt - node.silentSince.toInt) := by
  rw [isSilent_iff]
  exact (Time.agrees_elapsed _ _ _).and_left _

end Node

namespace Engine

/-- How an engine decides about time when it accepts a reading or sweeps at a time. -/
structure DecidesAt (settings : Settings Float) (now : Int64) (engine : Engine) : Prop where
  /-- Of the samples that there is room for, an accepted one evicts those that are too old. -/
  evicted : ∀ reading receipt, (engine.submit now reading).2 = .ok receipt →
    let newest : Sample Float := reading.sampleAt receipt.timestamp
    let recent := (engine.registry.window? reading.id).getD .empty
    ∃ window, (engine.submit now reading).1.registry.window? reading.id = some window ∧
      window.samples = (recent.spared settings.window.limits ++ [newest]).filter
        fun other => !Window.outdated settings.window.limits newest other
  outdated : ∀ newest other : Sample Float, Time.Agrees settings.window.maxAgeSeconds
    (newest.timestamp.toInt - other.timestamp.toInt)
    (Window.outdated settings.window.limits newest other = true)
    (other.timestamp.toInt <
      newest.timestamp.toInt - Time.exactly settings.window.maxAgeSeconds)
  collected : ∀ id node, engine.get? id = some node →
    Time.Agrees settings.registry.sundownRetentionSeconds (now.toInt - node.lastUpdated.toInt)
      (id ∈ (engine.sweep now).2.collected)
      (node.category = .sundown ∧ Time.exactly settings.registry.sundownRetentionSeconds ≤
        now.toInt - node.lastUpdated.toInt)
  flagged : ∀ id node, engine.get? id = some node →
    ∀ left, (engine.sweep now).1.get? id = some left →
      Time.Agrees settings.registry.silenceTimeoutSeconds (now.toInt - node.silentSince.toInt)
        (left.stale = true)
        (node.category ≠ .sundown ∧ Time.exactly settings.registry.silenceTimeoutSeconds ≤
          now.toInt - node.silentSince.toInt)

variable {engine : Engine} {now : Int64} {reading : Reading Float}

/-- Some samples, in the order of their times, are those that the slot of a node bears. -/
def Lined (engine : Engine) (id : String) : Prop :=
  ∃ samples, ∀ slot, engine.registry.slots.get? id = some slot →
    Bears engine.registry.limits samples slot

/-- The window of a node and a reading that is accepted for it are in the order of their times. -/
theorem Lined.ordered_accepted (lined : engine.Lined reading.id) (sound : engine.Sound)
    (accepted : engine.refusal? now reading = none) :
    Window.InOrder ((engine.registry.seat reading.id reading.name now).window.samples ++
      [reading.sampleAt (timeOf now reading)]) := by
  obtain ⟨samples, before⟩ := lined
  have bears : Bears engine.registry.limits _ (engine.registry.seat reading.id reading.name now) :=
    bears_seat reading.name before
  have timely : Window.Timely _ (reading.sampleAt (timeOf now reading)) := fun newest isLast =>
    le_timeOf_of_accepted sound.registry accepted (bears.last newest isLast)
  have ordered := bears.window.ordered.append timely
  exact ordered.sublist (bears.window.suffix.sublist.append (List.Sublist.refl _))

theorem window?_accepted (sound : engine.Sound) (accepted : engine.refusal? now reading = none) :
    (engine.accepted now reading).registry.window? reading.id =
      some ((engine.registry.seat reading.id reading.name now).window.push engine.registry.limits
        (reading.sampleAt (timeOf now reading))) := by
  rw [(sound_accepted sound accepted).window?_eq, lookup_accepted, if_pos rfl]
  rfl

/-- In an engine whose windows are in the order of their times, every decision about time is the
exact one. -/
theorem Lined.decidesAt (sound : engine.Sound) (lined : ∀ id, engine.Lined id) (now : Int64) :
    engine.DecidesAt engine.settings now where
  evicted reading receipt ok := by
    obtain ⟨accepted, rfl, reached⟩ := accepted_of_submit_ok sound ok
    have ordered := (lined reading.id).ordered_accepted sound accepted
    have recent : (engine.registry.window? reading.id).getD .empty =
        (engine.registry.seat reading.id reading.name now).window := by
      rw [sound.registry.window?_eq, Registry.seat]
      cases engine.registry.slots.get? reading.id <;> rfl
    rw [reached, recent, ← sound.limits]
    exact ⟨_, window?_accepted sound accepted, Window.samples_push ordered⟩
  outdated := Window.agrees_outdated _
  collected id node found := by
    have expired : id ∈ (engine.sweep now).2.collected ↔
        node.isExpired now engine.settings.registry.sundownRetention = true := by
      rw [mem_collected sound.registry, found]
      simp
    rw [expired]
    exact node.agrees_isExpired _ now
  flagged id node found left remains := by
    rw [get?, registry_sweep, get?_swept sound.registry, found, Option.map_eq_some_iff] at remains
    obtain ⟨kept, same, rfl⟩ := remains
    cases (Option.filter_eq_some_iff.mp same).1
    exact node.agrees_isSilent _ now

theorem lined_run (settings : Settings Float) (name : String) (steps : List Step) (id : String) :
    ((fresh settings name).run steps).Lined id := by
  have sound := (sound_fresh settings name).run steps
  have configured := (sound_fresh settings name).settings_run steps
  refine ⟨(fresh settings name).sampled id [] (steps.flatMap Step.actions), fun slot tracked => ?_⟩
  rw [sound.limits, configured]
  rw [run_eq_follow] at tracked
  exact bears_follow id _ (sound_fresh settings name) (fun _ found => by cases found) slot tracked

/-- In every state that a run reaches, whatever the times of the readings and of the restored
records are, and at every time, a sample is evicted by its age, a decommissioned node is
collected, and a node is flagged as silent exactly as exact arithmetic on times and durations
would have it, as long as the configured duration in milliseconds fits into 64 bits; otherwise
the decision can differ only where the difference of the two times is at least the greatest one.
Durations are the exact ones up to the greatest, and differences are those of the machine except
where it would overflow. -/
theorem run_deadlines (settings : Settings Float) (name : String) (steps : List Step)
    (now : Int64) :
    ((fresh settings name).run steps).DecidesAt settings now ∧
      (∀ seconds, (Time.ofSeconds seconds).toInt =
        min (Time.exactly seconds) Int64.maxValue.toInt) ∧
      (∀ left right, Time.before left right = Time.cutOff left right ∧
        Time.elapsed left right = Time.cutOff left right) := by
  have sound := (sound_fresh settings name).run steps
  have decides := Lined.decidesAt sound (lined_run settings name steps) now
  rw [(sound_fresh settings name).settings_run steps] at decides
  exact ⟨decides, Time.toInt_ofSeconds, fun left right =>
    ⟨Time.before_eq_cutOff left right, Time.elapsed_eq_cutOff left right⟩⟩

end Engine

end Headroom
