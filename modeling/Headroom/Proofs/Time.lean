import Headroom.Time
import Mathlib

/-!
# Saturated times

A difference of two times is cut off at both ends of 64 bits.  A comparison with a
duration does not notice this: the greatest duration is also the greatest
difference, so the comparison comes out as it would over the integers.
-/

namespace Headroom.Time

/-- A time out of range is cut off at the nearer end. -/
theorem toInt_saturate (value : Int) :
    (saturate value).toInt =
      max Int64.minValue.toInt (min value Int64.maxValue.toInt) := by
  have ordered : Int64.minValue.toInt ≤ Int64.maxValue.toInt := by decide
  rw [saturate, Int64.ofIntClamp]
  split
  · rename_i aboveLeast
    split
    · rename_i belowGreatest
      rw [Int64.toInt_ofIntLE, min_eq_left belowGreatest, max_eq_right aboveLeast]
    · rename_i above
      rw [min_eq_right (not_le.mp above).le, max_eq_right ordered]
  · rename_i below
    rw [max_eq_left ((min_le_left _ _).trans (not_le.mp below).le)]

theorem saturate_mono {less more : Int} (le : less ≤ more) : saturate less ≤ saturate more := by
  rw [Int64.le_iff_toInt_le, toInt_saturate, toInt_saturate]
  exact max_le_max_left _ (min_le_min_right _ le)

/-- Whether a duration has passed is decided as over the integers. -/
theorem le_elapsed_iff {duration now past : Int64} (nonneg : 0 ≤ duration) :
    duration ≤ elapsed now past ↔ duration.toInt ≤ now.toInt - past.toInt := by
  have atLeast : Int64.minValue.toInt < duration.toInt :=
    lt_of_lt_of_le (by decide) (Int64.le_iff_toInt_le.mp nonneg)
  rw [Int64.le_iff_toInt_le, elapsed, toInt_saturate, le_max_iff, le_min_iff]
  constructor
  · intro passed
    exact (passed.resolve_left atLeast.not_ge).1
  · intro passed
    right
    exact ⟨passed, duration.toInt_le⟩

/-- The later it is, the more time has passed. -/
theorem elapsed_mono {now later : Int64} (forward : now ≤ later) (past : Int64) :
    elapsed now past ≤ elapsed later past :=
  saturate_mono (Int.sub_le_sub_right (Int64.le_iff_toInt_le.mp forward) _)

theorem before_le {now duration : Int64} (nonneg : 0 ≤ duration) : before now duration ≤ now := by
  have positive : (0 : Int) ≤ duration.toInt := Int64.le_iff_toInt_le.mp nonneg
  rw [Int64.le_iff_toInt_le, before, toInt_saturate, max_le_iff]
  exact ⟨now.minValue_le_toInt, (min_le_left _ _).trans (by omega)⟩

theorem before_mono {now later : Int64} (forward : now ≤ later) (duration : Int64) :
    before now duration ≤ before later duration :=
  saturate_mono (Int.sub_le_sub_right (Int64.le_iff_toInt_le.mp forward) _)

theorem ofSeconds_nonneg (seconds : UInt64) : 0 ≤ ofSeconds seconds := by
  rw [Int64.le_iff_toInt_le, ofSeconds, milliseconds, toInt_saturate, le_max_iff, le_min_iff]
  exact .inr ⟨Int.natCast_nonneg _, by decide⟩

end Headroom.Time
