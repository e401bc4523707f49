import Headroom.Scoring
import Headroom.Proofs.Decimal
import Headroom.Proofs.Double.Sums

/-!
# Doubles within bounds

A double that is moved into an interval lies in it, whatever it was before, and so does the
headroom that is left of it.  What lies below a small bound is small itself: the order of
doubles is that of their multiples of the least positive double, and a bound on the multiple
is a bound on mantissa and exponent.
-/

namespace Headroom

open Float.Model Float.Model.UnpackedFloat

namespace Double

def Within (low high value : Float) : Prop := low ≤ value ∧ value ≤ high

instance decidableWithin (low high value : Float) : Decidable (Within low high value) :=
  inferInstanceAs (Decidable (_ ∧ _))

variable {low high value : Float}

theorem le_refl (defined : value.isNaN = false) : value ≤ value :=
  le_iff_position.mpr ⟨defined, defined, Int.le_refl _⟩

theorem le_of_not_lt {left right : Float} (leftDefined : left.isNaN = false)
    (rightDefined : right.isNaN = false) (notLess : ¬ left < right) : right ≤ left := by
  rw [lt_iff_position] at notLess
  exact le_iff_position.mpr ⟨rightDefined, leftDefined,
    Int.not_lt.mp fun less => notLess ⟨leftDefined, rightDefined, less⟩⟩

/-! ## Moving into an interval -/

theorem within_clamp (ordered : low ≤ high) (defined : value.isNaN = false) :
    Within low high (Scalar.clamp low high value) := by
  obtain ⟨lowDefined, highDefined, _⟩ := le_iff_position.mp ordered
  rw [Scalar.clamp]
  by_cases below : value < low
  · rw [if_pos below]
    exact ⟨le_refl lowDefined, ordered⟩
  rw [if_neg below]
  by_cases above : high < value
  · rw [if_pos above]
    exact ⟨ordered, le_refl highDefined⟩
  · rw [if_neg above]
    exact ⟨le_of_not_lt defined lowDefined below, le_of_not_lt highDefined defined above⟩

theorem within_clampTo (nonneg : 0.0 ≤ high) (value : Float) :
    Within 0.0 high (Scalar.clampTo high value) := by
  rw [Scalar.clampTo]
  by_cases undefined : Scalar.isUndefined value = true
  · rw [if_pos undefined]
    exact ⟨by decide, nonneg⟩
  · rw [if_neg undefined]
    exact within_clamp nonneg (Bool.not_eq_true _ ▸ undefined)

theorem within_clampUnit (value : Float) : Within 0.0 1.0 (Scalar.clampUnit value) :=
  within_clampTo (by decide) value

/-- What is taken from a double that is not less leaves a double that is not negative: no double
lies between the exact difference and the rounded one, zero included. -/
theorem nonneg_sub {left right : Float} (leftFinite : left.isFinite = true)
    (rightFinite : right.isFinite = true) (le : right ≤ left) : 0.0 ≤ left - right := by
  obtain ⟨defined, beside⟩ := position_sub leftFinite rightFinite
  have exact : 0 ≤ position left - position right :=
    Int.sub_nonneg_of_le (le_iff_position.mp le).2.2
  have zero : OnScale (position 0.0) := onScale_units (proper 0.0) rfl
  exact le_iff_position.mpr ⟨rfl, defined, (beside _ zero).1 exact⟩

theorem within_headroom (share : Float) : Within 0.0 1.0 (headroom share) := by
  rw [headroom]
  by_cases undefined : Scalar.isUndefined share = true
  · rw [if_pos undefined]
    exact ⟨by decide, by decide⟩
  · rw [if_neg undefined]
    have defined : share.isNaN = false := Bool.not_eq_true _ ▸ undefined
    have moved : Within 0.0 1.0 (Scalar.clamp 0.0 1.0 share) := within_clamp (by decide) defined
    exact ⟨nonneg_sub rfl (small_clamp defined).isFinite moved.2, sub_le rfl moved.1⟩

/-! ## Small doubles -/

/-- A bound on mantissa and exponent is one on the whole number that both stand for. -/
theorem below_iff_magnitude {limit exponent : Int} {mantissa : Nat} (positive : 0 < mantissa)
    (least : -1074 ≤ exponent) :
    Below limit mantissa exponent ↔ magnitude mantissa exponent < 2 ^ (limit + 1074).toNat := by
  have split (le : exponent ≤ limit) :
      2 ^ (limit + 1074).toNat = 2 ^ (limit - exponent).toNat * 2 ^ (exponent + 1074).toNat := by
    rw [← Nat.pow_add]
    exact congrArg _ (by omega)
  constructor
  · intro below
    rw [split below.exponent_le]
    exact Nat.mul_lt_mul_of_pos_right below.mantissa_lt (Nat.two_pow_pos _)
  · intro less
    have le : exponent ≤ limit := by
      by_contra greater
      have exceeds : 2 ^ (limit + 1074).toNat ≤ magnitude mantissa exponent :=
        calc 2 ^ (limit + 1074).toNat
            ≤ 2 ^ (exponent + 1074).toNat := Nat.pow_le_pow_right (by decide) (by omega)
          _ ≤ magnitude mantissa exponent := Nat.le_mul_of_pos_left _ positive
      omega
    rw [split le] at less
    exact ⟨le, Nat.lt_of_mul_lt_mul_right less⟩

/-- A double is small if it is not too many times the least positive one. -/
theorem small_iff {limit : Int} :
    Small limit value.toModel.unpack ↔
      value.isFinite = true ∧ (position value).natAbs < 2 ^ (limit + 1074).toNat := by
  have proper := proper value
  change _ ↔ value.toModel.unpack.isFinite = true ∧ (units value.toModel.unpack).natAbs < _
  cases unpacked : value.toModel.unpack with
  | infinity | notANumber =>
    constructor
    · intro less
      cases less
    · rintro ⟨finite, _⟩
      cases finite
  | zero sign =>
    constructor
    · intro less
      exact ⟨rfl, Nat.two_pow_pos _⟩
    · intro bounded
      trivial
  | finite sign mantissa exponent positive =>
    rw [unpacked] at proper
    rw [units, natAbs_apply, Int.natAbs_natCast, Small,
      below_iff_magnitude positive proper.1.least_le]
    constructor
    · intro less
      exact ⟨rfl, less⟩
    · rintro ⟨_, less⟩
      exact less

/-- What lies between zero and a small bound is small. -/
theorem Within.small (within : Within 0.0 high value) {limit : Int}
    (small : Small limit high.toModel.unpack) : Small limit value.toModel.unpack := by
  obtain ⟨_, bounded⟩ := small_iff.mp small
  obtain ⟨_, _, nonneg⟩ := le_iff_position.mp within.1
  obtain ⟨_, _, atMost⟩ := le_iff_position.mp within.2
  have zero : position 0.0 = 0 := rfl
  refine small_iff.mpr ⟨?_, by omega⟩
  refine (finite_or_infinity within.1).resolve_right fun infinite => ?_
  have greatest : position value = beyond := congrArg units infinite
  have highFinite := (onScale_units (proper high) small.isFinite).natAbs_lt
  have below : position high < beyond :=
    Int.lt_of_le_of_lt Int.le_natAbs (Int.ofNat_lt.mpr highFinite)
  omega

end Double

end Headroom
