import Headroom.Scoring
import Mathlib

/-!
# Finite doubles

A document holds a double only if it is finite, so the doubles that the engine keeps
about a node have to be.  Most of them were moved into an interval at the very end of
their computation.  Only a headroom is a difference of such a value, and a difference
of two small doubles is far from where doubles end.
-/

namespace Headroom.Double

open Float.Model Float.Model.UnpackedFloat

/-! ## Rounding keeps small numbers small -/

/-- The magnitude `mantissa · 2 ^ exponent` is below `2 ^ limit`. -/
structure Below (limit : Int) (mantissa : Nat) (exponent : Int) : Prop where
  exponent_le : exponent ≤ limit
  mantissa_lt : mantissa < 2 ^ (limit - exponent).toNat

def AtMost (limit : Int) : UnpackedFloat → Prop
  | .zero _ => True
  | .finite _ _ exponent _ => exponent ≤ limit
  | _ => False

theorem mantissa_shiftRight (extended : ExtendedMantissa) (count : Nat) :
    (extended >>> count).mantissa = extended.mantissa / 2 ^ count := by
  induction count with
  | zero => simp [HShiftRight.hShiftRight, Nat.repeat]
  | succ count ih =>
    have oneMore : (extended >>> (count + 1)).mantissa = (extended >>> count).mantissa / 2 := rfl
    rw [oneMore, ih, Nat.div_div_eq_div_mul, Nat.pow_succ]

theorem roundedMantissa_le (extended : ExtendedMantissa) :
    extended.roundedMantissa ≤ extended.mantissa + 1 := by
  obtain ⟨mantissa, roundBit, stickyBit⟩ := extended
  have odd : mantissa % 2 ≤ 1 := by omega
  cases roundBit <;> cases stickyBit <;>
    simp [ExtendedMantissa.roundedMantissa, ExtendedMantissa.accuracy,
      Accuracy.roundToNearestEven, odd]

theorem le_roundedMantissa (extended : ExtendedMantissa) :
    extended.mantissa ≤ extended.roundedMantissa := by
  obtain ⟨mantissa, roundBit, stickyBit⟩ := extended
  cases roundBit <;> cases stickyBit <;>
    simp [ExtendedMantissa.roundedMantissa, ExtendedMantissa.accuracy, Accuracy.roundToNearestEven]

namespace Below

variable {limit exponent : Int} {mantissa : Nat}

theorem decreaseExponent (below : Below limit mantissa exponent) (target : Int) :
    Below limit (decreaseExponent mantissa exponent target).1
      (decreaseExponent mantissa exponent target).2 := by
  obtain ⟨exponentLe, mantissaLt⟩ := below
  simp only [UnpackedFloat.decreaseExponent]
  generalize (exponent - target).toNat = count
  constructor
  · omega
  · have split : (limit - (exponent - count)).toNat = (limit - exponent).toNat + count := by omega
    rw [split, Nat.pow_add, Nat.shiftLeft_eq]
    exact Nat.mul_lt_mul_of_pos_right mantissaLt (Nat.two_pow_pos count)

theorem targetExponent_le (below : Below limit mantissa exponent) (small : -1074 ≤ limit) :
    Format.binary64.targetExponent (totalExponent mantissa exponent) ≤ limit := by
  have digits : (mantissa.log2 : Int) ≤ limit - exponent := by
    have exponentLe := below.exponent_le
    by_cases zero : mantissa = 0
    · simp [zero, exponentLe]
    · have := (Nat.log2_lt zero).mpr below.mantissa_lt
      omega
  simp only [Format.targetExponent, totalExponent, Format.mantissaBits, Format.minExponent]
  norm_num
  omega

/-- A shift to the exponent that the format asks for stays below the limit. -/
theorem shift (below : Below limit mantissa exponent) (small : -1074 ≤ limit)
    (accuracy : Accuracy) :
    Below limit
      (shiftToTargetExponent Format.binary64 mantissa exponent accuracy).1.mantissa
      (shiftToTargetExponent Format.binary64 mantissa exponent accuracy).2 := by
  have targetLe := below.targetExponent_le small
  obtain ⟨exponentLe, mantissaLt⟩ := below
  have start : (ExtendedMantissa.ofMantissaAndAccuracy mantissa accuracy).mantissa = mantissa := by
    rcases accuracy with _ | _ | _ | _ <;> rfl
  simp only [shiftToTargetExponent, shiftToExponent, mantissa_shiftRight, start]
  generalize Format.binary64.targetExponent (totalExponent mantissa exponent) = target at targetLe ⊢
  generalize counted : (target - exponent).toNat = count
  have shifted : exponent + count ≤ limit := by omega
  constructor
  · exact shifted
  · rw [Nat.div_lt_iff_lt_mul (Nat.two_pow_pos count), ← Nat.pow_add]
    have sum : (limit - (exponent + count)).toNat + count = (limit - exponent).toNat := by omega
    rwa [sum]

/-- A mantissa that was rounded up may have one more digit. -/
theorem succ (below : Below limit mantissa exponent) {rounded : Nat}
    (close : rounded ≤ mantissa + 1) : Below (limit + 1) rounded exponent := by
  obtain ⟨exponentLe, mantissaLt⟩ := below
  constructor
  · omega
  · have double : (limit + 1 - exponent).toNat = (limit - exponent).toNat + 1 := by omega
    rw [double, Nat.pow_succ]
    have positive := Nat.two_pow_pos (limit - exponent).toNat
    omega

/-- Rounding may carry into one more place, and no further. -/
theorem atMost_roundWithAccuracy (below : Below limit mantissa exponent) (small : -1074 ≤ limit)
    (sign : Sign) (accuracy : Accuracy) :
    AtMost (limit + 1) (roundWithAccuracy Format.binary64 sign mantissa exponent accuracy) := by
  have first := below.shift small accuracy
  simp only [roundWithAccuracy]
  generalize shiftToTargetExponent Format.binary64 mantissa exponent accuracy = once at first ⊢
  have rounded := first.succ (roundedMantissa_le once.1)
  have last := (rounded.shift (by omega) .exact).exponent_le
  split
  · trivial
  · exact last

theorem atMost_round (below : Below limit mantissa exponent) (small : -1074 ≤ limit)
    (sign : Sign) : AtMost (limit + 1) (round Format.binary64 sign mantissa exponent) := by
  have decreased := below.decreaseExponent
    (Format.binary64.targetExponent (totalExponent mantissa exponent))
  exact decreased.atMost_roundWithAccuracy small sign .exact

end Below

/-- A magnitude below a power of two stays close to it when it is brought into the format. -/
theorem atMost_normalize {limit exponent : Int} {mantissa : Int}
    (below : Below limit mantissa.natAbs exponent) (small : -1074 ≤ limit) (sign : Sign) :
    AtMost (limit + 1) (normalize Format.binary64 mantissa exponent sign) := by
  simp only [UnpackedFloat.normalize]
  cases order : compare mantissa 0 with
  | lt =>
    have negative : mantissa < 0 := by simpa [Int.compare_eq_lt] using order
    have magnitude : (-mantissa).toNat = mantissa.natAbs := by omega
    simpa [magnitude] using below.atMost_round small .negative
  | eq => trivial
  | gt =>
    have positive : 0 < mantissa := by simpa [Int.compare_eq_gt] using order
    have magnitude : mantissa.toNat = mantissa.natAbs := by omega
    simpa [magnitude] using below.atMost_round small .positive

theorem natAbs_apply (sign : Sign) (value : Int) : (sign.apply value).natAbs = value.natAbs := by
  cases sign <;> simp [Sign.apply]

def Small (limit : Int) : UnpackedFloat → Prop
  | .zero _ => True
  | .finite _ mantissa exponent _ => Below limit mantissa exponent
  | _ => False

theorem Below.add {limit exponent : Int} {first second : Nat} (left : Below limit first exponent)
    (right : Below limit second exponent) : Below (limit + 1) (first + second) exponent := by
  obtain ⟨exponentLe, firstLt⟩ := left
  have secondLt := right.mantissa_lt
  constructor
  · omega
  · have double : (limit + 1 - exponent).toNat = (limit - exponent).toNat + 1 := by omega
    rw [double, Nat.pow_succ]
    omega

theorem Below.of_le {limit exponent : Int} {mantissa other : Nat}
    (below : Below limit mantissa exponent) (le : other ≤ mantissa) : Below limit other exponent :=
  ⟨below.exponent_le, lt_of_le_of_lt le below.mantissa_lt⟩

/-- The difference of two doubles below a limit stays near it. -/
theorem atMost_sub {limit : Int} {left right : UnpackedFloat} (leftSmall : Small limit left)
    (rightSmall : Small limit right) (small : -1074 ≤ limit) :
    AtMost (limit + 2) (UnpackedFloat.sub Format.binary64 left right) := by
  cases left with
  | infinity sign => exact leftSmall.elim
  | notANumber => exact leftSmall.elim
  | zero sign =>
    cases right with
    | infinity sign => exact rightSmall.elim
    | notANumber => exact rightSmall.elim
    | zero other =>
      simp only [UnpackedFloat.sub]
      split <;> trivial
    | finite other mantissa exponent positive =>
      have exponentLe := rightSmall.exponent_le
      exact (by omega : exponent ≤ limit + 2)
  | finite sign mantissa exponent positive =>
    cases right with
    | infinity sign => exact rightSmall.elim
    | notANumber => exact rightSmall.elim
    | zero other =>
      have exponentLe := leftSmall.exponent_le
      exact (by omega : exponent ≤ limit + 2)
    | finite other mantissa' exponent' positive' =>
      have leftBelow := Below.decreaseExponent leftSmall (min exponent exponent')
      have rightBelow := Below.decreaseExponent rightSmall (min exponent exponent')
      have leftExponent :
          (decreaseExponent mantissa exponent (min exponent exponent')).2 =
            min exponent exponent' := by
        simp only [UnpackedFloat.decreaseExponent]
        omega
      have rightExponent :
          (decreaseExponent mantissa' exponent' (min exponent exponent')).2 =
            min exponent exponent' := by
        simp only [UnpackedFloat.decreaseExponent]
        omega
      rw [leftExponent] at leftBelow
      rw [rightExponent] at rightBelow
      have distance := Int.natAbs_sub_le
        (sign.apply (decreaseExponent mantissa exponent (min exponent exponent')).1)
        (other.apply (decreaseExponent mantissa' exponent' (min exponent exponent')).1)
      rw [natAbs_apply, natAbs_apply, Int.natAbs_natCast, Int.natAbs_natCast] at distance
      have normalized :=
        atMost_normalize ((leftBelow.add rightBelow).of_le distance) (by omega) .positive
      rw [Int.add_assoc] at normalized
      exact normalized

/-! ## Packing -/

theorem AtMost.isFinite {limit : Int} {value : UnpackedFloat} (atMost : AtMost limit value) :
    value.isFinite = true := by
  cases value with
  | infinity sign => exact atMost.elim
  | notANumber => exact atMost.elim
  | zero sign => rfl
  | finite sign mantissa exponent positive => rfl

theorem atMost_unpack {bits : BitVec Format.binary64.numBits} {limit : Int} (small : -1074 ≤ limit)
    (finite : unpackExponent bits ≠ -BitVec.ofNat Format.binary64.exponentBits 1)
    (field : ((unpackExponent bits).toNat : Int) ≤ limit + 1075) :
    AtMost limit (UnpackedFloat.unpack Format.binary64 bits) := by
  have bias : (Format.binary64.exponentBias : Int) = 1023 := rfl
  simp only [UnpackedFloat.unpack, if_neg finite]
  split
  · rename_i zero
    split
    · trivial
    · simp only [AtMost, zero, bias, BitVec.toNat_ofNat, Nat.zero_mod]
      omega
  · simp only [AtMost, bias]
    omega

/-- An unpacked double that is not beyond all doubles keeps its range when it is packed. -/
theorem AtMost.unpack_pack {value : UnpackedFloat} {limit : Int} (atMost : AtMost limit value)
    (small : -1074 ≤ limit) (near : limit ≤ 971) :
    AtMost limit (Float.Model.pack value).unpack := by
  rw [Float.Model.pack, Float.Model.unpack]
  cases value with
  | infinity sign => exact atMost.elim
  | notANumber => exact atMost.elim
  | zero sign =>
    refine atMost_unpack small (by simp [UnpackedFloat.pack, packedZero]) ?_
    simp only [UnpackedFloat.pack, packedZero, unpackExponent_packComponents]
    exact (by omega : (0 : Int) ≤ limit + 1075)
  | finite sign mantissa exponent positive =>
    have exponentLe : exponent ≤ limit := atMost
    have bias : (Format.binary64.exponentBias : Int) = 1023 := rfl
    have width : (2 : Nat) ^ Format.binary64.exponentBits = 2048 := rfl
    have stored : (Format.binary64.mantissaBitsWithoutImplicit : Int) = 52 := rfl
    simp only [UnpackedFloat.pack, bias, stored, width]
    generalize counted : (exponent + 1023 + 52).toNat = biased
    have biasedLe : (biased : Int) ≤ limit + 1075 := by omega
    split
    · omega
    · rename_i fits
      split
      · have field : (BitVec.ofNat Format.binary64.exponentBits biased).toNat = biased := by
          rw [BitVec.toNat_ofNat, width]
          exact Nat.mod_eq_of_lt (by omega)
        refine atMost_unpack small ?_ ?_
        · rw [unpackExponent_packComponents]
          intro same
          have largest : (-BitVec.ofNat Format.binary64.exponentBits 1).toNat = 2047 := rfl
          rw [same, largest] at field
          omega
        · rwa [unpackExponent_packComponents, field]
      · refine atMost_unpack small (by simp) ?_
        rw [unpackExponent_packComponents]
        exact (by omega : (0 : Int) ≤ limit + 1075)

/-- A finite double is at most the largest one. -/
theorem AtMost.of_isFinite {bits : BitVec Format.binary64.numBits}
    (finite : (UnpackedFloat.unpack Format.binary64 bits).isFinite = true) :
    AtMost 971 (UnpackedFloat.unpack Format.binary64 bits) := by
  have fieldLt : (unpackExponent bits).toNat < 2048 := (unpackExponent bits).isLt
  by_cases special : unpackExponent bits = -BitVec.ofNat Format.binary64.exponentBits 1
  · simp only [UnpackedFloat.unpack, if_pos special] at finite
    split at finite <;> cases finite
  · refine atMost_unpack (by decide) special ?_
    have largest : (-BitVec.ofNat Format.binary64.exponentBits 1).toNat = 2047 := rfl
    have differs : (unpackExponent bits).toNat ≠ 2047 := fun same =>
      special (BitVec.eq_of_toNat_eq (same.trans largest.symm))
    omega

theorem isFinite_neg {value : Float} (finite : value.isFinite = true) : (-value).isFinite = true := by
  have atMost : AtMost 971 value.toModel.unpack := AtMost.of_isFinite finite
  have negated : AtMost 971 value.toModel.unpack.neg := by
    cases unpacked : value.toModel.unpack <;> rw [unpacked] at atMost <;> exact atMost
  exact (negated.unpack_pack (by decide) (by decide)).isFinite

/-! ## The doubles of a node -/

theorem mantissa_unpack_lt {bits : BitVec Format.binary64.numBits} {sign : Sign} {mantissa : Nat}
    {exponent : Int} {positive : 0 < mantissa}
    (unpacked : UnpackedFloat.unpack Format.binary64 bits = .finite sign mantissa exponent positive) :
    mantissa < 2 ^ 53 := by
  simp only [UnpackedFloat.unpack] at unpacked
  split at unpacked
  · split at unpacked <;> cases unpacked
  · split at unpacked
    · split at unpacked
      · cases unpacked
      · cases unpacked
        have fraction : (unpackMantissa bits).toNat < 2 ^ 52 := (unpackMantissa bits).isLt
        omega
    · cases unpacked
      exact (1#1 ++ unpackMantissa bits).isLt

theorem unpack_one : (1.0 : Float).toModel.unpack = .finite .positive (2 ^ 52) (-52) (by decide) :=
  rfl

theorem unpack_zero : (0.0 : Float).toModel.unpack = .zero .positive := rfl

theorem lt_iff (left right : Float) :
    left < right ↔ left.toModel.unpack.lt right.toModel.unpack = true := decide_eq_true_iff

/-- A number that was moved between zero and one is small. -/
theorem small_clamp {value : Float} (defined : value.isNaN = false) :
    Small 1 (Scalar.clamp 0.0 1.0 value).toModel.unpack := by
  rw [Scalar.clamp]
  by_cases below : value < 0.0
  · rw [if_pos below, unpack_zero]
    trivial
  rw [if_neg below]
  by_cases above : (1.0 : Float) < value
  · rw [if_pos above, unpack_one]
    exact ⟨by decide, by decide⟩
  rw [if_neg above]
  have notBelow := mt (lt_iff value 0.0).mpr below
  have notAbove := mt (lt_iff 1.0 value).mpr above
  rw [unpack_zero] at notBelow
  rw [unpack_one] at notAbove
  change value.toModel.unpack.isNaN = false at defined
  cases unpacked : value.toModel.unpack with
  | infinity sign =>
    rw [unpacked] at notBelow notAbove
    cases sign
    · exact notBelow rfl
    · exact notAbove rfl
  | notANumber =>
    rw [unpacked] at defined
    cases defined
  | zero sign => trivial
  | finite sign mantissa exponent positive =>
    rw [unpacked] at notBelow notAbove
    cases sign with
    | negative => exact absurd rfl notBelow
    | positive =>
      have mantissaLt : mantissa < 2 ^ 53 := mantissa_unpack_lt unpacked
      have exponentLe : exponent ≤ -52 := by
        by_contra larger
        have order : compare (-52) exponent = .lt := Int.compare_eq_lt.mpr (by omega)
        simp [UnpackedFloat.lt, UnpackedFloat.compare, order] at notAbove
      constructor
      · omega
      · exact lt_of_lt_of_le mantissaLt (Nat.pow_le_pow_right (by decide) (by omega))

/-- An infinity does not stay between zero and a finite number. -/
theorem isFinite_clampTo {high : Float} (highFinite : high.isFinite = true) (value : Float) :
    (Scalar.clampTo high value).isFinite = true := by
  rw [Scalar.clampTo, Scalar.clamp]
  by_cases undefined : Scalar.isUndefined value = true
  · rw [if_pos undefined]
    rfl
  rw [if_neg undefined]
  by_cases below : value < 0.0
  · rw [if_pos below]
    rfl
  rw [if_neg below]
  by_cases above : high < value
  · rw [if_pos above, highFinite]
  rw [if_neg above]
  have notBelow := mt (lt_iff value 0.0).mpr below
  have notAbove := mt (lt_iff high value).mpr above
  rw [unpack_zero] at notBelow
  change ¬ value.toModel.unpack.isNaN = true at undefined
  change high.toModel.unpack.isFinite = true at highFinite
  change value.toModel.unpack.isFinite = true
  cases unpacked : value.toModel.unpack with
  | infinity sign =>
    rw [unpacked] at notBelow notAbove
    cases sign with
    | negative => exact absurd rfl notBelow
    | positive =>
      cases bound : high.toModel.unpack <;> rw [bound] at highFinite notAbove
      · cases highFinite
      · cases highFinite
      · exact absurd rfl notAbove
      · rename_i sign _ _ _
        cases sign <;> exact absurd rfl notAbove
  | notANumber =>
    rw [unpacked] at undefined
    exact absurd rfl undefined
  | zero sign => rfl
  | finite sign mantissa exponent positive => rfl

theorem isFinite_clampUnit (value : Float) : (Scalar.clampUnit value).isFinite = true :=
  isFinite_clampTo rfl value

/-- Headroom is finite even for a share that is infinite or undefined. -/
theorem isFinite_headroom (share : Float) : (headroom share).isFinite = true := by
  rw [headroom]
  by_cases undefined : Scalar.isUndefined share = true
  · rw [if_pos undefined]
    rfl
  · rw [if_neg undefined]
    have defined : share.isNaN = false := by simpa [Scalar.isUndefined] using undefined
    have oneSmall : Small 1 (1.0 : Float).toModel.unpack := by
      rw [unpack_one]
      exact ⟨by decide, by decide⟩
    exact ((atMost_sub oneSmall (small_clamp defined) (by decide)).unpack_pack (by decide)
      (by decide)).isFinite

end Headroom.Double
