import Headroom.Json.Scanner
import Headroom.Proofs.Double.Order

/-!
# Numerals are finite doubles

The digits of a numeral are taken into 64 bits and scaled by powers of ten.  A quotient
by a power of ten stays as small as its digits were, and a product that becomes too large
is refused.  So a numeral denotes a finite double, or nothing; one that is not too long does
denote one.
-/

namespace Headroom

open Float.Model Float.Model.UnpackedFloat

namespace Double

/-! ## Products and quotients -/

section Arithmetic

variable {limit other : Int} {left right : UnpackedFloat}

inductive AtLeast (least : Int) : UnpackedFloat → Prop where
  | finite {mantissa : Nat} {exponent : Int} (large : least ≤ mantissa.log2 + exponent)
      (sign : Sign) (positive : 0 < mantissa) :
      AtLeast least (.finite sign mantissa exponent positive)

instance decidableAtLeast (least : Int) : DecidablePred (AtLeast least)
  | .finite sign mantissa exponent positive =>
    decidable_of_iff (least ≤ mantissa.log2 + exponent)
      ⟨fun large => .finite large sign positive, fun | .finite large _ _ => large⟩
  | .infinity _ => isFalse fun large => nomatch large
  | .notANumber => isFalse fun large => nomatch large
  | .zero _ => isFalse fun large => nomatch large

theorem AtLeast.mono {least less : Int} {value : UnpackedFloat} (large : AtLeast least value)
    (le : less ≤ least) : AtLeast less value := by
  obtain ⟨large, sign, positive⟩ := large
  exact .finite (le.trans large) sign positive

theorem AtLeast.isFinite {least : Int} {value : UnpackedFloat} (large : AtLeast least value) :
    value.isFinite = true := by
  obtain ⟨large, sign, positive⟩ := large
  rfl

theorem Small.mono (small : Small limit left) (le : limit ≤ other) : Small other left := by
  cases left with
  | infinity sign => exact small.elim
  | notANumber => exact small.elim
  | zero sign => trivial
  | finite sign mantissa exponent positive =>
    obtain ⟨exponentLe, mantissaLt⟩ := small
    exact ⟨by omega, mantissaLt.trans_le (Nat.pow_le_pow_right (by decide) (by omega))⟩

theorem Small.isFinite (small : Small limit left) : left.isFinite = true := by
  cases left with
  | infinity sign => exact small.elim
  | notANumber => exact small.elim
  | zero sign => rfl
  | finite sign mantissa exponent positive => rfl

instance decidableSmall (limit : Int) : DecidablePred (Small limit)
  | .zero _ => isTrue trivial
  | .finite _ mantissa exponent _ =>
    decidable_of_iff (exponent ≤ limit ∧ mantissa < 2 ^ (limit - exponent).toNat)
      ⟨fun below => ⟨below.1, below.2⟩, fun below => ⟨below.exponent_le, below.mantissa_lt⟩⟩
  | .infinity _ => isFalse fun small => small.elim
  | .notANumber => isFalse fun small => small.elim

/-- A packed double has 53 binary places before its exponent. -/
theorem AtMost.small_unpack_pack (atMost : AtMost limit left) (small : -1074 ≤ limit)
    (near : limit ≤ 971) : Small (limit + 53) (Float.Model.pack left).unpack := by
  have packed := atMost.unpack_pack small near
  cases same : (Float.Model.pack left).unpack with
  | infinity sign =>
    rw [same] at packed
    exact packed.elim
  | notANumber =>
    rw [same] at packed
    exact packed.elim
  | zero sign => trivial
  | finite sign mantissa exponent positive =>
    rw [same] at packed
    have exponentLe : exponent ≤ limit := packed
    have mantissaLt : mantissa < 2 ^ 53 := mantissa_unpack_lt same
    exact ⟨by omega, mantissaLt.trans_le (Nat.pow_le_pow_right (by decide) (by omega))⟩

/-- A product of finite doubles is defined; it may be infinite. -/
theorem isNaN_mul (leftFinite : left.isFinite = true) (rightFinite : right.isFinite = true) :
    (UnpackedFloat.mul Format.binary64 left right).isNaN = false := by
  cases left with
  | infinity sign => cases leftFinite
  | notANumber => cases leftFinite
  | zero sign =>
    cases right with
    | infinity sign => cases rightFinite
    | notANumber => cases rightFinite
    | zero sign => rfl
    | finite sign mantissa exponent positive => rfl
  | finite sign mantissa exponent positive =>
    cases right with
    | infinity sign => cases rightFinite
    | notANumber => cases rightFinite
    | zero sign => rfl
    | finite sign' mantissa' exponent' positive' =>
      simp only [UnpackedFloat.mul, roundWithAccuracy]
      split <;> rfl

/-- What is neither undefined nor too large for a double is packed as a finite one. -/
theorem isFinite_unpack_pack (defined : left.isNaN = false)
    (bounded : (Float.Model.pack left).unpack.isInf = false) :
    (Float.Model.pack left).unpack.isFinite = true := by
  have infinite (sign : Sign) :
      (UnpackedFloat.unpack Format.binary64 (packedInfinity Format.binary64 sign)).isInf = true := by
    simp [packedInfinity, UnpackedFloat.unpack, UnpackedFloat.isInf]
  cases left with
  | notANumber => cases defined
  | infinity sign => exact absurd (bounded.symm.trans (infinite sign)) (by decide)
  | zero sign =>
    have atMost : AtMost 0 (.zero sign) := trivial
    exact (atMost.unpack_pack (by decide) (by decide)).isFinite
  | finite sign mantissa exponent positive =>
    by_cases near : exponent ≤ 971
    · have atMost : AtMost 971 (.finite sign mantissa exponent positive) := near
      exact (atMost.unpack_pack (by decide) (by decide)).isFinite
    · have tooLarge : (Float.Model.pack (.finite sign mantissa exponent positive)).unpack =
          UnpackedFloat.unpack Format.binary64 (packedInfinity Format.binary64 sign) := by
        have bias : (Format.binary64.exponentBias : Int) = 1023 := rfl
        have width : (2 : Nat) ^ Format.binary64.exponentBits = 2048 := rfl
        have stored : (Format.binary64.mantissaBitsWithoutImplicit : Int) = 52 := rfl
        rw [Float.Model.pack, Float.Model.unpack]
        simp only [UnpackedFloat.pack, bias, width, stored]
        rw [if_pos (by omega)]
      rw [tooLarge, infinite] at bounded
      cases bounded

theorem Below.mul {mantissa mantissa' : Nat} {exponent exponent' : Int}
    (below : Below limit mantissa exponent) (below' : Below other mantissa' exponent') :
    Below (limit + other) (mantissa * mantissa') (exponent + exponent') := by
  obtain ⟨exponentLe, mantissaLt⟩ := below
  obtain ⟨exponentLe', mantissaLt'⟩ := below'
  constructor
  · omega
  · have split : (limit + other - (exponent + exponent')).toNat =
        (limit - exponent).toNat + (other - exponent').toNat := by omega
    rw [split, Nat.pow_add]
    exact Nat.mul_lt_mul'' mantissaLt mantissaLt'

/-- The exponent of a product is bounded by those of its factors. -/
theorem atMost_mul (leftSmall : Small limit left) (rightSmall : Small other right)
    (small : -1074 ≤ limit + other) :
    AtMost (limit + other + 1) (UnpackedFloat.mul Format.binary64 left right) := by
  cases left with
  | infinity sign => exact leftSmall.elim
  | notANumber => exact leftSmall.elim
  | zero sign =>
    cases right with
    | infinity sign => exact rightSmall.elim
    | notANumber => exact rightSmall.elim
    | zero sign => trivial
    | finite sign mantissa exponent positive => trivial
  | finite sign mantissa exponent positive =>
    cases right with
    | infinity sign => exact rightSmall.elim
    | notANumber => exact rightSmall.elim
    | zero sign => trivial
    | finite sign' mantissa' exponent' positive' =>
      exact (Below.mul leftSmall rightSmall).atMost_roundWithAccuracy small (sign * sign') .exact

/-- A quotient by a number that is at least `2 ^ least` has `least` binary places fewer. -/
theorem Below.divCore {least exponent exponent' : Int} {mantissa mantissa' : Nat}
    (below : Below limit mantissa exponent) (positive : 0 < mantissa) (positive' : 0 < mantissa')
    (large : least ≤ mantissa'.log2 + exponent') (small : -1074 ≤ limit - least) :
    let quotient := UnpackedFloat.divCore Format.binary64 mantissa exponent mantissa' exponent'
    Below (limit - least) quotient.1 quotient.2.1 := by
  obtain ⟨exponentLe, mantissaLt⟩ := below
  have digits : (mantissa.log2 : Int) < limit - exponent := by
    have := (Nat.log2_lt positive.ne').mpr mantissaLt
    omega
  simp only [UnpackedFloat.divCore]
  generalize chosen : min (exponent - exponent') _ = target
  have targetLe : target ≤ limit - least := by
    simp only [Format.targetExponent, totalExponent, Format.mantissaBits,
      Format.minExponent] at chosen
    norm_num at chosen
    omega
  have shiftLe : target ≤ exponent - exponent' := by omega
  refine ⟨targetLe, ?_⟩
  rw [Nat.div_lt_iff_lt_mul positive', Nat.shiftLeft_eq]
  calc mantissa * 2 ^ (exponent - exponent' - target).toNat
      < 2 ^ (limit - exponent).toNat * 2 ^ (exponent - exponent' - target).toNat :=
        Nat.mul_lt_mul_of_pos_right mantissaLt (Nat.two_pow_pos _)
    _ = 2 ^ ((limit - exponent).toNat + (exponent - exponent' - target).toNat) :=
        (Nat.pow_add _ _ _).symm
    _ ≤ 2 ^ ((limit - least - target).toNat + mantissa'.log2) :=
        Nat.pow_le_pow_right (by decide) (by omega)
    _ = 2 ^ (limit - least - target).toNat * 2 ^ mantissa'.log2 := Nat.pow_add _ _ _
    _ ≤ 2 ^ (limit - least - target).toNat * mantissa' :=
        Nat.mul_le_mul_left _ (Nat.log2_self_le positive'.ne')

/-- The exponent of a quotient is bounded from above where the divisor is bounded from below. -/
theorem atMost_div {least : Int} (leftSmall : Small limit left) (rightLarge : AtLeast least right)
    (small : -1074 ≤ limit - least) :
    AtMost (limit - least + 1) (UnpackedFloat.div Format.binary64 left right) := by
  obtain ⟨large, sign', positive'⟩ := rightLarge
  cases left with
  | infinity sign => exact leftSmall.elim
  | notANumber => exact leftSmall.elim
  | zero sign => trivial
  | finite sign mantissa exponent positive =>
    have quotient := Below.divCore leftSmall positive positive' large small
    exact quotient.atMost_roundWithAccuracy small (sign / sign') _

end Arithmetic

/-! ## Numbers with all their binary places

A mantissa of at least 53 binary places loses some of them, and 53 are left. -/

section Places

variable {mantissa : Nat} (places : 52 ≤ mantissa.log2) (exponent : Int)

include places

/-- A shift to the exponent of the format leaves all binary places of a normal number in use. -/
theorem shift_places (inRange : -1022 ≤ mantissa.log2 + exponent) (accuracy : Accuracy) :
    let shifted := shiftToTargetExponent Format.binary64 mantissa exponent accuracy
    shifted.1.mantissa.log2 = 52 ∧ shifted.2 + 52 = mantissa.log2 + exponent := by
  have nonzero : mantissa ≠ 0 := by
    rintro rfl
    simp at places
  have start : (ExtendedMantissa.ofMantissaAndAccuracy mantissa accuracy).mantissa = mantissa := by
    rcases accuracy with _ | _ | _ | _ <;> rfl
  have target : Format.binary64.targetExponent (totalExponent mantissa exponent) =
      mantissa.log2 + exponent - 52 := by
    simp only [Format.targetExponent, totalExponent, Format.mantissaBits, Format.minExponent]
    norm_num
    omega
  simp only [shiftToTargetExponent, shiftToExponent, mantissa_shiftRight, start, target]
  have count : (mantissa.log2 + exponent - 52 - exponent : Int).toNat = mantissa.log2 - 52 := by omega
  rw [count]
  constructor
  · have split : mantissa.log2 = 52 + (mantissa.log2 - 52) := by omega
    have lower := Nat.log2_self_le nonzero
    have upper := Nat.lt_log2_self (n := mantissa)
    have reaches : 2 ^ 52 ≤ mantissa / 2 ^ (mantissa.log2 - 52) := by
      rw [Nat.le_div_iff_mul_le (Nat.two_pow_pos _), ← Nat.pow_add, ← split]
      exact lower
    have stays : mantissa / 2 ^ (mantissa.log2 - 52) < 2 ^ 53 := by
      rw [Nat.div_lt_iff_lt_mul (Nat.two_pow_pos _), ← Nat.pow_add]
      exact upper.trans_le (Nat.pow_le_pow_right (by decide) (by omega))
    exact (Nat.log2_eq_iff (by omega)).mpr ⟨reaches, stays⟩
  · omega

/-- A normal number is rounded to all binary places, in the same position or the next one. -/
theorem round_places (inRange : -1022 ≤ mantissa.log2 + exponent) (sign : Sign)
    (accuracy : Accuracy) :
    ∃ rounded last positive,
      roundWithAccuracy Format.binary64 sign mantissa exponent accuracy =
          .finite sign rounded last positive ∧
        rounded.log2 = 52 ∧ mantissa.log2 + exponent ≤ last + 52 ∧
        last + 52 ≤ mantissa.log2 + exponent + 1 := by
  obtain ⟨firstPlaces, firstExponent⟩ := shift_places places exponent inRange accuracy
  simp only [roundWithAccuracy]
  generalize shiftToTargetExponent Format.binary64 mantissa exponent accuracy = first at *
  have nonzero : first.1.mantissa ≠ 0 := by
    intro zero
    rw [zero] at firstPlaces
    cases firstPlaces
  obtain ⟨reaches, stays⟩ := (Nat.log2_eq_iff nonzero).mp firstPlaces
  have notLess := le_roundedMantissa first.1
  have notMore := roundedMantissa_le first.1
  have roundedPlaces : 52 ≤ first.1.roundedMantissa.log2 :=
    (Nat.le_log2 (by omega)).mpr (by omega)
  have roundedLt : first.1.roundedMantissa.log2 < 54 := (Nat.log2_lt (by omega)).mpr (by omega)
  obtain ⟨lastPlaces, lastExponent⟩ :=
    shift_places roundedPlaces first.2 (by omega) .exact
  have positive : (shiftToTargetExponent Format.binary64 first.1.roundedMantissa first.2
      .exact).1.mantissa ≠ 0 := by
    intro zero
    rw [zero] at lastPlaces
    cases lastPlaces
  rw [dif_neg positive]
  exact ⟨_, _, _, rfl, lastPlaces, by omega, by omega⟩

end Places

/-- A number with all its binary places that is not beyond all doubles is packed as it is. -/
theorem atLeast_unpack_pack {mantissa : Nat} {exponent : Int} (places : mantissa.log2 = 52)
    (small : -1074 ≤ exponent) (near : exponent ≤ 971) (sign : Sign) (positive : 0 < mantissa) :
    AtLeast (exponent + 52)
      (Float.Model.pack (.finite sign mantissa exponent positive)).unpack := by
  have range := (Nat.log2_eq_iff positive.ne').mp places
  rw [unpack_pack_normal sign positive range.1 range.2 small near]
  exact .finite (by omega) _ _

end Double

namespace Decimal

open Double

/-! ## Powers of ten -/

/-- A long numeral is converted by rounding one exact quotient. -/
theorem toModel_ofScientific {value exponent : Nat} (nonzero : value ≠ 0)
    (near : exponent ≤ 308) (notFast : ¬ (value < 2 ^ 53 ∧ exponent ≤ 22)) :
    (Float.ofScientific value false exponent).toModel = Float.Model.pack
      (roundWithAccuracy Format.binary64 .positive (2 ^ 53 * value * 10 ^ exponent) (-53) .exact) := by
  have width : (2 : Int) ^ Format.binary64.exponentBits = 2048 := rfl
  have notLarge : ¬ (exponent : Int) > 2 ^ Format.binary64.exponentBits := by omega
  have notTiny : ¬ (exponent : Int) <
      -((2 ^ Format.binary64.exponentBits : Int) + value.log2) := by omega
  have notNegative : 0 ≤ (exponent : Int) := by omega
  have shifted : value <<< Format.binary64.mantissaBits = 2 ^ 53 * value := by
    rw [Nat.shiftLeft_eq, Nat.mul_comm]
    rfl
  rw [Float.ofScientific, dif_neg notFast]
  simp only [Bool.false_eq_true, if_false, Float.Model.ofScientific, UnpackedFloat.ofScientific,
    Int.ofNat_eq_natCast, dif_neg nonzero, if_neg notLarge, if_neg notTiny,
    if_pos notNegative, UnpackedFloat.mul, shifted]
  rfl

theorem atLeast_greatestPower : AtLeast 1023 (powerOfTen 308).toModel.unpack := by decide +kernel

/-- The powers of ten by which numerals are scaled are finite, and at least one. -/
theorem atLeast_powerOfTen {exponent : Nat} (near : exponent ≤ 308) :
    AtLeast 0 (powerOfTen exponent).toModel.unpack := by
  by_cases table : exponent ≤ 22
  · interval_cases exponent <;> decide
  by_cases greatest : exponent = 308
  · subst greatest
    exact atLeast_greatestPower.mono (by decide)
  have positive : 10 ^ exponent ≠ 0 := (Nat.pow_pos (by decide)).ne'
  have digits : (2 ^ 53 * 1 * 10 ^ exponent).log2 = 53 + (10 ^ exponent).log2 := by
    rw [Nat.mul_one]
    refine (Nat.log2_eq_iff (by positivity)).mpr ⟨?_, ?_⟩
    · rw [Nat.pow_add]
      exact Nat.mul_le_mul_left _ (Nat.log2_self_le positive)
    · rw [Nat.add_assoc, Nat.pow_add]
      exact Nat.mul_lt_mul_of_pos_left Nat.lt_log2_self (Nat.two_pow_pos 53)
  have digitsLe : (10 ^ exponent).log2 < 1023 := by
    refine (Nat.log2_lt positive).mpr ?_
    calc 10 ^ exponent ≤ 10 ^ 307 := Nat.pow_le_pow_right (by decide) (by omega)
      _ < 2 ^ 1023 := by decide +kernel
  have enough : 52 ≤ (2 ^ 53 * 1 * 10 ^ exponent).log2 := by omega
  obtain ⟨mantissa, last, nonzero, rounded, places, lower, upper⟩ :=
    round_places enough (-53) (by omega) .positive .exact
  rw [powerOfTen, toModel_ofScientific Nat.one_ne_zero near (by omega), rounded]
  refine (atLeast_unpack_pack places (by omega) (by omega) .positive nonzero).mono ?_
  omega

/-! ## Scaling -/

def IsModest (value : Float) : Prop := Small 300 value.toModel.unpack

section Modest

variable {value : Float}

theorem IsModest.isFinite (modest : IsModest value) : value.isFinite = true :=
  Small.isFinite modest

theorem isModest_ofNat {value : Nat} (fits : value < UInt64.size) : IsModest (Float.ofNat value) := by
  have oneSmall : Small 1 (Float.ofBits 0x3FF0000000000000).toModel.unpack := by
    have unpacked : (Float.ofBits 0x3FF0000000000000).toModel.unpack =
        .finite .positive (2 ^ 52) (-52) (by decide) := rfl
    rw [unpacked]
    exact ⟨by decide, by decide⟩
  change IsModest (Float.ofScientific value false 0)
  by_cases exact : value < 2 ^ 53
  · have word : Below 64 (value.toUInt64.toNat : Int).natAbs 0 :=
      ⟨by decide, value.toUInt64.toNat_lt⟩
    have converted := (atMost_normalize word (by decide) .positive).small_unpack_pack (by decide)
      (by decide)
    have product := (atMost_mul converted oneSmall (by decide)).small_unpack_pack (by decide)
      (by decide)
    rw [Float.ofScientific, dif_pos ⟨exact, by decide⟩]
    exact product.mono (by decide)
  · have digits : Below 64 (2 ^ 53 * value * 10 ^ 0) (-53) := by
      refine ⟨by decide, ?_⟩
      rw [Nat.pow_zero, Nat.mul_one, Nat.mul_comm]
      exact Nat.mul_lt_mul_of_pos_right fits (Nat.two_pow_pos 53)
    have rounded := (digits.atMost_roundWithAccuracy (by decide) .positive .exact).small_unpack_pack
      (by decide) (by decide)
    rw [IsModest, toModel_ofScientific (by omega) (by decide) fun fast => exact fast.1]
    exact rounded.mono (by decide)

theorem isModest_div {power : Float} {least : Int} (modest : IsModest value)
    (large : AtLeast least power.toModel.unpack) (enough : 54 ≤ least) (near : least ≤ 1023) :
    IsModest (value / power) :=
  ((atMost_div modest large (by omega)).small_unpack_pack (by omega) (by omega)).mono (by omega)

theorem isFinite_div {power : Float} (modest : IsModest value)
    (large : AtLeast 0 power.toModel.unpack) : (value / power).isFinite = true :=
  ((atMost_div modest large (by decide)).unpack_pack (by decide) (by decide)).isFinite

/-- A modest double stays modest however often it is divided by the greatest power. -/
theorem isFinite_scaleDown (exponent : Nat) :
    ∀ {value : Float}, IsModest value → (scaleDown value exponent).isFinite = true := by
  induction exponent using Nat.strongRecOn with
  | ind exponent ih =>
    intro value modest
    rw [scaleDown]
    by_cases near : exponent ≤ 308
    · rw [if_pos near]
      exact isFinite_div modest (atLeast_powerOfTen near)
    rw [if_neg near]
    split
    · exact modest.isFinite
    · exact ih (exponent - 308) (by omega)
        (isModest_div modest atLeast_greatestPower (by decide) (by decide))

/-- A product of finite doubles that is not infinite is finite. -/
theorem isFinite_mul {power : Float} (finite : value.isFinite = true)
    (powerFinite : power.isFinite = true) (bounded : (value * power).isInf = false) :
    (value * power).isFinite = true := by
  change value.toModel.unpack.isFinite = true at finite
  change power.toModel.unpack.isFinite = true at powerFinite
  exact isFinite_unpack_pack (isNaN_mul finite powerFinite) bounded

/-- What the scaling lets through is finite, because it checks for an overflow at the end. -/
theorem isFinite_scaleUp? {exponent : Nat} {product : Float} (modest : IsModest value)
    (scaled : scaleUp? value exponent = some product) : product.isFinite = true := by
  simp only [scaleUp?] at scaled
  split at scaled
  · rename_i near
    split at scaled
    · cases scaled
    · rename_i bounded
      cases scaled
      exact isFinite_mul modest.isFinite (atLeast_powerOfTen near).isFinite (by simpa using bounded)
  · split at scaled
    · cases scaled
      exact modest.isFinite
    · cases scaled

end Modest

/-- The powers of ten that a numeral of ordinary size is scaled by are modest. -/
theorem isModest_powerOfTen {exponent : Nat} (near : exponent ≤ 64) :
    IsModest (powerOfTen exponent) := by
  rw [IsModest]
  by_cases table : exponent ≤ 22
  · have inTable : Small 74 (powerOfTen exponent).toModel.unpack := by
      interval_cases exponent <;> decide
    exact inTable.mono (by decide)
  have digits : Below 213 (2 ^ 53 * 1 * 10 ^ exponent) (-53) := by
    refine ⟨by decide, ?_⟩
    calc 2 ^ 53 * 1 * 10 ^ exponent
        ≤ 2 ^ 53 * 1 * 10 ^ 64 := Nat.mul_le_mul_left _ (Nat.pow_le_pow_right (by decide) near)
      _ < 2 ^ (213 - -53 : Int).toNat := by decide +kernel
  have rounded := (digits.atMost_roundWithAccuracy (by decide) .positive .exact).small_unpack_pack
    (by decide) (by decide)
  rw [powerOfTen, toModel_ofScientific Nat.one_ne_zero (by omega) (by omega)]
  exact rounded.mono (by decide)

/-- A scaling by few powers of ten does not overflow. -/
theorem exists_scaleUp? {value : Float} (modest : IsModest value) {exponent : Nat}
    (near : exponent ≤ 64) : ∃ product, scaleUp? value exponent = some product := by
  have finite : (value * powerOfTen exponent).isFinite = true :=
    ((atMost_mul modest (isModest_powerOfTen near) (by decide)).unpack_pack (by decide)
      (by decide)).isFinite
  have bounded : (value * powerOfTen exponent).isInf = false := by
    change (value * powerOfTen exponent).toModel.unpack.isInf = false
    change (value * powerOfTen exponent).toModel.unpack.isFinite = true at finite
    cases unpacked : (value * powerOfTen exponent).toModel.unpack with
    | infinity sign =>
      rw [unpacked] at finite
      cases finite
    | _ => rfl
  simp [scaleUp?, bounded, show exponent ≤ 308 by omega]

/-! ## Numerals -/

/-- The significand is collected in 64 bits, and digits that do not fit are counted instead. -/
theorem absorb_lt (digits : List Char) : ∀ {significand : Nat} (taken : Nat),
    significand < UInt64.size → (absorb significand taken digits).1 < UInt64.size := by
  induction digits with
  | nil => exact fun _ fits => fits
  | cons digit rest ih =>
    intro significand taken fits
    rw [absorb]
    split
    · rename_i extended
      exact ih (taken + 1) extended
    · exact fits

/-- No numeral denotes an infinite double: what is too large is refused. -/
theorem Literal.isFinite_scaled? {literal : Literal} {value : Float}
    (scaled : literal.scaled? = some value) : value.isFinite = true := by
  simp only [Literal.scaled?] at scaled
  have modest := isModest_ofNat (absorb_lt (literal.fraction.getD []) 0
    (absorb_lt literal.whole 0 (by decide : 0 < UInt64.size)))
  generalize Float.ofNat _ = significand at scaled modest
  generalize (_ + _ : Int) = exponent at scaled
  split at scaled
  · exact isFinite_scaleUp? modest scaled
  · cases scaled
    exact isFinite_scaleDown _ modest

/-- The power of ten that the exponent of a numeral asks for. -/
def Literal.power (literal : Literal) : Int :=
  match literal.exponent with
  | none => 0
  | some (true, digits) => -(naturalOf digits : Int)
  | some (false, digits) => (naturalOf digits : Int)

theorem Literal.scaled?_eq (literal : Literal) :
    let upper := absorb 0 0 literal.whole
    let lower := absorb upper.1 0 (literal.fraction.getD [])
    let exponent := ((literal.whole.length - upper.2 : Nat) : Int) - lower.2 + literal.power
    literal.scaled? =
      if 0 ≤ exponent then scaleUp? (Float.ofNat lower.1) exponent.toNat
      else some (scaleDown (Float.ofNat lower.1) (-exponent).toNat) := rfl

/-- A numeral that is not too long denotes a double. -/
theorem Literal.exists_scaled? {literal : Literal}
    (near : (literal.whole.length : Int) + literal.power ≤ 64) :
    ∃ value, literal.scaled? = some value := by
  have modest := isModest_ofNat (absorb_lt (literal.fraction.getD []) 0
    (absorb_lt literal.whole 0 (by decide : 0 < UInt64.size)))
  rw [Literal.scaled?_eq]
  split
  · exact exists_scaleUp? modest (by omega)
  · exact ⟨_, rfl⟩

theorem Literal.isFinite_float? {literal : Literal} {value : Float}
    (denoted : literal.float? = some value) : value.isFinite = true := by
  obtain ⟨magnitude, scaled, rfl⟩ := Option.map_eq_some_iff.mp denoted
  have finite := isFinite_scaled? scaled
  split
  · exact isFinite_neg finite
  · exact finite

theorem isFinite_ofInt {value : Int} (fits : value.natAbs < UInt64.size) :
    (Float.ofInt value).isFinite = true := by
  cases value with
  | ofNat value => exact (isModest_ofNat fits).isFinite
  | negSucc value => exact isFinite_neg (isModest_ofNat fits).isFinite

theorem Literal.natAbs_integer?_lt {literal : Literal} {value : Int}
    (denoted : literal.integer? = some value) : value.natAbs < UInt64.size := by
  have width : UInt64.size = 18446744073709551616 := rfl
  have least : Int64.minValue.toInt = -9223372036854775808 := rfl
  simp only [Literal.integer?, least] at denoted
  split at denoted
  · cases denoted
  · split at denoted
    · split at denoted
      · rename_i bounds
        cases denoted
        simp at bounds
        omega
      · cases denoted
    · split at denoted
      · cases denoted
        assumption
      · cases denoted

end Decimal

def Number.IsFinite : Number → Prop
  | .integer value => (Float.ofInt value).isFinite = true
  | .float value => value.isFinite = true

/-- A numeral denotes a number that is finite, or none at all. -/
theorem Draft.isFinite_numberOf? {literal : Decimal.Literal} {number : Number}
    (denoted : numberOf? literal = some number) : number.IsFinite := by
  rw [numberOf?] at denoted
  cases integer : literal.integer? with
  | some value =>
    rw [integer] at denoted
    cases denoted
    exact Decimal.isFinite_ofInt (Decimal.Literal.natAbs_integer?_lt integer)
  | none =>
    rw [integer] at denoted
    obtain ⟨value, float, rfl⟩ := Option.map_eq_some_iff.mp denoted
    exact Decimal.Literal.isFinite_float? float

end Headroom
