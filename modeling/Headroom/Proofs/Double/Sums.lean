import Headroom.Proofs.Double.Order

/-!
# Sums of doubles

A sum or a difference of finite doubles is rounded to a double next to it: no finite double
lies strictly between the exact result and the rounded one.  So rounding never carries a
result across a double that it is compared with, and adding what is not negative does not
make a double less.
-/

namespace Headroom.Double

open Float.Model Float.Model.UnpackedFloat

/-! ## Rounding -/

/-- No canonical magnitude lies strictly between an exact magnitude and the rounded one. -/
def Adjacent (exact rounded : Nat) : Prop :=
  ∀ mantissa exponent, Canonical mantissa exponent →
    (magnitude mantissa exponent ≤ exact → magnitude mantissa exponent ≤ rounded) ∧
      (exact ≤ magnitude mantissa exponent → rounded ≤ magnitude mantissa exponent)

/-- The rounded magnitude is on that side of every canonical one on which both bounds are. -/
def Brackets (low high rounded : Nat) : Prop :=
  ∀ mantissa exponent, Canonical mantissa exponent →
    (magnitude mantissa exponent ≤ low → magnitude mantissa exponent ≤ rounded) ∧
      (high ≤ magnitude mantissa exponent → rounded ≤ magnitude mantissa exponent)

/-- A canonical magnitude is a multiple of a unit, or it is less than the leading place of a
mantissa that counts such units. -/
theorem Canonical.on_grid {mantissa : Nat} {exponent : Int}
    (canonical : Canonical mantissa exponent) {level : Nat} :
    (∃ count, magnitude mantissa exponent = count * 2 ^ level) ∨
      0 < level ∧ magnitude mantissa exponent < 2 ^ (52 + level) := by
  have least := canonical.least_le
  by_cases below : exponent + 1074 < level
  · exact .inr ⟨by omega, canonical.magnitude_lt below⟩
  · refine .inl ⟨mantissa * 2 ^ ((exponent + 1074).toNat - level), ?_⟩
    have split : (exponent + 1074).toNat = (exponent + 1074).toNat - level + level := by omega
    rw [magnitude, split, Nat.pow_add, ← Nat.mul_assoc, Nat.add_sub_cancel]

/-- What is rounded to the multiple of a unit below or above it stays between the canonical
magnitudes around it, if its mantissa has all places in these units or the unit is the least one. -/
theorem brackets_of_grid {low high rounded level : Nat} (ordered : low ≤ high)
    (above : ∀ count, count * 2 ^ level ≤ low → count ≤ rounded)
    (below : ∀ count, high ≤ count * 2 ^ level → rounded ≤ count)
    (full : level = 0 ∨ 2 ^ (52 + level) ≤ low) : Brackets low high (rounded * 2 ^ level) := by
  intro mantissa exponent canonical
  rcases canonical.on_grid with ⟨count, multiple⟩ | ⟨positive, less⟩
  · rw [multiple]
    constructor
    · intro le
      exact Nat.mul_le_mul_right _ (above count le)
    · intro le
      exact Nat.mul_le_mul_right _ (below count le)
  · have leading : 2 ^ (52 + level) ≤ low := full.resolve_left positive.ne'
    have reached : 2 ^ 52 ≤ rounded := above _ (by rwa [← Nat.pow_add])
    have beyondIt : 2 ^ (52 + level) ≤ rounded * 2 ^ level := by
      rw [Nat.pow_add]
      exact Nat.mul_le_mul_right _ reached
    constructor
    · intro _
      exact (less.trans_le beyondIt).le
    · intro le
      omega

/-- A multiple is shifted without a remainder. -/
theorem shiftRight_multiple (count places : Nat) :
    ExtendedMantissa.ofMantissaAndAccuracy (count * 2 ^ places) .exact >>> places =
      ⟨count, false, false⟩ := by
  induction places generalizing count with
  | zero => simp [HShiftRight.hShiftRight, Nat.repeat, ExtendedMantissa.ofMantissaAndAccuracy]
  | succ places ih =>
    have double : count * 2 ^ (places + 1) = 2 * count * 2 ^ places := by
      rw [Nat.pow_succ]
      ring
    have oneMore : ExtendedMantissa.ofMantissaAndAccuracy (count * 2 ^ (places + 1)) .exact >>>
        (places + 1) = (ExtendedMantissa.ofMantissaAndAccuracy (count * 2 ^ (places + 1)) .exact >>>
          places).shiftRightOne := rfl
    rw [oneMore, double, ih]
    simp [ExtendedMantissa.shiftRightOne]

def ceiling (mantissa : Nat) : Accuracy → Nat
  | .exact => mantissa
  | .inexact _ => mantissa + 1

theorem le_ceiling (mantissa : Nat) (accuracy : Accuracy) :
    mantissa ≤ ceiling mantissa accuracy := by
  cases accuracy with
  | exact => exact le_rfl
  | inexact half => exact Nat.le_succ mantissa

theorem ceiling_le_of_lt {mantissa bound : Nat} (less : mantissa < bound) (accuracy : Accuracy) :
    ceiling mantissa accuracy ≤ bound := by
  cases accuracy with
  | exact => exact less.le
  | inexact half => exact less

section Quotient

variable (mantissa : Nat) (accuracy : Accuracy) (places : Nat)

/-- The mantissa that is left when places are rounded off. -/
def roundedOff : Nat :=
  (ExtendedMantissa.ofMantissaAndAccuracy mantissa accuracy >>> places).roundedMantissa

theorem mantissa_ofMantissaAndAccuracy :
    (ExtendedMantissa.ofMantissaAndAccuracy mantissa accuracy).mantissa = mantissa := by
  rcases accuracy with _ | _ | _ | _ <;> rfl

theorem div_le_roundedOff : mantissa / 2 ^ places ≤ roundedOff mantissa accuracy places := by
  rw [roundedOff]
  conv_lhs => rw [← mantissa_ofMantissaAndAccuracy mantissa accuracy, ← mantissa_shiftRight]
  exact le_roundedMantissa _

theorem roundedOff_le_div : roundedOff mantissa accuracy places ≤ mantissa / 2 ^ places + 1 := by
  rw [roundedOff]
  conv_rhs => rw [← mantissa_ofMantissaAndAccuracy mantissa accuracy, ← mantissa_shiftRight]
  exact roundedMantissa_le _

variable {mantissa accuracy places}

theorem le_roundedOff {count : Nat} (le : count * 2 ^ places ≤ mantissa) :
    count ≤ roundedOff mantissa accuracy places :=
  ((Nat.le_div_iff_mul_le (Nat.two_pow_pos _)).mpr le).trans (div_le_roundedOff _ _ _)

theorem roundedOff_le {count : Nat} (le : ceiling mantissa accuracy ≤ count * 2 ^ places) :
    roundedOff mantissa accuracy places ≤ count := by
  have least := (le_ceiling mantissa accuracy).trans le
  rcases least.eq_or_lt with rfl | less
  · cases accuracy with
    | exact =>
      rw [roundedOff, shiftRight_multiple]
      exact le_rfl
    | inexact half => exact absurd le (Nat.not_succ_le_self _)
  · have quotient := (Nat.div_lt_iff_lt_mul (Nat.two_pow_pos _)).mpr less
    exact (roundedOff_le_div _ _ _).trans quotient

end Quotient

/-! ## Rounding to a canonical double -/

section Round

variable {mantissa : Nat} {exponent : Int}

theorem targetExponent_eq :
    Format.binary64.targetExponent (totalExponent mantissa exponent) =
      max (mantissa.log2 + exponent - 52) (-1074) := by
  simp only [Format.targetExponent, totalExponent, Format.mantissaBits, Format.minExponent]
  norm_num
  omega

/-- A mantissa that was rounded up to one place too many is shifted by that place. -/
theorem canonical_shift {rounded : Nat} (positive : 0 < rounded) (most : rounded ≤ 2 ^ 53)
    (least : -1074 ≤ exponent) (full : 2 ^ 52 ≤ rounded ∨ exponent = -1074) :
    let last := shiftToTargetExponent Format.binary64 rounded exponent .exact
    0 < last.1.mantissa ∧ Canonical last.1.mantissa last.2 ∧
      magnitude last.1.mantissa last.2 = magnitude rounded exponent := by
  have start : (ExtendedMantissa.ofMantissaAndAccuracy rounded .exact).mantissa = rounded := rfl
  simp only [shiftToTargetExponent, shiftToExponent, mantissa_shiftRight, start, targetExponent_eq]
  rcases most.eq_or_lt with carried | less
  · have places : rounded.log2 = 53 := by rw [carried, Nat.log2_two_pow]
    have one : (max (rounded.log2 + exponent - 52) (-1074) - exponent).toNat = 1 := by omega
    have next : (exponent + (1 : Nat) + 1074).toNat = (exponent + 1074).toNat + 1 := by omega
    have half : rounded / 2 ^ 1 = 2 ^ 52 := by omega
    rw [one, half]
    refine ⟨by decide, ⟨by decide, by omega, .inl le_rfl⟩, ?_⟩
    rw [magnitude, magnitude, next, carried, ← Nat.pow_add, ← Nat.pow_add]
    congr 1
    omega
  · have places : rounded.log2 < 53 := (Nat.log2_lt positive.ne').mpr less
    have none : (max (rounded.log2 + exponent - 52) (-1074) - exponent).toNat = 0 := by omega
    rw [none, Nat.pow_zero, Nat.div_one, Int.natCast_zero, Int.add_zero]
    exact ⟨positive, ⟨less, least, full⟩, rfl⟩

/-- What a mantissa stands for is rounded to a canonical double next to it. -/
theorem roundWithAccuracy_brackets (positive : 0 < mantissa) (least : -1074 ≤ exponent)
    (low : exponent ≤ max (mantissa.log2 + exponent - 52) (-1074)) (sign : Sign)
    (accuracy : Accuracy) :
    ∃ rounded last nonzero,
      roundWithAccuracy Format.binary64 sign mantissa exponent accuracy =
          .finite sign rounded last nonzero ∧
        Canonical rounded last ∧
        Brackets (magnitude mantissa exponent) (magnitude (ceiling mantissa accuracy) exponent)
          (magnitude rounded last) := by
  have lower := Nat.log2_self_le positive.ne'
  have upper := Nat.lt_log2_self (n := mantissa)
  generalize targeted : max (mantissa.log2 + exponent - 52) (-1074) = target at low
  generalize counted : (target - exponent).toNat = places
  have reached : exponent + places = target := by omega
  have level : (target + 1074).toNat = (exponent + 1074).toNat + places := by omega
  have scaled (count : Nat) : magnitude count exponent = count * 2 ^ (exponent + 1074).toNat := rfl
  have brackets : Brackets (magnitude mantissa exponent)
      (magnitude (ceiling mantissa accuracy) exponent)
      (magnitude (roundedOff mantissa accuracy places) target) := by
    refine brackets_of_grid (Nat.mul_le_mul_right _ (le_ceiling mantissa accuracy))
      (fun count le => le_roundedOff ?_) (fun count le => roundedOff_le ?_) ?_
    · rw [level, scaled, Nat.add_comm, Nat.pow_add, ← Nat.mul_assoc] at le
      exact Nat.le_of_mul_le_mul_right le (Nat.two_pow_pos _)
    · rw [level, scaled, Nat.add_comm, Nat.pow_add, ← Nat.mul_assoc] at le
      exact Nat.le_of_mul_le_mul_right le (Nat.two_pow_pos _)
    · by_cases least : target = -1074
      · exact .inl (by omega)
      · have leading : 52 + (target + 1074).toNat = mantissa.log2 + (exponent + 1074).toNat := by
          omega
        rw [leading, Nat.pow_add]
        exact .inr (Nat.mul_le_mul_right _ lower)
  have most : roundedOff mantissa accuracy places ≤ 2 ^ 53 := by
    refine roundedOff_le ((ceiling_le_of_lt upper accuracy).trans ?_)
    rw [← Nat.pow_add]
    exact Nat.pow_le_pow_right (by decide) (by omega)
  have full : 2 ^ 52 ≤ roundedOff mantissa accuracy places ∨ target = -1074 := by
    by_cases least : target = -1074
    · exact .inr least
    · refine .inl (le_roundedOff (le_trans ?_ lower))
      rw [← Nat.pow_add]
      exact Nat.pow_le_pow_right (by decide) (by omega)
  have nonzero : 0 < roundedOff mantissa accuracy places := by
    rcases full with full | least
    · omega
    · have none : places = 0 := by omega
      have whole : 1 * 2 ^ places ≤ mantissa := by
        rw [none]
        omega
      exact le_roundedOff whole
  obtain ⟨some, canonical, same⟩ := canonical_shift nonzero most (by omega) full
  have first : shiftToTargetExponent Format.binary64 mantissa exponent accuracy =
      (ExtendedMantissa.ofMantissaAndAccuracy mantissa accuracy >>> places, target) := by
    simp only [shiftToTargetExponent, shiftToExponent, targetExponent_eq, targeted, counted, reached]
  refine ⟨_, _, some, ?_, canonical, same ▸ brackets⟩
  rw [roundWithAccuracy, first]
  exact dif_neg some.ne'

theorem log2_mul_two_pow (positive : 0 < mantissa) (places : Nat) :
    (mantissa * 2 ^ places).log2 = mantissa.log2 + places := by
  have lower := Nat.log2_self_le positive.ne'
  have upper := Nat.lt_log2_self (n := mantissa)
  have scaled := Nat.mul_pos positive (Nat.two_pow_pos places)
  refine (Nat.log2_eq_iff scaled.ne').mpr ⟨?_, ?_⟩
  · rw [Nat.pow_add]
    exact Nat.mul_le_mul_right _ lower
  · rw [Nat.add_right_comm, Nat.pow_add]
    exact Nat.mul_lt_mul_of_pos_right upper (Nat.two_pow_pos _)

/-- A magnitude is rounded to a canonical one next to it. -/
theorem round_adjacent (positive : 0 < mantissa) (least : -1074 ≤ exponent) (sign : Sign) :
    ∃ rounded last nonzero,
      UnpackedFloat.round Format.binary64 sign mantissa exponent =
          .finite sign rounded last nonzero ∧
        Canonical rounded last ∧
        Adjacent (magnitude mantissa exponent) (magnitude rounded last) := by
  simp only [UnpackedFloat.round, decreaseExponent, targetExponent_eq, Nat.shiftLeft_eq]
  generalize counted : (exponent - max (mantissa.log2 + exponent - 52) (-1074)).toNat = places
  have log := log2_mul_two_pow positive places
  have same : magnitude (mantissa * 2 ^ places) (exponent - places) = magnitude mantissa exponent := by
    have level : (exponent + 1074).toNat = places + (exponent - places + 1074).toNat := by omega
    rw [magnitude, magnitude, level, Nat.pow_add, Nat.mul_assoc]
  have scaled : 0 < mantissa * 2 ^ places := Nat.mul_pos positive (Nat.two_pow_pos _)
  have stillLeast : -1074 ≤ exponent - places := by omega
  rw [← same]
  exact roundWithAccuracy_brackets scaled stillLeast (by omega) sign .exact

end Round

/-! ## Sums and differences -/

def OnScale (value : Int) : Prop :=
  ∃ mantissa exponent, Canonical mantissa exponent ∧ exponent ≤ 971 ∧
    value.natAbs = magnitude mantissa exponent

/-- No number on the scale of the finite doubles lies strictly between an exact number and the
rounded one. -/
def Beside (exact rounded : Int) : Prop :=
  ∀ value, OnScale value → (value ≤ exact → value ≤ rounded) ∧ (exact ≤ value → rounded ≤ value)

theorem OnScale.natAbs_lt {value : Int} (scale : OnScale value) : value.natAbs < beyond := by
  obtain ⟨mantissa, exponent, canonical, near, same⟩ := scale
  exact same ▸ canonical.magnitude_lt_beyond near

theorem Beside.refl (exact : Int) : Beside exact exact := fun _ _ => ⟨id, id⟩

theorem Adjacent.beside {exact rounded : Nat} (adjacent : Adjacent exact rounded) :
    Beside exact rounded := by
  rintro value ⟨mantissa, exponent, canonical, near, same⟩
  have sides := adjacent mantissa exponent canonical
  omega

theorem Beside.neg {exact rounded : Int} (beside : Beside exact rounded) :
    Beside (-exact) (-rounded) := by
  rintro value ⟨mantissa, exponent, canonical, near, same⟩
  have sides := beside (-value)
    ⟨mantissa, exponent, canonical, near, by rw [Int.natAbs_neg, same]⟩
  omega

def Regular : UnpackedFloat → Prop
  | .finite _ mantissa exponent _ => Canonical mantissa exponent
  | .zero _ => True
  | _ => False

/-- Rounding to the format leaves no finite double between the exact number and the rounded one.
-/
theorem normalize_beside {exponent : Int} (least : -1074 ≤ exponent) (mantissa : Int)
    (zeroSign : Sign) :
    let rounded := UnpackedFloat.normalize Format.binary64 mantissa exponent zeroSign
    Regular rounded ∧ Beside (mantissa * 2 ^ (exponent + 1074).toNat) (units rounded) := by
  simp only [UnpackedFloat.normalize]
  cases order : compare mantissa 0 with
  | lt =>
    have negative : mantissa < 0 := Int.compare_eq_lt.mp order
    obtain ⟨rounded, last, nonzero, result, canonical, adjacent⟩ :=
      round_adjacent (by omega : 0 < (-mantissa).toNat) least .negative
    have exact : mantissa * 2 ^ (exponent + 1074).toNat =
        -(magnitude (-mantissa).toNat exponent : Int) := by
      rw [magnitude, Int.natCast_mul, Int.toNat_of_nonneg (by omega)]
      push_cast
      ring
    simp only [result, exact]
    exact ⟨canonical, adjacent.beside.neg⟩
  | eq =>
    have zero : mantissa = 0 := compare_eq_iff_eq.mp order
    rw [zero, Int.zero_mul]
    exact ⟨trivial, .refl 0⟩
  | gt =>
    have positive : 0 < mantissa := Int.compare_eq_gt.mp order
    obtain ⟨rounded, last, nonzero, result, canonical, adjacent⟩ :=
      round_adjacent (by omega : 0 < mantissa.toNat) least .positive
    have exact : mantissa * 2 ^ (exponent + 1074).toNat =
        (magnitude mantissa.toNat exponent : Int) := by
      rw [magnitude, Int.natCast_mul, Int.toNat_of_nonneg (by omega)]
      push_cast
      ring
    simp only [result, exact]
    exact ⟨canonical, adjacent.beside⟩

/-- Packing moves a double that is beyond all finite ones to the infinity behind them. -/
theorem Beside.pack {exact : Int} {rounded : UnpackedFloat} (regular : Regular rounded)
    (beside : Beside exact (units rounded)) :
    (Float.Model.pack rounded).unpack.isNaN = false ∧
      Beside exact (units (Float.Model.pack rounded).unpack) := by
  cases rounded with
  | infinity sign => exact regular.elim
  | notANumber => exact regular.elim
  | zero sign =>
    rw [unpack_pack_zero]
    exact ⟨rfl, beside⟩
  | finite sign mantissa exponent positive =>
    rw [unpack_pack sign positive regular]
    split
    · exact ⟨rfl, beside⟩
    · rename_i far
      have large := Canonical.beyond_le_magnitude regular (by omega)
      refine ⟨rfl, fun value scale => ?_⟩
      have sides := beside value scale
      have small := scale.natAbs_lt
      cases sign <;> simp only [units, apply_positive, apply_negative] at sides ⊢ <;> omega

section Sums

variable {mantissa other : Nat} {exponent otherExponent : Int}

theorem apply_mul (sign : Sign) (value factor : Int) :
    sign.apply (value * factor) = sign.apply value * factor := by
  cases sign
  · exact (Int.neg_mul value factor).symm
  · rfl

/-- A mantissa that is brought to a smaller exponent stands for the same magnitude. -/
theorem apply_decreaseExponent (sign : Sign) {target : Int} (least : -1074 ≤ target)
    (le : target ≤ exponent) :
    sign.apply (decreaseExponent mantissa exponent target).1 * 2 ^ (target + 1074).toNat =
      sign.apply (magnitude mantissa exponent) := by
  have level : (exponent + 1074).toNat = (exponent - target).toNat + (target + 1074).toNat := by
    omega
  rw [← apply_mul, decreaseExponent, Nat.shiftLeft_eq, magnitude, level]
  push_cast
  rw [pow_add, mul_assoc]

/-- The sum of two finite doubles is the exact sum, rounded to a neighbour. -/
theorem add_beside {left right : UnpackedFloat} (leftProper : Proper left)
    (rightProper : Proper right) (leftFinite : left.isFinite = true)
    (rightFinite : right.isFinite = true) :
    Regular (UnpackedFloat.add Format.binary64 left right) ∧
      Beside (units left + units right)
        (units (UnpackedFloat.add Format.binary64 left right)) := by
  cases left with
  | infinity sign => cases leftFinite
  | notANumber => cases leftFinite
  | zero sign =>
    cases right with
    | infinity sign => cases rightFinite
    | notANumber => cases rightFinite
    | zero other =>
      simp only [UnpackedFloat.add]
      split <;> exact ⟨trivial, .refl 0⟩
    | finite other mantissa exponent positive =>
      rw [units, Int.zero_add]
      exact ⟨rightProper.1, .refl _⟩
  | finite sign mantissa exponent positive =>
    cases right with
    | infinity sign => cases rightFinite
    | notANumber => cases rightFinite
    | zero other =>
      refine ⟨leftProper.1, ?_⟩
      have same : units (.finite sign mantissa exponent positive) + units (.zero other) =
          units (.finite sign mantissa exponent positive) := Int.add_zero _
      rw [same]
      exact .refl _
    | finite other mantissa' exponent' positive' =>
      have leastLeft := leftProper.1.least_le
      have leastRight := rightProper.1.least_le
      have least : -1074 ≤ min exponent exponent' := by omega
      have rounds := normalize_beside least
        (sign.apply (decreaseExponent mantissa exponent (min exponent exponent')).1 +
          other.apply (decreaseExponent mantissa' exponent' (min exponent exponent')).1) .positive
      rwa [Int.add_mul, apply_decreaseExponent _ (by omega) (min_le_left _ _),
        apply_decreaseExponent _ (by omega) (min_le_right _ _)] at rounds

/-- A difference is a sum with the negated double. -/
theorem sub_eq_add_neg (left right : UnpackedFloat) :
    UnpackedFloat.sub Format.binary64 left right =
      UnpackedFloat.add Format.binary64 left right.neg := by
  cases left <;> cases right <;> try rfl
  rename_i sign mantissa exponent positive other mantissa' exponent' positive'
  cases other
  · exact congrArg (UnpackedFloat.normalize _ · _ _) (Int.sub_neg _ _)
  · exact congrArg (UnpackedFloat.normalize _ · _ _) Int.sub_eq_add_neg

theorem proper_neg {value : UnpackedFloat} (proper : Proper value) : Proper value.neg := by
  cases value <;> exact proper

theorem apply_neg (sign : Sign) (value : Int) : (-sign).apply value = -sign.apply value := by
  cases sign
  · exact (Int.neg_neg value).symm
  · rfl

theorem units_neg (value : UnpackedFloat) : units value.neg = -units value := by
  cases value with
  | infinity sign => exact apply_neg sign _
  | finite sign mantissa exponent positive => exact apply_neg sign _
  | _ => rfl

theorem isFinite_neg_unpacked (value : UnpackedFloat) : value.neg.isFinite = value.isFinite := by
  cases value <;> rfl

end Sums

section Rounded

variable {left right : Float}

/-- No finite double lies strictly between an exact sum and the sum of two doubles. -/
theorem position_add (leftFinite : left.isFinite = true) (rightFinite : right.isFinite = true) :
    (left + right).isNaN = false ∧
      Beside (position left + position right) (position (left + right)) := by
  obtain ⟨regular, beside⟩ := add_beside (proper left) (proper right) leftFinite rightFinite
  exact beside.pack regular

theorem position_sub (leftFinite : left.isFinite = true) (rightFinite : right.isFinite = true) :
    (left - right).isNaN = false ∧
      Beside (position left - position right) (position (left - right)) := by
  obtain ⟨regular, beside⟩ := add_beside (proper left) (proper_neg (proper right)) leftFinite
    ((isFinite_neg_unpacked _).trans rightFinite)
  rw [← sub_eq_add_neg] at regular beside
  rw [units_neg, ← Int.sub_eq_add_neg] at beside
  exact beside.pack regular

theorem isNaN_of_isFinite {value : UnpackedFloat} (finite : value.isFinite = true) :
    value.isNaN = false := by
  cases value with
  | notANumber => cases finite
  | _ => rfl

theorem onScale_units {value : UnpackedFloat} (proper : Proper value)
    (finite : value.isFinite = true) : OnScale (units value) := by
  cases value with
  | infinity sign => cases finite
  | notANumber => cases finite
  | zero sign =>
    exact ⟨0, -1074, ⟨by decide, le_rfl, .inr rfl⟩, by decide, (Nat.zero_mul _).symm⟩
  | finite sign mantissa exponent positive =>
    refine ⟨mantissa, exponent, proper.1, proper.2, ?_⟩
    rw [units, natAbs_apply, Int.natAbs_natCast]

/-- An infinity swallows every finite double. -/
theorem unpack_add_infinity {sign : Sign} (leftFinite : left.isFinite = true)
    (rightInfinite : right.toModel.unpack = .infinity sign) :
    (left + right).toModel.unpack = .infinity sign := by
  change left.toModel.unpack.isFinite = true at leftFinite
  change (Float.Model.pack (UnpackedFloat.add Format.binary64 left.toModel.unpack
    right.toModel.unpack)).unpack = _
  rw [rightInfinite]
  cases unpacked : left.toModel.unpack <;> rw [unpacked] at leftFinite
  · cases leftFinite
  · cases leftFinite
  · exact unpack_pack_infinity sign
  · exact unpack_pack_infinity sign

theorem unpack_sub_infinity {sign : Sign} (leftFinite : left.isFinite = true)
    (rightInfinite : right.toModel.unpack = .infinity sign) :
    (left - right).toModel.unpack = .infinity (-sign) := by
  change left.toModel.unpack.isFinite = true at leftFinite
  change (Float.Model.pack (UnpackedFloat.sub Format.binary64 left.toModel.unpack
    right.toModel.unpack)).unpack = _
  rw [rightInfinite]
  cases unpacked : left.toModel.unpack <;> rw [unpacked] at leftFinite
  · cases leftFinite
  · cases leftFinite
  · exact unpack_pack_infinity _
  · exact unpack_pack_infinity _

/-- A double that is not negative is finite or the positive infinity. -/
theorem finite_or_infinity (nonneg : 0.0 ≤ right) :
    right.isFinite = true ∨ right.toModel.unpack = .infinity .positive := by
  obtain ⟨_, defined, least⟩ := le_iff_position.mp nonneg
  change right.toModel.unpack.isNaN = false at defined
  change 0 ≤ units right.toModel.unpack at least
  change right.toModel.unpack.isFinite = true ∨ _
  have far := beyond_pos
  cases unpacked : right.toModel.unpack with
  | infinity sign =>
    rw [unpacked] at least
    cases sign
    · simp only [units, apply_negative] at least
      omega
    · exact .inr rfl
  | notANumber =>
    rw [unpacked] at defined
    cases defined
  | _ => exact .inl rfl

/-- Adding what is not negative does not make a double less. -/
theorem le_add (finite : left.isFinite = true) (nonneg : 0.0 ≤ right) : left ≤ left + right := by
  obtain ⟨_, _, least⟩ := le_iff_position.mp nonneg
  have scale : OnScale (position left) := onScale_units (proper left) finite
  have defined : left.isNaN = false := isNaN_of_isFinite finite
  rcases finite_or_infinity nonneg with rightFinite | infinite
  · obtain ⟨sumDefined, beside⟩ := position_add finite rightFinite
    have atLeast : position left ≤ position left + position right :=
      Int.le_add_of_nonneg_right least
    exact le_iff_position.mpr ⟨defined, sumDefined, (beside _ scale).1 atLeast⟩
  · have sum := unpack_add_infinity finite infinite
    have near := scale.natAbs_lt
    have greatest : position (left + right) = beyond := congrArg units sum
    exact le_iff_position.mpr ⟨defined, congrArg UnpackedFloat.isNaN sum, by omega⟩

/-- Subtracting what is not negative does not make a double greater. -/
theorem sub_le (finite : left.isFinite = true) (nonneg : 0.0 ≤ right) : left - right ≤ left := by
  obtain ⟨_, _, least⟩ := le_iff_position.mp nonneg
  have scale : OnScale (position left) := onScale_units (proper left) finite
  have defined : left.isNaN = false := isNaN_of_isFinite finite
  rcases finite_or_infinity nonneg with rightFinite | infinite
  · obtain ⟨differenceDefined, beside⟩ := position_sub finite rightFinite
    have atMost : position left - position right ≤ position left := Int.sub_le_self _ least
    exact le_iff_position.mpr ⟨differenceDefined, defined, (beside _ scale).2 atMost⟩
  · have difference := unpack_sub_infinity finite infinite
    have near := scale.natAbs_lt
    have smallest : position (left - right) = -beyond :=
      (congrArg units difference).trans (apply_neg .positive beyond)
    exact le_iff_position.mpr ⟨congrArg UnpackedFloat.isNaN difference, defined, by omega⟩

end Rounded

end Headroom.Double
