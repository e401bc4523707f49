import Headroom.Proofs.Double

/-!
# The order of doubles

A double that is a number is a whole multiple of the least positive double.  The comparison
of doubles looks at exponents and mantissas, but it comes out as the comparison of these
multiples, so doubles other than the undefined one are ordered like integers.  The infinities
stand right behind the greatest finite magnitude.
-/

namespace Headroom.Double

open Float.Model Float.Model.UnpackedFloat

/-- A mantissa with an exponent as the format asks for: all binary places are used, unless the
exponent is the least one. -/
structure Canonical (mantissa : Nat) (exponent : Int) : Prop where
  mantissa_lt : mantissa < 2 ^ 53
  least_le : -1074 ≤ exponent
  full : 2 ^ 52 ≤ mantissa ∨ exponent = -1074

/-- How many times the least positive double goes into a magnitude. -/
def magnitude (mantissa : Nat) (exponent : Int) : Nat := mantissa * 2 ^ (exponent + 1074).toNat

/-- The first magnitude beyond all finite doubles.  It is never computed. -/
@[irreducible]
def beyond : Nat := 2 ^ (52 + 2046)

def Proper : UnpackedFloat → Prop
  | .finite _ mantissa exponent _ => Canonical mantissa exponent ∧ exponent ≤ 971
  | _ => True

/-- How many times the least positive double goes into a double. -/
def units : UnpackedFloat → Int
  | .infinity sign => sign.apply beyond
  | .notANumber => 0
  | .zero _ => 0
  | .finite sign mantissa exponent _ => sign.apply (magnitude mantissa exponent)

/-! ## Comparison -/

namespace Canonical

variable {mantissa other : Nat} {exponent otherExponent : Int}

/-- All places of a mantissa together are worth less than the leading place at a greater
exponent. -/
theorem magnitude_lt (canonical : Canonical mantissa exponent) {level : Nat}
    (below : exponent + 1074 < level) : magnitude mantissa exponent < 2 ^ (52 + level) := by
  have least := canonical.least_le
  calc magnitude mantissa exponent
      < 2 ^ 53 * 2 ^ (exponent + 1074).toNat :=
        Nat.mul_lt_mul_of_pos_right canonical.mantissa_lt (Nat.two_pow_pos _)
    _ = 2 ^ (53 + (exponent + 1074).toNat) := (Nat.pow_add _ _ _).symm
    _ ≤ 2 ^ (52 + level) := Nat.pow_le_pow_right (by decide) (by omega)

theorem le_magnitude (canonical : Canonical mantissa exponent) {level : Nat}
    (above : (level : Int) ≤ exponent + 1074) (positive : 0 < level) :
    2 ^ (52 + level) ≤ magnitude mantissa exponent := by
  have full : 2 ^ 52 ≤ mantissa := canonical.full.resolve_right (by omega)
  calc 2 ^ (52 + level) ≤ 2 ^ (52 + (exponent + 1074).toNat) :=
        Nat.pow_le_pow_right (by decide) (by omega)
    _ = 2 ^ 52 * 2 ^ (exponent + 1074).toNat := Nat.pow_add _ _ _
    _ ≤ magnitude mantissa exponent := Nat.mul_le_mul_right _ full

theorem magnitude_lt_of_exponent_lt (left : Canonical mantissa exponent)
    (right : Canonical other otherExponent) (less : exponent < otherExponent) :
    magnitude mantissa exponent < magnitude other otherExponent := by
  have least := left.least_le
  have level : ((otherExponent + 1074).toNat : Int) = otherExponent + 1074 := by omega
  exact (left.magnitude_lt (by omega)).trans_le (right.le_magnitude level.le (by omega))

/-- Exponents first and mantissas second is the order of the magnitudes. -/
theorem compares_magnitude (left : Canonical mantissa exponent)
    (right : Canonical other otherExponent) :
    ((compare exponent otherExponent).then (compare mantissa other)).Compares
      (magnitude mantissa exponent) (magnitude other otherExponent) := by
  rcases lt_trichotomy exponent otherExponent with less | rfl | greater
  · rw [Int.compare_eq_lt.mpr less]
    exact left.magnitude_lt_of_exponent_lt right less
  · have scale : StrictMono fun value : Nat => value * 2 ^ (exponent + 1074).toNat :=
      fun _ _ less => Nat.mul_lt_mul_of_pos_right less (Nat.two_pow_pos _)
    rw [compare_eq_iff_eq.mpr rfl, ← cmp_eq_compare, ← scale.cmp_map_eq]
    exact cmp_compares _ _
  · rw [Int.compare_eq_gt.mpr greater]
    exact right.magnitude_lt_of_exponent_lt left greater

theorem magnitude_lt_beyond (canonical : Canonical mantissa exponent) (near : exponent ≤ 971) :
    magnitude mantissa exponent < beyond := by
  have below : exponent + 1074 < (2046 : Nat) := by omega
  unfold beyond
  exact canonical.magnitude_lt below

theorem beyond_le_magnitude (canonical : Canonical mantissa exponent) (far : 971 < exponent) :
    beyond ≤ magnitude mantissa exponent := by
  have above : (2046 : Nat) ≤ exponent + 1074 := by omega
  unfold beyond
  exact canonical.le_magnitude above (by decide)

end Canonical

theorem beyond_pos : 0 < beyond := by
  unfold beyond
  exact pow_pos two_pos _

theorem magnitude_pos {mantissa : Nat} (positive : 0 < mantissa) (exponent : Int) :
    0 < magnitude mantissa exponent :=
  Nat.mul_pos positive (Nat.two_pow_pos _)

@[simp]
theorem apply_positive (value : Int) : Sign.positive.apply value = value := rfl

@[simp]
theorem apply_negative (value : Int) : Sign.negative.apply value = -value := rfl

theorem compares_natCast {order : Ordering} {first second : Nat}
    (same : order.Compares first second) : order.Compares (first : Int) (second : Int) := by
  cases order
  · exact Int.ofNat_lt.mpr same
  · exact congrArg _ same
  · exact Int.ofNat_lt.mpr same

theorem compares_neg {order : Ordering} {first second : Nat}
    (same : order.Compares first second) : order.Compares (-(second : Int)) (-(first : Int)) := by
  cases order
  · exact Int.neg_lt_neg (Int.ofNat_lt.mpr same)
  · exact congrArg (fun value : Nat => -(value : Int)) same.symm
  · exact Int.neg_lt_neg (Int.ofNat_lt.mpr same)

/-- The comparison of doubles is that of their units. -/
theorem compares_units {left right : UnpackedFloat} (leftProper : Proper left)
    (rightProper : Proper right) (leftDefined : left.isNaN = false)
    (rightDefined : right.isNaN = false) :
    ∃ order, left.compare right = some order ∧ order.Compares (units left) (units right) := by
  have far := beyond_pos
  cases left with
  | notANumber => cases leftDefined
  | infinity sign =>
    cases right with
    | notANumber => cases rightDefined
    | finite other mantissa exponent positive =>
      have near := rightProper.1.magnitude_lt_beyond rightProper.2
      cases sign <;> cases other <;> refine ⟨_, rfl, ?_⟩ <;>
        simp only [Ordering.Compares, units, apply_positive, apply_negative] <;> omega
    | infinity other =>
      cases sign <;> cases other
      · exact ⟨.eq, rfl, rfl⟩
      · exact ⟨.lt, rfl, by simp only [Ordering.Compares, units, apply_positive, apply_negative]; omega⟩
      · exact ⟨.gt, rfl, by simp only [Ordering.Compares, units, apply_positive, apply_negative]; omega⟩
      · exact ⟨.eq, rfl, rfl⟩
    | zero other =>
      cases sign <;> refine ⟨_, rfl, ?_⟩ <;>
        simp only [Ordering.Compares, units, apply_positive, apply_negative] <;> omega
  | zero sign =>
    cases right with
    | notANumber => cases rightDefined
    | finite other mantissa exponent positive =>
      have some := magnitude_pos positive exponent
      cases other <;> refine ⟨_, rfl, ?_⟩ <;>
        simp only [Ordering.Compares, units, apply_positive, apply_negative] <;> omega
    | _ other =>
      cases other <;> refine ⟨_, rfl, ?_⟩ <;>
        simp only [Ordering.Compares, units, apply_positive, apply_negative] <;> omega
  | finite sign mantissa exponent positive =>
    have some := magnitude_pos positive exponent
    have near := leftProper.1.magnitude_lt_beyond leftProper.2
    cases right with
    | notANumber => cases rightDefined
    | finite other mantissa' exponent' positive' =>
      have also := magnitude_pos positive' exponent'
      have same := leftProper.1.compares_magnitude rightProper.1
      cases sign <;> cases other <;> refine ⟨_, rfl, ?_⟩
      · simp only [units, apply_negative, Ordering.compares_swap]
        exact compares_neg same
      · simp only [Ordering.Compares, units, apply_positive, apply_negative]
        omega
      · simp only [Ordering.Compares, units, apply_positive, apply_negative]
        omega
      · exact compares_natCast same
    | _ other =>
      cases sign <;> cases other <;> refine ⟨_, rfl, ?_⟩ <;>
        simp only [Ordering.Compares, units, apply_positive, apply_negative] <;> omega

/-! ## Packed doubles -/

/-- What is unpacked from bits is canonical. -/
theorem proper_unpack (bits : BitVec Format.binary64.numBits) :
    Proper (UnpackedFloat.unpack Format.binary64 bits) := by
  have bias : (Format.binary64.exponentBias : Int) = 1023 := rfl
  have stored : (Format.binary64.mantissaBitsWithoutImplicit : Int) = 52 := rfl
  have fraction : (unpackMantissa bits).toNat < 2 ^ 52 := (unpackMantissa bits).isLt
  have field : (unpackExponent bits).toNat < 2048 := (unpackExponent bits).isLt
  have largest : (-BitVec.ofNat Format.binary64.exponentBits 1).toNat = 2047 := rfl
  simp only [UnpackedFloat.unpack, bias, stored]
  split
  · split <;> trivial
  · rename_i ordinary
    have notLargest : (unpackExponent bits).toNat ≠ 2047 := fun same =>
      ordinary (BitVec.eq_of_toNat_eq (same.trans largest.symm))
    split
    · rename_i least
      have zero : (unpackExponent bits).toNat = 0 := congrArg BitVec.toNat least
      split
      · trivial
      · exact ⟨⟨by omega, by omega, .inr (by omega)⟩, by omega⟩
    · rename_i normal
      have nonzero : (unpackExponent bits).toNat ≠ 0 := fun same =>
        normal (BitVec.eq_of_toNat_eq same)
      have leading : 2 ^ 52 ≤ (1#1 ++ unpackMantissa bits).toNat := by
        rw [BitVec.toNat_append]
        exact Nat.left_le_or
      exact ⟨⟨(1#1 ++ unpackMantissa bits).isLt, by omega, .inl leading⟩, by omega⟩

@[simp]
theorem ofBitVec_unpackSign (sign : Sign) (field : BitVec Format.binary64.exponentBits)
    (fraction : BitVec Format.binary64.mantissaBitsWithoutImplicit) :
    Sign.ofBitVec (unpackSign (packComponents Format.binary64 sign field fraction)) = sign := by
  simp only [unpackSign, packComponents, BitVec.extractLsb]
  rw [BitVec.extractLsb'_append_eq_of_le (by decide),
    BitVec.extractLsb'_append_eq_of_le (by decide)]
  cases sign <;> rfl

theorem unpack_pack_infinity (sign : Sign) :
    (Float.Model.pack (.infinity sign)).unpack = .infinity sign := by
  rw [Float.Model.pack, Float.Model.unpack]
  simp [UnpackedFloat.pack, packedInfinity, UnpackedFloat.unpack]

theorem unpack_pack_zero (sign : Sign) :
    (Float.Model.pack (.zero sign)).unpack = .zero sign := by
  rw [Float.Model.pack, Float.Model.unpack]
  simp [UnpackedFloat.pack, packedZero, UnpackedFloat.unpack]

section Finite

variable {mantissa : Nat} {exponent : Int} (sign : Sign) (positive : 0 < mantissa)

/-- The leading place of a mantissa is not stored, and comes back. -/
theorem unpack_pack_normal (full : 2 ^ 52 ≤ mantissa) (places : mantissa < 2 ^ 53)
    (least : -1074 ≤ exponent) (near : exponent ≤ 971) :
    (Float.Model.pack (.finite sign mantissa exponent positive)).unpack =
      .finite sign mantissa exponent positive := by
  have bias : (Format.binary64.exponentBias : Int) = 1023 := rfl
  have width : (2 : Nat) ^ Format.binary64.exponentBits = 2048 := rfl
  have stored : (Format.binary64.mantissaBitsWithoutImplicit : Int) = 52 := rfl
  have largest : (-BitVec.ofNat Format.binary64.exponentBits 1).toNat = 2047 := rfl
  have all : mantissa.log2 + 1 = Format.binary64.mantissaBits :=
    congrArg (· + 1) ((Nat.log2_eq_iff positive.ne').mpr ⟨full, places⟩)
  have whole : (1#1 ++ BitVec.ofNat Format.binary64.mantissaBitsWithoutImplicit mantissa).toNat =
      mantissa := by
    rw [BitVec.toNat_append, ← Nat.shiftLeft_add_eq_or_of_lt (BitVec.isLt _), BitVec.toNat_ofNat]
    change 1 <<< 52 + mantissa % 2 ^ 52 = mantissa
    omega
  rw [Float.Model.pack, Float.Model.unpack]
  simp only [UnpackedFloat.pack, bias, stored, width, if_pos all]
  generalize counted : (exponent + 1023 + 52).toNat = biased
  have field : (BitVec.ofNat Format.binary64.exponentBits biased).toNat = biased := by
    rw [BitVec.toNat_ofNat, width]
    exact Nat.mod_eq_of_lt (by omega)
  have notLargest : BitVec.ofNat Format.binary64.exponentBits biased ≠
      -BitVec.ofNat Format.binary64.exponentBits 1 := fun same => by
    have equal := congrArg BitVec.toNat same
    omega
  have notZero : BitVec.ofNat Format.binary64.exponentBits biased ≠ 0#_ := fun same => by
    have equal : (BitVec.ofNat Format.binary64.exponentBits biased).toNat = 0 :=
      congrArg BitVec.toNat same
    omega
  have value : (biased : Int) - (1023 + 52) = exponent := by omega
  rw [if_neg (by omega)]
  simp only [UnpackedFloat.unpack, unpackExponent_packComponents, unpackMantissa_packComponents,
    ofBitVec_unpackSign, if_neg notLargest, if_neg notZero, whole, field, bias, stored, value]

theorem unpack_pack_subnormal (partly : mantissa < 2 ^ 52) :
    (Float.Model.pack (.finite sign mantissa (-1074) positive)).unpack =
      .finite sign mantissa (-1074) positive := by
  have fewer : mantissa.log2 + 1 ≠ Format.binary64.mantissaBits := by
    have less := (Nat.log2_lt positive.ne').mpr partly
    exact (Nat.succ_lt_succ less).ne
  have whole : (BitVec.ofNat Format.binary64.mantissaBitsWithoutImplicit mantissa).toNat =
      mantissa := by
    rw [BitVec.toNat_ofNat]
    exact Nat.mod_eq_of_lt partly
  have notZero : BitVec.ofNat Format.binary64.mantissaBitsWithoutImplicit mantissa ≠ 0#_ :=
    fun same => by
      have equal : (BitVec.ofNat Format.binary64.mantissaBitsWithoutImplicit mantissa).toNat = 0 :=
        congrArg BitVec.toNat same
      omega
  have unbounded : ¬ 2 ^ Format.binary64.exponentBits ≤
      ((-1074 : Int) + Format.binary64.exponentBias +
        Format.binary64.mantissaBitsWithoutImplicit).toNat + 1 := by decide
  rw [Float.Model.pack, Float.Model.unpack]
  simp only [UnpackedFloat.pack, if_neg fewer, if_neg unbounded]
  simp [UnpackedFloat.unpack, notZero, whole]
  rfl

theorem unpack_pack_overflow (far : 971 < exponent) :
    (Float.Model.pack (.finite sign mantissa exponent positive)).unpack = .infinity sign := by
  have bias : (Format.binary64.exponentBias : Int) = 1023 := rfl
  have width : (2 : Nat) ^ Format.binary64.exponentBits = 2048 := rfl
  have stored : (Format.binary64.mantissaBitsWithoutImplicit : Int) = 52 := rfl
  have overflows : 2 ^ Format.binary64.exponentBits ≤
      (exponent + Format.binary64.exponentBias +
        Format.binary64.mantissaBitsWithoutImplicit).toNat + 1 := by
    rw [width, bias, stored]
    omega
  rw [← unpack_pack_infinity, Float.Model.pack, Float.Model.pack]
  simp only [UnpackedFloat.pack, if_pos overflows]

/-- A canonical double survives packing, unless it is beyond all finite doubles. -/
theorem unpack_pack (canonical : Canonical mantissa exponent) :
    (Float.Model.pack (.finite sign mantissa exponent positive)).unpack =
      if exponent ≤ 971 then .finite sign mantissa exponent positive else .infinity sign := by
  obtain ⟨places, least, full⟩ := canonical
  split
  · rename_i near
    by_cases all : 2 ^ 52 ≤ mantissa
    · exact unpack_pack_normal sign positive all places least near
    · obtain rfl := full.resolve_left all
      exact unpack_pack_subnormal sign positive (by omega)
  · rename_i far
    exact unpack_pack_overflow sign positive (by omega)

end Finite

/-! ## Doubles as integers -/

def position (value : Float) : Int := units value.toModel.unpack

theorem proper (value : Float) : Proper value.toModel.unpack := proper_unpack _

theorem le_iff (left right : Float) :
    left ≤ right ↔ left.toModel.unpack.le right.toModel.unpack = true := decide_eq_true_iff

section Position

variable {left right : Float}

theorem compare_position (leftDefined : left.isNaN = false) (rightDefined : right.isNaN = false) :
    left.toModel.unpack.compare right.toModel.unpack =
      some (compare (position left) (position right)) := by
  obtain ⟨order, compared, compares⟩ :=
    compares_units (proper left) (proper right) leftDefined rightDefined
  rw [← cmp_eq_compare, position, position, compares.cmp_eq, compared]

theorem compare_undefined (undefined : left.isNaN = true ∨ right.isNaN = true) :
    left.toModel.unpack.compare right.toModel.unpack = none := by
  change left.toModel.unpack.isNaN = true ∨ right.toModel.unpack.isNaN = true at undefined
  cases first : left.toModel.unpack <;> cases second : right.toModel.unpack <;>
    simp_all [UnpackedFloat.isNaN, UnpackedFloat.compare]

/-- Doubles are compared as the whole numbers of least positive doubles that go into them. -/
theorem le_iff_position :
    left ≤ right ↔ left.isNaN = false ∧ right.isNaN = false ∧ position left ≤ position right := by
  rw [le_iff, UnpackedFloat.le]
  cases leftDefined : left.isNaN with
  | true => simp [compare_undefined (.inl leftDefined)]
  | false =>
    cases rightDefined : right.isNaN with
    | true => simp [compare_undefined (.inr rightDefined)]
    | false =>
      rw [compare_position leftDefined rightDefined]
      simp [Ordering.isLE_iff_ne_gt, compare_gt_iff_gt]

theorem lt_iff_position :
    left < right ↔ left.isNaN = false ∧ right.isNaN = false ∧ position left < position right := by
  rw [lt_iff, UnpackedFloat.lt]
  cases leftDefined : left.isNaN with
  | true => simp [compare_undefined (.inl leftDefined)]
  | false =>
    cases rightDefined : right.isNaN with
    | true => simp [compare_undefined (.inr rightDefined)]
    | false =>
      rw [compare_position leftDefined rightDefined]
      simp [compare_lt_iff_lt]

end Position

end Headroom.Double
