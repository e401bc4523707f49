import Headroom.Proofs.Double.Sums

/-!
# Quotients of counts

A count of at most 53 binary places is a double, and a quotient of two such doubles is rounded to a
double next to the exact quotient.  A share that is compared with one half therefore comes out on
the side of the exact one, unless it is closer to one half than the double behind it.
-/

namespace Headroom.Double

open Float.Model Float.Model.UnpackedFloat

/-! ## Counts -/

/-- A canonical magnitude is one of one mantissa and exponent only. -/
theorem Canonical.eq_of_magnitude_eq {mantissa other : Nat} {exponent otherExponent : Int}
    (left : Canonical mantissa exponent) (right : Canonical other otherExponent)
    (same : magnitude mantissa exponent = magnitude other otherExponent) :
    mantissa = other ∧ exponent = otherExponent := by
  have compares := left.compares_magnitude right
  have equal : (compare exponent otherExponent).then (compare mantissa other) = .eq :=
    compares.eq_eq.mpr same
  obtain ⟨exponents, mantissas⟩ := Ordering.then_eq_eq.mp equal
  exact ⟨compare_eq_iff_eq.mp mantissas, compare_eq_iff_eq.mp exponents⟩

/-- Rounding does not move a canonical magnitude. -/
theorem Adjacent.eq {mantissa rounded : Nat} {exponent last : Int}
    (adjacent : Adjacent (magnitude mantissa exponent) (magnitude rounded last))
    (exact : Canonical mantissa exponent) (canonical : Canonical rounded last) :
    rounded = mantissa ∧ last = exponent := by
  have sides := adjacent mantissa exponent exact
  exact canonical.eq_of_magnitude_eq exact (le_antisymm (sides.2 le_rfl) (sides.1 le_rfl))

section Counts

variable {count : Nat}

def countMantissa (count : Nat) : Nat := count * 2 ^ (52 - count.log2)

def countExponent (count : Nat) : Int := (count.log2 : Int) - 52

theorem countMantissa_bounds (positive : 0 < count) (fits : count < 2 ^ 53) :
    2 ^ 52 ≤ countMantissa count ∧ countMantissa count < 2 ^ 53 := by
  have places : count.log2 < 53 := (Nat.log2_lt positive.ne').mpr fits
  have whole : count.log2 + (52 - count.log2) = 52 := by omega
  have all : (countMantissa count).log2 = 52 := by
    rw [countMantissa, log2_mul_two_pow positive, whole]
  have some : countMantissa count ≠ 0 := (Nat.mul_pos positive (Nat.two_pow_pos _)).ne'
  exact (Nat.log2_eq_iff some).mp all

theorem canonical_count (positive : 0 < count) (fits : count < 2 ^ 53) :
    Canonical (countMantissa count) (countExponent count) where
  mantissa_lt := (countMantissa_bounds positive fits).2
  least_le := by
    rw [countExponent]
    omega
  full := .inl (countMantissa_bounds positive fits).1

theorem countExponent_nonpos (positive : 0 < count) (fits : count < 2 ^ 53) :
    countExponent count ≤ 0 := by
  have places : count.log2 < 53 := (Nat.log2_lt positive.ne').mpr fits
  rw [countExponent]
  omega

theorem magnitude_count (positive : 0 < count) (fits : count < 2 ^ 53) :
    magnitude (countMantissa count) (countExponent count) = magnitude count 0 := by
  have places : count.log2 < 53 := (Nat.log2_lt positive.ne').mpr fits
  have level : 52 - count.log2 + (countExponent count + 1074).toNat =
      ((0 : Int) + 1074).toNat := by
    rw [countExponent]
    omega
  rw [magnitude, magnitude, countMantissa, Nat.mul_assoc, ← Nat.pow_add, level]

theorem unpack_pack_count (positive : 0 < count) (fits : count < 2 ^ 53) (nonzero) :
    (Float.Model.pack
        (.finite .positive (countMantissa count) (countExponent count) nonzero)).unpack =
      .finite .positive (countMantissa count) (countExponent count) nonzero := by
  have near := countExponent_nonpos positive fits
  rw [unpack_pack .positive nonzero (canonical_count positive fits), if_pos (by omega)]

/-- What is next to a count is the count. -/
theorem finite_count (positive : 0 < count) (fits : count < 2 ^ 53) {exact rounded : Nat}
    {last : Int} {nonzero : 0 < rounded} (same : exact = magnitude count 0)
    (canonical : Canonical rounded last) (adjacent : Adjacent exact (magnitude rounded last)) :
    ∃ some, UnpackedFloat.finite .positive rounded last nonzero =
      .finite .positive (countMantissa count) (countExponent count) some := by
  rw [same, ← magnitude_count positive fits] at adjacent
  obtain ⟨rfl, rfl⟩ := adjacent.eq (canonical_count positive fits) canonical
  exact ⟨nonzero, rfl⟩

/-- A word of at most 53 binary places is a double. -/
theorem unpack_toFloat (positive : 0 < count) (fits : count < 2 ^ 53) :
    ∃ nonzero, (UInt64.ofNat count).toFloat.toModel.unpack =
      .finite .positive (countMantissa count) (countExponent count) nonzero := by
  have word : (UInt64.ofNat count).toNat = count :=
    UInt64.toNat_ofNat_of_lt' (fits.trans (by decide))
  obtain ⟨rounded, last, nonzero, result, canonical, adjacent⟩ :=
    round_adjacent positive (by decide : (-1074 : Int) ≤ 0) .positive
  obtain ⟨some, exactly⟩ := finite_count positive fits rfl canonical adjacent
  have normalized : UnpackedFloat.normalize Format.binary64 ((UInt64.ofNat count).toNat : Int) 0
      .positive = .finite .positive (countMantissa count) (countExponent count) some := by
    simp only [word, UnpackedFloat.normalize, Int.compare_eq_gt.mpr (Int.natCast_pos.mpr positive),
      Int.toNat_natCast]
    exact result.trans exactly
  refine ⟨some, ?_⟩
  change (Float.Model.pack (UnpackedFloat.normalize Format.binary64
    ((UInt64.ofNat count).toNat : Int) 0 .positive)).unpack = _
  rw [normalized, unpack_pack_count positive fits]

/-- Multiplied by one, a count stays what it is. -/
theorem mul_one_count (positive : 0 < count) (fits : count < 2 ^ 53)
    (nonzero : 0 < countMantissa count) :
    ∃ some, UnpackedFloat.mul Format.binary64
        (.finite .positive (countMantissa count) (countExponent count) nonzero)
        (.finite .positive (2 ^ 52) (-52) (by decide)) =
      .finite .positive (countMantissa count) (countExponent count) some := by
  have scaled : 0 < countMantissa count * 2 ^ 52 := Nat.mul_pos nonzero (by decide)
  have log := log2_mul_two_pow nonzero 52
  have lower : -52 ≤ countExponent count := by
    rw [countExponent]
    omega
  have same : magnitude (countMantissa count * 2 ^ 52) (countExponent count - 52) =
      magnitude count 0 := by
    have level : (countExponent count + 1074).toNat =
        52 + (countExponent count - 52 + 1074).toNat := by omega
    rw [← magnitude_count positive fits, magnitude, magnitude, level, Nat.pow_add, Nat.mul_assoc]
  obtain ⟨rounded, last, whole, result, rounds, adjacent⟩ :=
    roundWithAccuracy_brackets scaled (by omega : -1074 ≤ countExponent count - 52) (by omega)
      .positive .exact
  obtain ⟨some, exactly⟩ := finite_count positive fits same rounds adjacent
  exact ⟨some, result.trans exactly⟩

/-- A count of at most 53 binary places is a double. -/
theorem unpack_ofNat (positive : 0 < count) (fits : count < 2 ^ 53) :
    ∃ nonzero, (Float.ofNat count).toModel.unpack =
      .finite .positive (countMantissa count) (countExponent count) nonzero := by
  obtain ⟨nonzero, word⟩ := unpack_toFloat positive fits
  obtain ⟨some, multiplied⟩ := mul_one_count positive fits nonzero
  have one : (Float.ofBits 0x3FF0000000000000).toModel.unpack =
      .finite .positive (2 ^ 52) (-52) (by decide) := rfl
  -- A count is read as a numeral, which is scaled by a power of ten.
  have product : (Float.ofNat count).toModel = Float.Model.pack (UnpackedFloat.mul Format.binary64
      (UInt64.ofNat count).toFloat.toModel.unpack
      (Float.ofBits 0x3FF0000000000000).toModel.unpack) := by
    change (Float.ofScientific count false 0).toModel = _
    rw [Float.ofScientific, dif_pos ⟨fits, by decide⟩]
    rfl
  refine ⟨some, ?_⟩
  rw [product, word, one, multiplied, unpack_pack_count positive fits]

end Counts

/-! ## Quotients -/

section Quotients

variable {mantissa other : Nat} {exponent otherExponent : Int}

/-- Normal doubles are divided to 53 places behind the point. -/
theorem divCore_eq (first : 2 ^ 52 ≤ mantissa ∧ mantissa < 2 ^ 53)
    (second : 2 ^ 52 ≤ other ∧ other < 2 ^ 53) (near : -1021 ≤ exponent - otherExponent) :
    divCore Format.binary64 mantissa exponent other otherExponent =
      (mantissa * 2 ^ 53 / other, exponent - otherExponent - 53,
        accuracyOfFraction (mantissa * 2 ^ 53 % other) other) := by
  have places : mantissa.log2 = 52 := (Nat.log2_eq_iff (by omega)).mpr first
  have otherPlaces : other.log2 = 52 := (Nat.log2_eq_iff (by omega)).mpr second
  have target : Format.binary64.targetExponent
      (totalExponent mantissa exponent - totalExponent other otherExponent) =
        exponent - otherExponent - 53 := by
    simp only [Format.targetExponent, totalExponent, places, otherPlaces, Format.mantissaBits,
      Format.minExponent]
    norm_num
    omega
  have least : min (exponent - otherExponent) (exponent - otherExponent - 53) =
      exponent - otherExponent - 53 := by omega
  have shift : (exponent - otherExponent - (exponent - otherExponent - 53)).toNat = 53 := by omega
  simp only [divCore, target, least, shift, Nat.shiftLeft_eq]

/-- A whole number is not less than a fraction exactly if it is not less than the quotient with its
accuracy. -/
theorem ceiling_le_iff {numerator denominator : Nat} (positive : 0 < denominator) (count : Nat) :
    ceiling (numerator / denominator) (accuracyOfFraction (numerator % denominator) denominator) ≤
      count ↔ numerator ≤ count * denominator := by
  rw [accuracyOfFraction]
  split
  · rename_i divides
    calc numerator / denominator ≤ count
        ↔ numerator / denominator * denominator ≤ count * denominator :=
          (Nat.mul_le_mul_right_iff positive).symm
      _ ↔ numerator ≤ count * denominator := by
          rw [Nat.div_mul_cancel (Nat.dvd_of_mod_eq_zero divides)]
  · rename_i rest
    have differs : numerator ≠ count * denominator := fun same =>
      rest (by rw [same, Nat.mul_mod_left])
    calc numerator / denominator < count
        ↔ numerator < count * denominator := Nat.div_lt_iff_lt_mul positive
      _ ↔ numerator ≤ count * denominator := differs.le_iff_lt.symm

/-- The unit in which a quotient is computed, as a common measure of both doubles. -/
theorem magnitude_mul_one (mantissa : Nat) (least : -1074 ≤ exponent)
    (otherLeast : -1074 ≤ otherExponent) (near : -1021 ≤ exponent - otherExponent) :
    magnitude mantissa exponent * magnitude 1 0 =
      mantissa * 2 ^ 53 *
        (2 ^ (exponent - otherExponent - 53 + 1074).toNat * 2 ^ (otherExponent + 1074).toNat) := by
  have level : (exponent + 1074).toNat + ((0 : Int) + 1074).toNat =
      53 + ((exponent - otherExponent - 53 + 1074).toNat + (otherExponent + 1074).toNat) := by omega
  calc magnitude mantissa exponent * magnitude 1 0
      = mantissa * (2 ^ (exponent + 1074).toNat * 2 ^ ((0 : Int) + 1074).toNat) := by
        rw [magnitude, magnitude, Nat.one_mul, Nat.mul_assoc]
    _ = mantissa * (2 ^ 53 * (2 ^ (exponent - otherExponent - 53 + 1074).toNat *
          2 ^ (otherExponent + 1074).toNat)) := by
        rw [← Nat.pow_add, level, Nat.pow_add, Nat.pow_add]
    _ = _ := (Nat.mul_assoc _ _ _).symm

/-- A canonical magnitude is on the same side of an exact quotient and of what is left of it when
it is computed. -/
theorem quotient_sides (second : 0 < other) (large : 2 ^ 52 ≤ mantissa * 2 ^ 53 / other)
    (least : -1074 ≤ exponent) (otherLeast : -1074 ≤ otherExponent)
    (near : -1021 ≤ exponent - otherExponent) {digits : Nat} {place : Int}
    (canonical : Canonical digits place) :
    (magnitude digits place * magnitude other otherExponent ≤
        magnitude mantissa exponent * magnitude 1 0 →
      magnitude digits place ≤
        magnitude (mantissa * 2 ^ 53 / other) (exponent - otherExponent - 53)) ∧
    (magnitude mantissa exponent * magnitude 1 0 ≤
        magnitude digits place * magnitude other otherExponent →
      magnitude (ceiling (mantissa * 2 ^ 53 / other)
          (accuracyOfFraction (mantissa * 2 ^ 53 % other) other)) (exponent - otherExponent - 53) ≤
        magnitude digits place) := by
  have exact := magnitude_mul_one mantissa least otherLeast near
  have scaled (count : Nat) : magnitude count (exponent - otherExponent - 53) =
      count * 2 ^ (exponent - otherExponent - 53 + 1074).toNat := rfl
  have divisor : magnitude other otherExponent = other * 2 ^ (otherExponent + 1074).toNat := rfl
  rw [exact, scaled, scaled, divisor]
  generalize (exponent - otherExponent - 53 + 1074).toNat = level
  have unit : 0 < 2 ^ level * 2 ^ (otherExponent + 1074).toNat :=
    Nat.mul_pos (Nat.two_pow_pos _) (Nat.two_pow_pos _)
  have arranged (count : Nat) : count * 2 ^ level * (other * 2 ^ (otherExponent + 1074).toNat) =
      count * other * (2 ^ level * 2 ^ (otherExponent + 1074).toNat) := by ring
  have grid : (∃ count, magnitude digits place = count * 2 ^ level) ∨
      0 < level ∧ magnitude digits place < 2 ^ (52 + level) := canonical.on_grid
  rcases grid with ⟨count, multiple⟩ | ⟨_, less⟩
  · rw [multiple, arranged]
    constructor
    · intro le
      have below : count * other ≤ mantissa * 2 ^ 53 := Nat.le_of_mul_le_mul_right le unit
      exact Nat.mul_le_mul_right _ ((Nat.le_div_iff_mul_le second).mpr below)
    · intro le
      have above : mantissa * 2 ^ 53 ≤ count * other := Nat.le_of_mul_le_mul_right le unit
      exact Nat.mul_le_mul_right _ ((ceiling_le_iff second count).mpr above)
  · have leading : magnitude digits place < mantissa * 2 ^ 53 / other * 2 ^ level := by
      rw [Nat.pow_add] at less
      exact less.trans_le (Nat.mul_le_mul_right _ large)
    constructor
    · intro _
      exact leading.le
    · intro le
      refine absurd le (Nat.not_le.mpr ?_)
      calc magnitude digits place * (other * 2 ^ (otherExponent + 1074).toNat)
          < mantissa * 2 ^ 53 / other * 2 ^ level * (other * 2 ^ (otherExponent + 1074).toNat) :=
            Nat.mul_lt_mul_of_pos_right leading (Nat.mul_pos second (Nat.two_pow_pos _))
        _ = mantissa * 2 ^ 53 / other * other * (2 ^ level * 2 ^ (otherExponent + 1074).toNat) :=
            arranged _
        _ ≤ mantissa * 2 ^ 53 * (2 ^ level * 2 ^ (otherExponent + 1074).toNat) :=
            Nat.mul_le_mul_right _ (Nat.div_mul_le_self _ _)

/-- No canonical magnitude lies strictly between an exact quotient and the rounded one. -/
theorem div_brackets (first : 2 ^ 52 ≤ mantissa ∧ mantissa < 2 ^ 53)
    (second : 2 ^ 52 ≤ other ∧ other < 2 ^ 53) (least : -1074 ≤ exponent)
    (otherLeast : -1074 ≤ otherExponent) (near : -1021 ≤ exponent - otherExponent)
    (positive : 0 < mantissa) (nonzero : 0 < other) :
    ∃ rounded last some,
      UnpackedFloat.div Format.binary64 (.finite .positive mantissa exponent positive)
          (.finite .positive other otherExponent nonzero) =
        .finite .positive rounded last some ∧ Canonical rounded last ∧
      ∀ {digits place}, Canonical digits place →
        (magnitude digits place * magnitude other otherExponent ≤
            magnitude mantissa exponent * magnitude 1 0 →
          magnitude digits place ≤ magnitude rounded last) ∧
        (magnitude mantissa exponent * magnitude 1 0 ≤
            magnitude digits place * magnitude other otherExponent →
          magnitude rounded last ≤ magnitude digits place) := by
  have quotient := divCore_eq first second near
  have large : 2 ^ 52 ≤ mantissa * 2 ^ 53 / other := by
    rw [Nat.le_div_iff_mul_le nonzero]
    omega
  have some : 0 < mantissa * 2 ^ 53 / other := (Nat.two_pow_pos _).trans_le large
  have places : 52 ≤ (mantissa * 2 ^ 53 / other).log2 := (Nat.le_log2 some.ne').mpr large
  have unit : -1074 ≤ exponent - otherExponent - 53 := by omega
  obtain ⟨rounded, last, nonzero', result, rounds, brackets⟩ :=
    roundWithAccuracy_brackets some unit (by omega) .positive
      (accuracyOfFraction (mantissa * 2 ^ 53 % other) other)
  refine ⟨rounded, last, nonzero', ?_, rounds, fun canonical => ?_⟩
  · simp only [UnpackedFloat.div, quotient]
    exact result
  · have sides := quotient_sides nonzero large least otherLeast near canonical
    have between := brackets _ _ canonical
    constructor
    · intro le
      exact between.1 (sides.1 le)
    · intro le
      exact between.2 (sides.2 le)

end Quotients

/-! ## Shares -/

section Shares

variable {count seen : Nat}

/-- No finite double lies strictly between the exact share of a count and the rounded one. -/
theorem position_share (positive : 0 < count) (fits : count < 2 ^ 53) (some : 0 < seen)
    (seenFits : seen < 2 ^ 53) :
    (Float.ofNat count / Float.ofNat seen).isNaN = false ∧
      ∀ {digits place}, Canonical digits place → place ≤ 971 →
        (magnitude digits place * seen ≤ magnitude count 0 →
          (magnitude digits place : Int) ≤ position (Float.ofNat count / Float.ofNat seen)) ∧
        (magnitude count 0 ≤ magnitude digits place * seen →
          position (Float.ofNat count / Float.ofNat seen) ≤ magnitude digits place) := by
  obtain ⟨nonzero, unpacked⟩ := unpack_ofNat positive fits
  obtain ⟨seenNonzero, seenUnpacked⟩ := unpack_ofNat some seenFits
  have canonical := canonical_count positive fits
  have seenCanonical := canonical_count some seenFits
  have near : -1021 ≤ countExponent count - countExponent seen := by
    have nonpos := countExponent_nonpos some seenFits
    simp only [countExponent] at nonpos ⊢
    omega
  obtain ⟨rounded, last, whole, result, rounds, sides⟩ :=
    div_brackets (countMantissa_bounds positive fits) (countMantissa_bounds some seenFits)
      canonical.least_le seenCanonical.least_le near nonzero seenNonzero
  rw [magnitude_count positive fits, magnitude_count some seenFits] at sides
  have divided : (Float.ofNat count / Float.ofNat seen).toModel =
      Float.Model.pack (.finite .positive rounded last whole) := by
    rw [← result, ← unpacked, ← seenUnpacked]
    rfl
  have regular : Regular (.finite .positive rounded last whole) := rounds
  have packed := (Beside.refl _).pack regular
  rw [← divided] at packed
  refine ⟨packed.1, fun {digits place} double close => ?_⟩
  have one : 0 < magnitude 1 0 := magnitude_pos Nat.one_pos 0
  have cancel : magnitude seen 0 = seen * magnitude 1 0 := by
    rw [magnitude, magnitude, Nat.one_mul]
  have between := sides double
  rw [cancel, ← Nat.mul_assoc, Nat.mul_le_mul_right_iff one,
    Nat.mul_le_mul_right_iff one] at between
  have scale : OnScale (magnitude digits place) :=
    ⟨digits, place, double, close, Int.natAbs_natCast _⟩
  have placed := packed.2 _ scale
  constructor
  · intro le
    exact placed.1 (Int.ofNat_le.mpr (between.1 le))
  · intro le
    exact placed.2 (Int.ofNat_le.mpr (between.2 le))

/-- Both sides of a comparison with a double from one half to one, in units of its last place. -/
theorem half_magnitudes (count seen : Nat) : ∃ unit,
    (∀ digits, magnitude digits (-53) * seen = digits * seen * unit) ∧
      magnitude count 0 = 2 ^ 53 * count * unit := by
  have level : ((0 : Int) + 1074).toNat = 53 + ((-53 : Int) + 1074).toNat := by decide
  refine ⟨2 ^ ((-53 : Int) + 1074).toNat, fun digits => ?_, ?_⟩
  · rw [magnitude, Nat.mul_right_comm]
  · rw [magnitude, level, Nat.pow_add, ← Nat.mul_assoc, Nat.mul_comm count]

theorem position_half : position 0.5 = magnitude (2 ^ 52) (-53) := rfl

theorem canonical_half : Canonical (2 ^ 52) (-53) := ⟨by decide, by decide, .inl le_rfl⟩

/-- The double behind one half. -/
theorem canonical_behind_half : Canonical (2 ^ 52 + 1) (-53) :=
  ⟨by decide, by decide, .inl (Nat.le_succ _)⟩

/-- A share of nothing is not more than one half. -/
theorem not_half_lt_none (some : 0 < seen) (seenFits : seen < 2 ^ 53) :
    ¬ (0.5 : Float) < Float.ofNat 0 / Float.ofNat seen := by
  obtain ⟨nonzero, unpacked⟩ := unpack_ofNat some seenFits
  have none : (Float.ofNat 0).toModel.unpack = .zero .positive := rfl
  have divided : (Float.ofNat 0 / Float.ofNat seen).toModel =
      Float.Model.pack (UnpackedFloat.div Format.binary64 (Float.ofNat 0).toModel.unpack
        (Float.ofNat seen).toModel.unpack) := rfl
  have zero : position (Float.ofNat 0 / Float.ofNat seen) = 0 := by
    rw [position, divided, none, unpacked]
    exact congrArg units (unpack_pack_zero _)
  rw [lt_iff_position, zero, position_half]
  rintro ⟨_, _, negative⟩
  omega

/-- A share of at most 2 ^ 52 is more than one half exactly if its double is: one that is more is at
least the double behind one half. -/
theorem half_lt_share_iff (le : count ≤ seen) (some : 0 < seen) (few : seen ≤ 2 ^ 52) :
    (0.5 : Float) < Float.ofNat count / Float.ofNat seen ↔ seen < 2 * count := by
  rcases count.eq_zero_or_pos with rfl | positive
  · exact iff_of_false (not_half_lt_none some (by omega)) (by omega)
  obtain ⟨defined, sides⟩ := position_share positive (by omega) some (by omega)
  obtain ⟨unit, scaled, whole⟩ := half_magnitudes count seen
  rw [lt_iff_position, position_half]
  constructor
  · rintro ⟨_, _, less⟩
    by_contra most
    have atMost := (sides canonical_half (by decide)).2 (by
      rw [scaled, whole]
      exact Nat.mul_le_mul_right unit (by omega))
    omega
  · intro most
    have atLeast := (sides canonical_behind_half (by decide)).1 (by
      rw [scaled, whole]
      exact Nat.mul_le_mul_right unit (by omega))
    have next : magnitude (2 ^ 52) (-53) < magnitude (2 ^ 52 + 1) (-53) :=
      Nat.mul_lt_mul_of_pos_right (Nat.lt_succ_self _) (Nat.two_pow_pos _)
    exact ⟨rfl, defined, (Int.ofNat_lt.mpr next).trans_le atLeast⟩

end Shares

end Headroom.Double
