import Headroom.Decimal.Shortest
import Mathlib

/-!
# Where the point of the shortest digits is

The search takes a decimal from a grid only if it rounds to the magnitude.  Such a decimal is
not zero and at most twice the magnitude, whatever grid it was found on, so the position of
its point is bounded by the magnitude alone.  If no grid has one, the significand itself is
taken, which is short as well.
-/

namespace Headroom.Decimal

theorem digitCount_le_iff {value count : Nat} (positive : 0 < count) :
    digitCount value ≤ count ↔ value < 10 ^ count :=
  Nat.length_toDigits_le_iff (by decide) positive

/-- The position of the point, counted from the first digit. -/
def Scientific.position (number : Scientific) : Int := digitCount number.digits + number.exponent

/-- A number below a power of ten has its point no further right than that power says. -/
theorem Scientific.position_le_of_lt {number : Scientific} {limit : Nat}
    (nonzero : number.digits ≠ 0)
    (bounded : (scaleByTen (number.digits, 1) number.exponent).1 <
      10 ^ limit * (scaleByTen (number.digits, 1) number.exponent).2) :
    number.position ≤ limit := by
  obtain ⟨digits, exponent⟩ := number
  simp only [scaleByTen, position, Nat.pow_eq, one_mul] at bounded nonzero ⊢
  split at bounded
  · rename_i nonneg
    obtain ⟨power, rfl⟩ := Int.eq_ofNat_of_zero_le nonneg
    simp only [Int.toNat_natCast, mul_one] at bounded ⊢
    have smaller : power < limit := by
      have least : 10 ^ power ≤ digits * 10 ^ power := Nat.le_mul_of_pos_left _ (by omega)
      exact (Nat.pow_lt_pow_iff_right (by decide)).mp (least.trans_lt bounded)
    have split : 10 ^ limit = 10 ^ (limit - power) * 10 ^ power := by
      rw [← Nat.pow_add, Nat.sub_add_cancel smaller.le]
    rw [split] at bounded
    have count := (digitCount_le_iff (by omega)).mpr (Nat.lt_of_mul_lt_mul_right bounded)
    omega
  · rename_i negative
    rw [← Nat.pow_add] at bounded
    have count : digitCount digits ≤ limit + (-exponent).toNat :=
      (digitCount_le_iff (by omega)).mpr bounded
    omega

/-! ## Decimals that round to a magnitude -/

namespace Magnitude

variable {magnitude : Magnitude}

def unit (magnitude : Magnitude) : Nat × Nat := (⟨1, magnitude.exponent, false⟩ : Magnitude).quotient

theorem quotient_pos (positive : 0 < magnitude.significand) :
    0 < magnitude.quotient.1 ∧ 0 < magnitude.quotient.2 := by
  rw [quotient]
  split
  · exact ⟨Nat.mul_pos positive (Nat.pow_pos (by decide)), Nat.one_pos⟩
  · exact ⟨positive, Nat.pow_pos (by decide)⟩

theorem unit_pos (magnitude : Magnitude) : 0 < magnitude.unit.2 :=
  (quotient_pos Nat.one_pos).2

/-- A magnitude is as many units as its significand says. -/
theorem quotient_eq_units (magnitude : Magnitude) :
    magnitude.quotient.1 * magnitude.unit.2 =
      magnitude.significand * magnitude.unit.1 * magnitude.quotient.2 := by
  simp only [unit, quotient]
  split <;> simp

/-- What rounds to a magnitude is at most one unit away from it. -/
theorem near_of_roundsFrom {candidate : Nat × Nat} (rounds : magnitude.roundsFrom candidate = true) :
    4 * candidate.1 * magnitude.quotient.2 * magnitude.unit.2 ≤
        4 * magnitude.quotient.1 * candidate.2 * magnitude.unit.2 +
          2 * (magnitude.unit.1 * candidate.2 * magnitude.quotient.2) ∧
      4 * magnitude.quotient.1 * candidate.2 * magnitude.unit.2 ≤
        4 * candidate.1 * magnitude.quotient.2 * magnitude.unit.2 +
          2 * (magnitude.unit.1 * candidate.2 * magnitude.quotient.2) := by
  rw [unit]
  simp only [roundsFrom] at rounds
  split_ifs at rounds <;> simp only [Bool.and_eq_true, decide_eq_true_eq] at rounds <;> omega

/-- What rounds to a magnitude is neither zero nor more than twice the magnitude. -/
theorem between_of_roundsFrom {candidate : Nat × Nat} (positive : 0 < magnitude.significand)
    (denominator : 0 < candidate.2) (rounds : magnitude.roundsFrom candidate = true) :
    0 < candidate.1 ∧
      candidate.1 * magnitude.quotient.2 ≤ 2 * magnitude.quotient.1 * candidate.2 := by
  obtain ⟨above, below⟩ := near_of_roundsFrom rounds
  obtain ⟨numeratorPos, _⟩ := quotient_pos positive
  have unitPos := magnitude.unit_pos
  -- Over the common denominator the unit is at most the magnitude.
  have unitLe : magnitude.unit.1 * candidate.2 * magnitude.quotient.2 ≤
      magnitude.quotient.1 * candidate.2 * magnitude.unit.2 := by
    have inUnits := magnitude.quotient_eq_units
    calc magnitude.unit.1 * candidate.2 * magnitude.quotient.2
        ≤ magnitude.significand * (magnitude.unit.1 * candidate.2 * magnitude.quotient.2) :=
          Nat.le_mul_of_pos_left _ positive
      _ = magnitude.significand * magnitude.unit.1 * magnitude.quotient.2 * candidate.2 := by ring
      _ = magnitude.quotient.1 * candidate.2 * magnitude.unit.2 := by rw [← inUnits]; ring
  have valuePos : 0 < magnitude.quotient.1 * candidate.2 * magnitude.unit.2 := by positivity
  constructor
  · by_contra zero
    have nothing : 4 * candidate.1 * magnitude.quotient.2 * magnitude.unit.2 = 0 := by
      rw [Nat.le_zero.mp (Nat.not_lt.mp zero)]
      ring
    rw [nothing] at below
    linarith
  · refine Nat.le_of_mul_le_mul_right ?_ unitPos
    linarith

theorem scaleByTen_pos {quotient : Nat × Nat} (denominator : 0 < quotient.2) (exponent : Int) :
    0 < (scaleByTen quotient exponent).2 := by
  rw [scaleByTen]
  split
  · exact denominator
  · exact Nat.mul_pos denominator (Nat.pow_pos (by decide))

/-! ## What the search finds -/

/-- A candidate is taken only if it rounds to the double that is written. -/
theorem onGrid?_rounds {tie : Tie} {exponent : Int} {found : Scientific}
    (taken : magnitude.onGrid? tie exponent = some found) :
    magnitude.roundsFrom (scaleByTen (found.digits, 1) found.exponent) = true := by
  simp only [onGrid?] at taken
  split at taken
  · rename_i lower
    cases taken
    exact (Bool.and_eq_true_iff.mp lower).1
  · split at taken
    · rename_i upper
      cases taken
      exact upper
    · cases taken

/-- The search finds a decimal that rounds to the magnitude, or gives up. -/
theorem search_rounds (tie : Tie) (fuel : Nat) : ∀ exponent : Int,
    magnitude.search tie exponent fuel = ⟨magnitude.significand, magnitude.exponent⟩ ∨
      magnitude.roundsFrom (scaleByTen ((magnitude.search tie exponent fuel).digits, 1)
        (magnitude.search tie exponent fuel).exponent) = true := by
  induction fuel with
  | zero =>
    intro exponent
    rw [search]
    cases taken : magnitude.onGrid? tie exponent with
    | none => exact .inl rfl
    | some found => exact .inr (onGrid?_rounds taken)
  | succ fuel ih =>
    intro exponent
    rw [search]
    cases taken : magnitude.onGrid? tie exponent with
    | none => exact ih (exponent - 1)
    | some found => exact .inr (onGrid?_rounds taken)

end Magnitude

/-- Dropping zeros at the end moves no point. -/
theorem Scientific.trim_position (fuel : Nat) : ∀ {number : Scientific}, number.digits ≠ 0 →
    (number.trim fuel).digits ≠ 0 ∧ (number.trim fuel).position = number.position := by
  induction fuel with
  | zero => exact fun nonzero => ⟨nonzero, rfl⟩
  | succ fuel ih =>
    intro number nonzero
    rw [trim]
    split
    · rename_i trailing
      have shorter : digitCount number.digits = digitCount (number.digits / 10) + 1 := by
        rw [digitCount, Nat.toDigits_of_base_le (by decide) (by omega), List.length_append]
        rfl
      have later : number.digits / 10 ≠ 0 := by omega
      have ⟨positive, same⟩ := @ih ⟨number.digits / 10, number.exponent + 1⟩ later
      refine ⟨positive, same.trans ?_⟩
      rw [position, position, shorter]
      push_cast
      ring
    · exact ⟨nonzero, rfl⟩

namespace Magnitude

/-- The shortest digits of a magnitude that is not zero are not zero, and their point is where
the magnitude says, if the significand itself is short. -/
theorem shortest_position {magnitude : Magnitude} (tie : Tie) {limit : Nat}
    (positive : 0 < magnitude.significand)
    (bounded : 2 * magnitude.quotient.1 < 10 ^ limit * magnitude.quotient.2)
    (short : (digitCount magnitude.significand : Int) + magnitude.exponent ≤ limit) :
    (magnitude.shortest tie).digits ≠ 0 ∧ (magnitude.shortest tie).position ≤ limit := by
  rw [shortest, if_neg positive.ne']
  dsimp only
  generalize pointPosition magnitude.quotient.1 magnitude.quotient.2 - 1 = start
  have found : (magnitude.search tie start 17).digits ≠ 0 ∧
      (magnitude.search tie start 17).position ≤ limit := by
    rcases magnitude.search_rounds tie 17 start with gaveUp | rounds
    · rw [gaveUp]
      exact ⟨positive.ne', short⟩
    · generalize magnitude.search tie start 17 = number at rounds
      have denominator : 0 < (scaleByTen (number.digits, 1) number.exponent).2 :=
        scaleByTen_pos Nat.one_pos number.exponent
      obtain ⟨nonzero, atMost⟩ := between_of_roundsFrom positive denominator rounds
      have digitsNonzero : number.digits ≠ 0 := by
        rintro zero
        simp only [scaleByTen, zero] at nonzero
        split at nonzero <;> simp at nonzero
      refine ⟨digitsNonzero, Scientific.position_le_of_lt digitsNonzero ?_⟩
      refine Nat.lt_of_mul_lt_mul_right (a := magnitude.quotient.2) ?_
      calc (scaleByTen (number.digits, 1) number.exponent).1 * magnitude.quotient.2
          ≤ 2 * magnitude.quotient.1 * (scaleByTen (number.digits, 1) number.exponent).2 := atMost
        _ < 10 ^ limit * magnitude.quotient.2 *
              (scaleByTen (number.digits, 1) number.exponent).2 :=
            Nat.mul_lt_mul_of_pos_right bounded denominator
        _ = 10 ^ limit * (scaleByTen (number.digits, 1) number.exponent).2 *
              magnitude.quotient.2 := by ring
  obtain ⟨nonzero, same⟩ := Scientific.trim_position 20 found.1
  exact ⟨nonzero, same.trans_le found.2⟩

end Magnitude

end Headroom.Decimal
