import Headroom.Proofs.Decimal
import Headroom.Proofs.Decimal.Shortest
import Headroom.Proofs.Json.Numerals

/-!
# The numerals of doubles can be read

The numeral of a double has digits, a point or an exponent, and perhaps a sign, and is scanned
as that.  The rule for numerals may read another double than was written, but unless the double
is very large it always reads one.
-/

namespace Headroom

open Float.Model Float.Model.UnpackedFloat Double

namespace Decimal

/-! ## Spelling -/

namespace Literal

def spellFraction (fraction : Option (List Char)) : List Char :=
  fraction.elim [] fun places => '.' :: places

/-- The exponent of a literal; `plus` says whether one that is not negative has a sign. -/
def spellExponent (plus : Bool) (exponent : Option (Bool × List Char)) : List Char :=
  exponent.elim [] fun power =>
    'e' :: ((if power.1 then ['-'] else if plus then ['+'] else []) ++ power.2)

def spelling (literal : Literal) (plus : Bool) : List Char :=
  literal.whole ++ (spellFraction literal.fraction ++ spellExponent plus literal.exponent)

structure IsDigits (digits : List Char) : Prop where
  nonempty : digits ≠ []
  all : ∀ digit ∈ digits, digit.isDigit = true

/-- A literal that is scanned from its spelling and is no integer. -/
structure WellFormed (literal : Literal) : Prop where
  whole : IsDigits literal.whole
  noLeadingZero : ∀ digit rest, literal.whole ≠ '0' :: digit :: rest
  fraction : ∀ places, literal.fraction = some places → IsDigits places
  exponent : ∀ negative power, literal.exponent = some (negative, power) → IsDigits power
  pointed : (literal.fraction.isSome || literal.exponent.isSome) = true

/-- A literal that is no integer and not too long denotes a double. -/
theorem WellFormed.exists_number {literal : Literal} (wellFormed : literal.WellFormed)
    (near : (literal.whole.length : Int) + literal.power ≤ 64) :
    ∃ value, Draft.numberOf? literal = some (.float value) := by
  obtain ⟨magnitude, scaled⟩ := literal.exists_scaled? near
  have noInteger : literal.integer? = none := if_pos wellFormed.pointed
  simp [Draft.numberOf?, noInteger, float?, scaled]

end Literal

theorem isDigits_toDigits (value : Nat) : Literal.IsDigits (Nat.toDigits 10 value) where
  nonempty := Nat.toDigits_ne_nil
  all := fun _ member => Nat.isDigit_of_mem_toDigits (by decide) (by decide) member

theorem toDigits_ne_zero {value : Nat} (nonzero : value ≠ 0) (rest : List Char) :
    Nat.toDigits 10 value ≠ '0' :: rest := by
  rcases toDigits_head value with onlyZero | noZero
  · have back := naturalOf_toDigits value
    rw [onlyZero] at back
    exact absurd back.symm nonzero
  · exact noZero rest

/-! ## Doubles taken apart -/

section Bits

variable (bits : BitVec Format.binary64.numBits)

theorem toNat_unpackExponent :
    (unpackExponent bits).toNat = bits.toNat / fractionCount % fieldCount := by
  have place : fractionCount = 2 ^ 52 := by decide
  rw [unpackExponent, BitVec.toNat_cast, BitVec.extractLsb_toNat, Nat.shiftRight_eq_div_pow, place]
  rfl

theorem toNat_unpackMantissa : (unpackMantissa bits).toNat = bits.toNat % fractionCount := by
  rw [unpackMantissa, BitVec.toNat_cast, BitVec.extractLsb_toNat, Nat.shiftRight_zero]
  rfl

end Bits

/-- A small double is taken apart into a small magnitude. -/
theorem Parts.exists_of_small {limit : Int} {value : Float}
    (small : Small limit value.toModel.unpack) :
    ∃ negative magnitude, Parts.ofFloat value = .finite negative magnitude ∧
      magnitude.significand < 2 ^ 53 ∧
      (magnitude.significand ≠ 0 → Below limit magnitude.significand magnitude.exponent) := by
  obtain ⟨bits, stored⟩ : ∃ bits : BitVec Format.binary64.numBits,
      value.toModel.toBits.toBitVec = bits := ⟨_, rfl⟩
  have bitsOf : value.toBits.toNat = bits.toNat := congrArg BitVec.toNat stored
  have fractionLt : (unpackMantissa bits).toNat < 2 ^ 52 := (unpackMantissa bits).isLt
  have bias : (Format.binary64.exponentBias : Int) = 1023 := rfl
  have width : (Format.binary64.mantissaBitsWithoutImplicit : Int) = 52 := rfl
  have largest : (-BitVec.ofNat Format.binary64.exponentBits 1).toNat = 2047 := rfl
  simp only [ofFloat, bitsOf, ← toNat_unpackExponent, ← toNat_unpackMantissa]
  rw [Float.Model.unpack, stored] at small
  simp only [UnpackedFloat.unpack, bias, width] at small
  split at small
  · split at small <;> exact small.elim
  · rename_i ordinary
    have notLargest : (unpackExponent bits).toNat ≠ 2047 := fun same =>
      ordinary (BitVec.eq_of_toNat_eq (same.trans largest.symm))
    rw [if_neg notLargest]
    split at small
    · rename_i least
      have zero : (unpackExponent bits).toNat = 0 :=
        congrArg BitVec.toNat least
      rw [if_pos zero]
      refine ⟨_, _, rfl, by simp only; omega, fun nonzero => ?_⟩
      split at small
      · rename_i nothing
        exact absurd (congrArg BitVec.toNat nothing) nonzero
      · simpa [Double.Small, zero] using small
    · rename_i normal
      have nonzero : (unpackExponent bits).toNat ≠ 0 := fun same =>
        normal (BitVec.eq_of_toNat_eq same)
      have leading : (1#1 ++ unpackMantissa bits).toNat =
          fractionCount + (unpackMantissa bits).toNat := by
        have place : fractionCount = 2 ^ 52 := by decide
        rw [BitVec.toNat_append, ← Nat.shiftLeft_add_eq_or_of_lt (unpackMantissa bits).isLt, place]
        rfl
      rw [if_neg nonzero]
      refine ⟨_, _, rfl, ?_, fun _ => ?_⟩
      · simp only [fractionCount]
        omega
      · simp only [Double.Small, leading] at small
        exact small

end Decimal

namespace Draft

open Decimal (Literal digitsOf zeros)

/-! ## Scanning a spelling -/

section Spelling

variable {front rest : List Char} (digits : ∀ digit ∈ front, digit.isDigit = true)
  (other : ∀ char more, rest = char :: more → char.isDigit = false)

include digits other

theorem takeWhile_digits : (front ++ rest).takeWhile Char.isDigit = front := by
  rw [List.takeWhile_append_of_pos digits]
  cases rest with
  | nil => simp
  | cons char more => simp [other char more rfl]

theorem dropWhile_digits : (front ++ rest).dropWhile Char.isDigit = rest := by
  rw [List.dropWhile_append_of_pos digits]
  cases rest with
  | nil => rfl
  | cons char more => simp [other char more rfl]

end Spelling

section Spelled

variable (plus : Bool)

theorem spellExponent_marked (exponent : Option (Bool × List Char)) :
    ∀ char more, Literal.spellExponent plus exponent = char :: more → char.isDigit = false := by
  intro char more same
  cases exponent <;> cases same
  rfl

theorem spellFraction_marked (fraction : Option (List Char))
    (exponent : Option (Bool × List Char)) :
    ∀ char more, Literal.spellFraction fraction ++ Literal.spellExponent plus exponent =
      char :: more → char.isDigit = false := by
  intro char more same
  cases fraction with
  | none => exact spellExponent_marked plus exponent char more same
  | some places =>
    cases same
    rfl

variable {literal : Literal} {fraction : Option (List Char)} {exponent : Option (Bool × List Char)}

/-- The point and the digits after it are scanned from their spelling. -/
theorem scanFraction_spelling (noFraction : literal.fraction = none)
    (digits : ∀ places, fraction = some places → Literal.IsDigits places) :
    scanFraction literal
        (Literal.spellFraction fraction ++ Literal.spellExponent plus exponent) =
      .ok ({ literal with fraction := fraction }, Literal.spellExponent plus exponent) := by
  cases fraction with
  | none =>
    have noPoint : ∀ more, Literal.spellExponent plus exponent ≠ '.' :: more := by
      intro more same
      cases exponent <;> cases same
    rw [Literal.spellFraction, Option.elim_none, List.nil_append, scanFraction_other noPoint,
      ← noFraction]
  | some places =>
    obtain ⟨nonempty, all⟩ := digits places rfl
    have marked := spellExponent_marked plus exponent
    rw [Literal.spellFraction, Option.elim_some, List.cons_append, scanFraction_point,
      takeWhile_digits all marked, dropWhile_digits all marked, if_neg (by simpa using nonempty)]

theorem exponentSign_spelled_digits (negative : Bool) {power : List Char}
    (digits : Literal.IsDigits power) :
    exponentSign ((if negative then ['-'] else if plus then ['+'] else []) ++ power) =
      (negative, power) := by
  cases negative with
  | true => rfl
  | false =>
    cases plus with
    | true => rfl
    | false =>
      obtain ⟨digit, more, rfl⟩ := List.exists_cons_of_ne_nil digits.nonempty
      have isDigit := digits.all digit List.mem_cons_self
      rw [if_neg Bool.false_ne_true, if_neg Bool.false_ne_true, List.nil_append]
      refine exponentSign.eq_3 _ ?_ ?_
      all_goals
        rintro rest same
        cases same
        exact absurd isDigit (by decide)

/-- An exponent is scanned from its spelling, with or without a sign. -/
theorem scanExponent_spelling (noExponent : literal.exponent = none)
    (digits : ∀ negative power, exponent = some (negative, power) → Literal.IsDigits power) :
    scanExponent literal (Literal.spellExponent plus exponent) =
      .ok ({ literal with exponent := exponent }, []) := by
  cases exponent with
  | none =>
    obtain ⟨negative, whole, fraction, found⟩ := literal
    cases noExponent
    rfl
  | some power =>
    obtain ⟨negative, power⟩ := power
    have powerDigits := digits negative power rfl
    have whole : power.takeWhile Char.isDigit = power :=
      List.takeWhile_eq_self_iff.mpr powerDigits.all
    have nothing : power.dropWhile Char.isDigit = [] :=
      List.dropWhile_eq_nil_iff.mpr powerDigits.all
    have sign := exponentSign_spelled_digits plus negative powerDigits
    rw [Literal.spellExponent, Option.elim_some, scanExponent_mark (.inl rfl)]
    simp only [sign, whole, nothing, List.isEmpty_iff, if_neg powerDigits.nonempty]

/-- A literal is scanned from its spelling. -/
theorem numeral_spelling (wellFormed : literal.WellFormed) :
    Numeral literal.negative (literal.spelling plus) literal [] := by
  obtain ⟨negative, whole, fraction, exponent⟩ := literal
  have marked := spellFraction_marked plus fraction exponent
  have digits := takeWhile_digits wellFormed.whole.all marked
  have after := dropWhile_digits wellFormed.whole.all marked
  rw [Literal.spelling]
  constructor
  · rw [digits]
    exact wellFormed.whole.nonempty
  · rw [digits]
    exact wellFormed.noLeadingZero
  · rw [digits, after]
    exact ⟨_, _, scanFraction_spelling plus rfl wellFormed.fraction,
      scanExponent_spelling plus rfl wellFormed.exponent⟩

end Spelled

/-! ## Texts of doubles -/

/-- A text that spells a literal which denotes a double. -/
inductive Spells (negative : Bool) : List Char → Prop where
  | literal {literal : Literal} (signed : literal.negative = negative)
      (wellFormed : literal.WellFormed) (near : (literal.whole.length : Int) + literal.power ≤ 64)
      (plus : Bool) : Spells negative (literal.spelling plus)

theorem spells_pointed (negative : Bool) {whole places : List Char}
    (wholeDigits : Literal.IsDigits whole)
    (noLeadingZero : ∀ digit rest, whole ≠ '0' :: digit :: rest)
    (placesDigits : Literal.IsDigits places) (short : whole.length ≤ 64) :
    Spells negative (whole ++ '.' :: places) := by
  have wellFormed : (⟨negative, whole, some places, none⟩ : Literal).WellFormed := {
    whole := wholeDigits
    noLeadingZero := noLeadingZero
    fraction := fun found same => Option.some.inj same ▸ placesDigits
    exponent := fun _ _ same => by cases same
    pointed := rfl }
  have spelled : whole ++ '.' :: places =
      Literal.spelling ⟨negative, whole, some places, none⟩ true := by
    simp [Literal.spelling, Literal.spellFraction, Literal.spellExponent]
  rw [spelled]
  exact .literal rfl wellFormed (by simpa [Literal.power] using short) true

section Layouts

theorem isDigit_of_mem_zeros {count : Nat} :
    ∀ digit ∈ List.replicate count '0', digit.isDigit = true := by
  intro digit member
  rw [List.eq_of_mem_replicate member]
  rfl

variable (negative : Bool)

/-- Digits after the point, with zeros in front. -/
theorem spells_leading (value zerosCount : Nat) :
    Spells negative ("0." ++ zeros zerosCount ++ digitsOf value).toList := by
  have digits := Decimal.isDigits_toDigits value
  have text : ("0." ++ zeros zerosCount ++ digitsOf value).toList =
      ['0'] ++ '.' :: (List.replicate zerosCount '0' ++ Nat.toDigits 10 value) := by
    simp [zeros, digitsOf]
  rw [text]
  refine spells_pointed negative ⟨by simp, by simp⟩ (fun digit rest same => by cases same)
    ⟨by simp [digits.nonempty], ?_⟩ (by decide)
  exact List.forall_mem_append.mpr ⟨isDigit_of_mem_zeros, digits.all⟩

variable {value : Nat} (nonzero : value ≠ 0)

include nonzero

/-- Digits on both sides of the point. -/
theorem spells_within {place : Nat} (positive : 0 < place) (near : place ≤ 64)
    (inside : place < (Nat.toDigits 10 value).length) :
    Spells negative ((Nat.toDigits 10 value).take place ++
      '.' :: (Nat.toDigits 10 value).drop place) := by
  have digits := Decimal.isDigits_toDigits value
  refine spells_pointed negative
    ⟨?_, fun digit member => digits.all digit (List.mem_of_mem_take member)⟩
    ?_ ⟨?_, fun digit member => digits.all digit (List.mem_of_mem_drop member)⟩ ?_
  · simp [digits.nonempty]
    omega
  · intro digit rest same
    have whole := List.take_append_drop place (Nat.toDigits 10 value)
    rw [same] at whole
    exact Decimal.toDigits_ne_zero nonzero _ whole.symm
  · simp
    omega
  · rw [List.length_take]
    omega

/-- Digits before the point, with zeros behind. -/
theorem spells_filled {count : Nat} (near : (Nat.toDigits 10 value).length + count ≤ 64) :
    Spells negative ((Nat.toDigits 10 value ++ List.replicate count '0') ++ '.' :: ['0']) := by
  have digits := Decimal.isDigits_toDigits value
  refine spells_pointed negative ⟨by simp [digits.nonempty],
    List.forall_mem_append.mpr ⟨digits.all, isDigit_of_mem_zeros⟩⟩ ?_ ⟨by simp, by simp⟩ ?_
  · intro digit rest same
    obtain ⟨first, more, split⟩ := List.exists_cons_of_ne_nil digits.nonempty
    rw [split, List.cons_append] at same
    exact Decimal.toDigits_ne_zero nonzero more ((List.cons.inj same).1 ▸ split)
  · rw [List.length_append, List.length_replicate]
    omega

variable {position : Int}

/-- Digits that are written out with a point spell a literal. -/
theorem spells_spread (near : position ≤ 16) :
    Spells negative (Decimal.spread .document (digitsOf value) position).toList := by
  have length : (digitsOf value).length = (Nat.toDigits 10 value).length := by simp [digitsOf]
  rw [Decimal.spread, length]
  split
  · exact spells_leading negative value _
  · split
    · have text (front back : String.Slice)
          (frontIs : front.copy.toList = (Nat.toDigits 10 value).take position.toNat)
          (backIs : back.copy.toList = (Nat.toDigits 10 value).drop position.toNat) :
          (front.toString ++ "." ++ back.toString).toList =
            (Nat.toDigits 10 value).take position.toNat ++
              '.' :: (Nat.toDigits 10 value).drop position.toNat := by
        simp [String.Slice.toString_eq, frontIs, backIs]
      rw [text _ _ (by simp [digitsOf]) (by simp [digitsOf])]
      exact spells_within negative nonzero (by omega) (by omega) (by omega)
    · generalize filling : position.toNat - (Nat.toDigits 10 value).length = count
      have text : (digitsOf value ++ zeros count ++
          (if Decimal.Layout.document.keepsPoint then ".0" else "")).toList =
            (Nat.toDigits 10 value ++ List.replicate count '0') ++ '.' :: ['0'] := by
        simp [zeros, digitsOf, Decimal.Layout.document]
      rw [text]
      exact spells_filled negative nonzero (by omega)

end Layouts

/-- Digits with one of them before the point, times a power of ten. -/
def scientificLiteral (negative : Bool) (first : Char) (more : List Char) (power : Int) : Literal :=
  ⟨negative, [first], if more = [] then none else some more,
    some (decide (power < 0), Nat.toDigits 10 power.natAbs)⟩

theorem wellFormed_scientificLiteral {negative : Bool} {first : Char} {more : List Char}
    {power : Int} (digits : ∀ digit ∈ first :: more, digit.isDigit = true) :
    (scientificLiteral negative first more power).WellFormed where
  whole := ⟨by simp [scientificLiteral], by
    simpa [scientificLiteral] using digits first List.mem_cons_self⟩
  noLeadingZero := fun digit rest same => by cases same
  fraction := by
    intro found same
    simp only [scientificLiteral] at same
    split at same
    · cases same
    · rename_i some
      cases same
      exact ⟨some, (List.forall_mem_cons.mp digits).2⟩
  exponent := by
    intro minus found same
    cases same
    exact Decimal.isDigits_toDigits _
  pointed := by simp [scientificLiteral]

theorem toList_scientific (negative : Bool) {value : Nat} {first : Char} {more : List Char}
    (split : Nat.toDigits 10 value = first :: more) (position : Int) :
    (Decimal.scientific .document (digitsOf value) position).toList =
      (scientificLiteral negative first more (position - 1)).spelling (decide (1 ≤ position)) := by
  have front : ((digitsOf value).take 1).copy.toList = [first] := by
    simp [digitsOf, split]
  have back : ((digitsOf value).drop 1).copy.toList = more := by
    simp [digitsOf, split]
  have fraction : (if ((digitsOf value).drop 1).copy.isEmpty then "" else
      "." ++ ((digitsOf value).drop 1).copy).toList =
        Literal.spellFraction (if more = [] then none else some more) := by
    simp only [String.isEmpty_iff, ← String.toList_eq_nil_iff, back]
    split <;> simp [Literal.spellFraction, back]
  simp only [Decimal.scientific, String.Slice.toString_eq, String.toList_append, front, fraction]
  by_cases before : 1 ≤ position
  · have nonneg : ¬ position - 1 < 0 := by omega
    simp [scientificLiteral, Literal.spelling, Literal.spellExponent, Decimal.integer,
      Decimal.Layout.document, before, nonneg, digitsOf]
  · have negative : position - 1 < 0 := by omega
    simp [scientificLiteral, Literal.spelling, Literal.spellExponent, Decimal.integer,
      Decimal.Layout.document, before, negative, digitsOf]

/-- Digits that are written with an exponent spell a literal. -/
theorem spells_scientific (negative : Bool) (value : Nat) {position : Int} (near : position ≤ 64) :
    Spells negative (Decimal.scientific .document (digitsOf value) position).toList := by
  obtain ⟨nonempty, all⟩ := Decimal.isDigits_toDigits value
  obtain ⟨first, more, split⟩ := List.exists_cons_of_ne_nil nonempty
  rw [split] at all
  rw [toList_scientific negative split]
  refine .literal rfl (wellFormed_scientificLiteral all) ?_ _
  simp only [scientificLiteral, Literal.power, List.length_singleton]
  by_cases before : position - 1 < 0
  · simp only [before, decide_true]
    omega
  · simp only [before, decide_false, Decimal.naturalOf_toDigits]
    omega

theorem quotient_lt_of_below {magnitude : Decimal.Magnitude}
    (below : Below 32 magnitude.significand magnitude.exponent) :
    magnitude.quotient.1 < 2 ^ 32 * magnitude.quotient.2 := by
  obtain ⟨exponentLe, significandLt⟩ := below
  rw [Decimal.Magnitude.quotient]
  split
  · rename_i nonneg
    have split :
        2 ^ 32 = 2 ^ (32 - magnitude.exponent).toNat * 2 ^ magnitude.exponent.toNat := by
      rw [← Nat.pow_add]
      congr 1
      omega
    rw [Nat.mul_one, split]
    exact Nat.mul_lt_mul_of_pos_right significandLt (Nat.two_pow_pos _)
  · rename_i negative
    have split : (32 - magnitude.exponent).toNat = 32 + (-magnitude.exponent).toNat := by omega
    rwa [split, Nat.pow_add] at significandLt

/-- A magnitude below four billion is spelled with an exponent of two digits at most. -/
theorem spells_magnitude (negative : Bool) {magnitude : Decimal.Magnitude}
    (short : magnitude.significand < 2 ^ 53)
    (small : magnitude.significand ≠ 0 → Below 32 magnitude.significand magnitude.exponent) :
    Spells negative (Decimal.Layout.document.magnitude magnitude).toList := by
  rw [Decimal.Layout.magnitude]
  by_cases zero : magnitude.significand = 0
  · have text : (if Decimal.Layout.document.keepsPoint then "0.0" else "0").toList =
        ['0'] ++ '.' :: ['0'] := by
      simp [Decimal.Layout.document]
    rw [if_pos zero, text]
    exact spells_pointed negative ⟨by simp, by simp⟩ (fun digit rest same => by cases same)
      ⟨by simp, by simp⟩ (by decide)
  rw [if_neg zero]
  have exponentLe := (small zero).exponent_le
  have bounded : 2 * magnitude.quotient.1 < 10 ^ 48 * magnitude.quotient.2 := by
    have below := quotient_lt_of_below (small zero)
    omega
  have digits : Decimal.digitCount magnitude.significand ≤ 16 :=
    (Decimal.digitCount_le_iff (by decide)).mpr (short.trans (by decide))
  obtain ⟨nonzero, near⟩ :=
    Decimal.Magnitude.shortest_position .even (Nat.pos_of_ne_zero zero) bounded (by omega)
  have position : ((digitsOf (magnitude.shortest .even).digits).length : Int) +
      (magnitude.shortest .even).exponent = (magnitude.shortest .even).position := by
    simp [Decimal.Scientific.position, Decimal.digitCount, digitsOf]
  have tie : Decimal.Layout.document.tie = .even := rfl
  simp only [tie, position]
  by_cases positional :
      Decimal.Layout.document.positional (magnitude.shortest .even).position = true
  · rw [if_pos positional]
    exact spells_spread negative nonzero (of_decide_eq_true (Bool.and_eq_true_iff.mp positional).2)
  · rw [if_neg positional]
    exact spells_scientific negative _ (by omega)

/-- The numeral of a double below four billion denotes a double. -/
theorem exists_denotes {value : Float} (small : Double.Small 32 value.toModel.unpack) :
    ∃ other, Denotes (Json.numeral (.float value)).toList (.float other) := by
  obtain ⟨negative, magnitude, parts, short, below⟩ := Decimal.Parts.exists_of_small small
  have spells := spells_magnitude negative short below
  generalize spelled : (Decimal.Layout.document.magnitude magnitude).toList = text at spells
  obtain ⟨signed, wellFormed, near, plus⟩ := spells
  obtain ⟨other, denoted⟩ := wellFormed.exists_number near
  refine ⟨other, negative, _, _, ?_, signed ▸ numeral_spelling plus wellFormed, denoted⟩
  rw [Json.numeral, Decimal.Layout.write, parts, String.toList_append, spelled]
  cases negative <;> rfl

end Draft

end Headroom
