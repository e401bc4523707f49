import Headroom.Json.Printer
import Headroom.Json.Reader
import Headroom.Json.Scanner
import Headroom.Proofs.Guards
import Mathlib

/-!
# Numerals in a text

A numeral has no mark at its end; it goes on for as long as the characters of the text
allow.  So it is scanned alike on its own and before whatever cannot go on with it, such
as a comma or a bracket.
-/

namespace Headroom

/-! ## Digits -/

namespace Decimal

theorem naturalOf_toDigits (value : Nat) : naturalOf (Nat.toDigits 10 value) = value := by
  have sameFold : naturalOf (Nat.toDigits 10 value) =
      Nat.ofDigitChars 10 (Nat.toDigits 10 value) 0 := by
    simp only [naturalOf, digitValue, Nat.ofDigitChars, Nat.mul_comm]
  rw [sameFold, Nat.ofDigitChars_ten_toDigits]

/-- The first digit is zero only where it is the only one. -/
theorem toDigits_head (value : Nat) :
    Nat.toDigits 10 value = ['0'] ∨ ∀ rest, Nat.toDigits 10 value ≠ '0' :: rest := by
  induction value using Nat.strongRecOn with
  | ind value ih =>
    by_cases single : value < 10
    · rw [Nat.toDigits_of_lt_base single]
      by_cases zero : value = 0
      · exact .inl (by rw [zero]; rfl)
      · refine .inr fun rest same => ?_
        have headSame : value.digitChar = '0' := (List.cons.inj same).1
        interval_cases value <;> simp_all
    · have positive : value / 10 ≠ 0 := by omega
      rw [Nat.toDigits_of_base_le (by decide) (by omega)]
      refine .inr fun rest same => ?_
      rcases ih (value / 10) (by omega) with onlyZero | noZero
      · have : value / 10 = 0 := by
          have back := naturalOf_toDigits (value / 10)
          rw [onlyZero] at back
          exact back.symm
        exact positive this
      · cases digits : Nat.toDigits 10 (value / 10) with
        | nil => exact Nat.toDigits_ne_nil digits
        | cons head tail =>
          rw [digits, List.cons_append] at same
          have headSame : head = '0' := (List.cons.inj same).1
          exact noZero tail (by rw [digits, headSame])

end Decimal

namespace Draft

def isNumeralChar (char : Char) : Bool :=
  char.isDigit || char == '.' || char == 'e' || char == 'E' || char == '+' || char == '-'

/-- A numeral does not go on at the beginning of a text. -/
def Stops (text : List Char) : Prop := ∀ char rest, text = char :: rest → isNumeralChar char = false

theorem stops_nil : Stops [] := fun _ _ same => by cases same

theorem stops_cons {char : Char} (other : isNumeralChar char = false) (rest : List Char) :
    Stops (char :: rest) := by
  intro first more same
  cases same
  exact other

section Stopping

variable {rest : List Char} (stops : Stops rest)

include stops

theorem Stops.isDigit_eq_false {char : Char} {more : List Char} (same : rest = char :: more) :
    char.isDigit = false := by
  have other := stops char more same
  simp only [isNumeralChar, Bool.or_eq_false_iff] at other
  exact other.1.1.1.1.1

theorem Stops.takeWhile (front : List Char) :
    (front ++ rest).takeWhile Char.isDigit = front.takeWhile Char.isDigit := by
  induction front with
  | nil =>
    cases rest with
    | nil => rfl
    | cons char more => simp [stops.isDigit_eq_false rfl]
  | cons char more ih => simp only [List.cons_append, List.takeWhile_cons, ih]

theorem Stops.dropWhile (front : List Char) :
    (front ++ rest).dropWhile Char.isDigit = front.dropWhile Char.isDigit ++ rest := by
  induction front with
  | nil =>
    cases rest with
    | nil => rfl
    | cons char more => simp [stops.isDigit_eq_false rfl]
  | cons char more ih =>
    simp only [List.cons_append, List.dropWhile_cons, ih]
    split <;> rfl

theorem Stops.noMark {char : Char} {more : List Char} (same : rest = char :: more) :
    char ≠ '.' ∧ ¬ (char = 'e' ∨ char = 'E') := by
  have other := stops char more same
  constructor
  · rintro rfl
    exact absurd other (by decide)
  · rintro (rfl | rfl) <;> exact absurd other (by decide)

end Stopping

/-! ## The parts of a numeral -/

def exponentSign : List Char → Bool × List Char
  | '-' :: rest => (true, rest)
  | '+' :: rest => (false, rest)
  | rest => (false, rest)

theorem exponentSign_spelled (text : List Char) :
    ∃ front, text = front ++ (exponentSign text).2 := by
  rw [exponentSign.eq_def]
  split
  · exact ⟨['-'], rfl⟩
  · exact ⟨['+'], rfl⟩
  · exact ⟨[], rfl⟩

theorem exponentSign_append {text : List Char} (nonempty : text ≠ []) (rest : List Char) :
    exponentSign (text ++ rest) = ((exponentSign text).1, (exponentSign text).2 ++ rest) := by
  cases text with
  | nil => exact absurd rfl nonempty
  | cons char more =>
    by_cases minus : char = '-'
    · subst minus
      rfl
    · by_cases plus : char = '+'
      · subst plus
        rfl
      · rw [List.cons_append, exponentSign, exponentSign]
        · rfl
        all_goals simp [minus, plus]

section Parts

variable {literal result : Decimal.Literal} {text after : List Char}

theorem scanFraction_other (noPoint : ∀ rest, text ≠ '.' :: rest) :
    scanFraction literal text = .ok (literal, text) := by
  rw [scanFraction.eq_def]
  split
  · exact absurd rfl (noPoint _)
  · rfl

theorem scanFraction_point (rest : List Char) :
    scanFraction literal ('.' :: rest) =
      if (rest.takeWhile Char.isDigit).isEmpty then
        .error (brokenNumber (rest.dropWhile Char.isDigit))
      else
        .ok ({ literal with fraction := some (rest.takeWhile Char.isDigit) },
          rest.dropWhile Char.isDigit) := rfl

theorem scanExponent_other (noMark : ∀ mark rest, text = mark :: rest → ¬ (mark = 'e' ∨ mark = 'E')) :
    scanExponent literal text = .ok (literal, text) := by
  cases text with
  | nil => rfl
  | cons mark rest =>
    have plain := noMark mark rest rfl
    simp only [scanExponent, if_neg plain]

theorem scanExponent_mark {mark : Char} (marked : mark = 'e' ∨ mark = 'E') (rest : List Char) :
    scanExponent literal (mark :: rest) =
      let digits := (exponentSign rest).2
      if (digits.takeWhile Char.isDigit).isEmpty then
        .error (brokenNumber (digits.dropWhile Char.isDigit))
      else
        .ok ({ literal with exponent := some ((exponentSign rest).1, digits.takeWhile Char.isDigit) },
          digits.dropWhile Char.isDigit) := by
  simp only [scanExponent, if_pos marked]
  rfl

/-- A fraction is passed over together with its point. -/
theorem scanFraction_spelled (done : scanFraction literal text = .ok (result, after)) :
    ∃ middle, text = middle ++ after ∧ result.whole = literal.whole ∧
      result.exponent = literal.exponent ∧ (result.fraction = none → middle = []) := by
  by_cases point : ∃ rest, text = '.' :: rest
  · obtain ⟨rest, rfl⟩ := point
    rw [scanFraction_point] at done
    split at done
    · cases done
    · cases done
      refine ⟨'.' :: rest.takeWhile Char.isDigit, ?_, rfl, rfl, fun none => by cases none⟩
      rw [List.cons_append, List.takeWhile_append_dropWhile]
  · rw [scanFraction_other fun rest same => point ⟨rest, same⟩] at done
    cases done
    exact ⟨[], rfl, rfl, rfl, fun _ => rfl⟩

/-- Scanning the fraction does not depend on what comes after the numeral. -/
theorem scanFraction_append {rest : List Char} (stops : Stops rest)
    (done : scanFraction literal text = .ok (result, after)) :
    scanFraction literal (text ++ rest) = .ok (result, after ++ rest) := by
  by_cases point : ∃ more, text = '.' :: more
  · obtain ⟨more, rfl⟩ := point
    rw [scanFraction_point] at done
    rw [List.cons_append, scanFraction_point, stops.takeWhile, stops.dropWhile]
    split at done
    · cases done
    · rename_i some
      cases done
      rw [if_neg some]
  · rw [scanFraction_other fun more same => point ⟨more, same⟩] at done
    cases done
    refine scanFraction_other fun more same => ?_
    cases text with
    | nil => exact (stops.noMark same).1 rfl
    | cons char others =>
      rw [List.cons_append] at same
      exact point ⟨others, by rw [(List.cons.inj same).1]⟩

/-- An exponent is passed over together with its mark and its sign. -/
theorem scanExponent_spelled (done : scanExponent literal text = .ok (result, after)) :
    ∃ middle, text = middle ++ after ∧ result.whole = literal.whole ∧
      result.fraction = literal.fraction ∧
      (literal.exponent = none → result.exponent = none → middle = []) := by
  by_cases marked : ∃ mark rest, text = mark :: rest ∧ (mark = 'e' ∨ mark = 'E')
  · obtain ⟨mark, rest, rfl, marked⟩ := marked
    simp only [scanExponent_mark marked] at done
    split at done
    · cases done
    · cases done
      obtain ⟨front, split⟩ := exponentSign_spelled rest
      refine ⟨mark :: (front ++ (exponentSign rest).2.takeWhile Char.isDigit), ?_, rfl, rfl,
        fun _ none => by cases none⟩
      rw [List.cons_append, List.append_assoc, List.takeWhile_append_dropWhile, ← split]
  · rw [scanExponent_other fun mark rest same marks => marked ⟨mark, rest, same, marks⟩] at done
    cases done
    exact ⟨[], rfl, rfl, rfl, fun _ _ => rfl⟩

/-- Scanning the exponent does not depend on what comes after the numeral. -/
theorem scanExponent_append {rest : List Char} (stops : Stops rest)
    (done : scanExponent literal text = .ok (result, after)) :
    scanExponent literal (text ++ rest) = .ok (result, after ++ rest) := by
  by_cases marked : ∃ mark more, text = mark :: more ∧ (mark = 'e' ∨ mark = 'E')
  · obtain ⟨mark, more, rfl, marked⟩ := marked
    simp only [scanExponent_mark marked] at done
    split at done
    · cases done
    · rename_i some
      cases done
      have nonempty : more ≠ [] := by
        rintro rfl
        exact some rfl
      simp only [List.cons_append, scanExponent_mark marked, exponentSign_append nonempty,
        stops.takeWhile, stops.dropWhile, if_neg some]
  · rw [scanExponent_other fun mark more same marks => marked ⟨mark, more, same, marks⟩] at done
    cases done
    refine scanExponent_other fun mark more same marks => ?_
    cases text with
    | nil => exact (stops.noMark same).2 marks
    | cons char others =>
      rw [List.cons_append] at same
      exact marked ⟨char, others, rfl, (List.cons.inj same).1 ▸ marks⟩

theorem scanFraction_broken {stopped : Scanned} (broken : scanFraction literal text = .error stopped) :
    ∃ rest, stopped = brokenNumber rest := by
  by_cases point : ∃ rest, text = '.' :: rest
  · obtain ⟨rest, rfl⟩ := point
    rw [scanFraction_point] at broken
    split at broken
    · cases broken
      exact ⟨_, rfl⟩
    · cases broken
  · rw [scanFraction_other fun rest same => point ⟨rest, same⟩] at broken
    cases broken

theorem scanExponent_broken {stopped : Scanned} (broken : scanExponent literal text = .error stopped) :
    ∃ rest, stopped = brokenNumber rest := by
  by_cases marked : ∃ mark rest, text = mark :: rest ∧ (mark = 'e' ∨ mark = 'E')
  · obtain ⟨mark, rest, rfl, marked⟩ := marked
    simp only [scanExponent_mark marked] at broken
    split at broken
    · cases broken
      exact ⟨_, rfl⟩
    · cases broken
  · rw [scanExponent_other fun mark rest same marks => marked ⟨mark, rest, same, marks⟩] at broken
    cases broken

end Parts

/-! ## Whole numerals -/

/-- The steps in which a numeral is scanned. -/
structure Numeral (negative : Bool) (text : List Char) (literal : Decimal.Literal)
    (after : List Char) : Prop where
  nonempty : text.takeWhile Char.isDigit ≠ []
  noLeadingZero : ∀ digit rest, text.takeWhile Char.isDigit ≠ '0' :: digit :: rest
  parts : ∃ withFraction middle,
    scanFraction ⟨negative, text.takeWhile Char.isDigit, none, none⟩ (text.dropWhile Char.isDigit) =
      .ok (withFraction, middle) ∧ scanExponent withFraction middle = .ok (literal, after)

namespace Numeral

variable {negative : Bool} {text after : List Char} {literal : Decimal.Literal}

theorem scanNumber (numeral : Numeral negative text literal after) :
    scanNumber negative text = ⟨.number (numberOf? literal), after⟩ := by
  obtain ⟨nonempty, noLeadingZero, withFraction, middle, fraction, exponent⟩ := numeral
  simp only [Draft.scanNumber, fraction, exponent]

/-- A number that was scanned went through all steps of a numeral. -/
theorem of_scanNumber {value : Option Number}
    (scanned : Draft.scanNumber negative text = ⟨.number value, after⟩) :
    ∃ literal, Numeral negative text literal after ∧ value = numberOf? literal := by
  simp only [Draft.scanNumber] at scanned
  split at scanned
  · cases scanned
  · cases scanned
  · rename_i nonempty noLeadingZero
    cases fraction : scanFraction ⟨negative, text.takeWhile Char.isDigit, none, none⟩
        (text.dropWhile Char.isDigit) with
    | error stopped =>
      obtain ⟨rest, rfl⟩ := scanFraction_broken fraction
      simp only [fraction] at scanned
      cases scanned
    | ok found =>
      obtain ⟨withFraction, middle⟩ := found
      simp only [fraction] at scanned
      cases exponent : scanExponent withFraction middle with
      | error stopped =>
        obtain ⟨rest, rfl⟩ := scanExponent_broken exponent
        simp only [exponent] at scanned
        cases scanned
      | ok found =>
        obtain ⟨literal, last⟩ := found
        simp only [exponent] at scanned
        cases scanned
        exact ⟨literal, ⟨nonempty, noLeadingZero, withFraction, middle, fraction, exponent⟩, rfl⟩

/-- A numeral ends where it ended on its own. -/
theorem append {rest : List Char} (stops : Stops rest) (numeral : Numeral negative text literal after) :
    Numeral negative (text ++ rest) literal (after ++ rest) := by
  obtain ⟨nonempty, noLeadingZero, withFraction, middle, fraction, exponent⟩ := numeral
  constructor
  · rwa [stops.takeWhile]
  · rwa [stops.takeWhile]
  · rw [stops.takeWhile, stops.dropWhile]
    exact ⟨withFraction, middle ++ rest, scanFraction_append stops fraction,
      scanExponent_append stops exponent⟩

/-- A numeral that has neither a fraction nor an exponent is made of digits. -/
theorem spelled (numeral : Numeral negative text literal after) :
    ∃ middle, text = literal.whole ++ middle ++ after ∧
      literal.whole = text.takeWhile Char.isDigit ∧
      (literal.fraction = none → literal.exponent = none → middle = []) := by
  obtain ⟨_, _, withFraction, middle, fraction, exponent⟩ := numeral
  obtain ⟨first, firstSplit, firstWhole, firstExponent, firstNone⟩ := scanFraction_spelled fraction
  obtain ⟨second, secondSplit, secondWhole, secondFraction, secondNone⟩ :=
    scanExponent_spelled exponent
  have whole : literal.whole = text.takeWhile Char.isDigit := secondWhole.trans firstWhole
  refine ⟨first ++ second, ?_, whole, fun noFraction noExponent => ?_⟩
  · rw [whole, List.append_assoc, List.append_assoc, ← secondSplit, ← firstSplit,
      List.takeWhile_append_dropWhile]
  · rw [firstNone (secondFraction ▸ noFraction), secondNone firstExponent noExponent]
    rfl

end Numeral

/-- A text that is scanned to its end as a number. -/
def Denotes (text : List Char) (number : Number) : Prop :=
  ∃ negative digits literal, text = (if negative then ['-'] else []) ++ digits ∧
    Numeral negative digits literal [] ∧ numberOf? literal = some number

theorem Numeral.head_isDigit {negative : Bool} {text after : List Char} {literal : Decimal.Literal}
    (numeral : Numeral negative text literal after) :
    ∃ digit rest, text = digit :: rest ∧ digit.isDigit = true := by
  cases text with
  | nil => exact absurd rfl numeral.nonempty
  | cons digit rest =>
    refine ⟨digit, rest, rfl, ?_⟩
    by_contra other
    exact numeral.nonempty (by rw [List.takeWhile_cons, if_neg other])

theorem not_blank_of_numeral {char : Char} (numeral : isNumeralChar char = true) :
    isBlank char = false := by
  by_contra blank
  simp only [Bool.not_eq_false, isBlank, Bool.or_eq_true, decide_eq_true_eq] at blank
  rcases blank with ((rfl | rfl) | rfl) | rfl <;> exact absurd numeral (by decide)

theorem isDigit_not_blank {char : Char} (digit : char.isDigit = true) : isBlank char = false :=
  not_blank_of_numeral (by simp [isNumeralChar, digit])

theorem scanValue_digit (fuel : Nat) {digit : Char} (isDigit : digit.isDigit = true)
    (rest : List Char) :
    scanValue (fuel + 1) (digit :: rest) = scanNumber false (digit :: rest) := by
  have noBlank : afterBlanks (digit :: rest) = digit :: rest := by
    rw [afterBlanks, List.dropWhile_cons, isDigit_not_blank isDigit]
    rfl
  rw [scanValue, noBlank]
  split
  case h_9 char more _ _ _ _ _ _ _ same =>
    cases same
    rw [if_pos isDigit]
  all_goals
    rename_i same
    cases same <;> exact absurd isDigit (by decide)

/-- A text that denotes a number is scanned as that number, whatever follows. -/
theorem scanValue_denotes {text rest : List Char} {number : Number} (denotes : Denotes text number)
    (stops : Stops rest) (fuel : Nat) :
    scanValue (fuel + 1) (text ++ rest) = ⟨.number (some number), rest⟩ := by
  obtain ⟨negative, digits, literal, rfl, numeral, value⟩ := denotes
  have whole := (numeral.append stops).scanNumber
  rw [value, List.nil_append] at whole
  cases negative with
  | true => exact whole
  | false =>
    obtain ⟨digit, more, rfl, isDigit⟩ := numeral.head_isDigit
    exact (scanValue_digit fuel isDigit _).trans whole

/-! ## Integers -/

theorem numeral_toDigits (negative : Bool) (value : Nat) :
    Numeral negative (Nat.toDigits 10 value) ⟨negative, Nat.toDigits 10 value, none, none⟩ [] := by
  have allDigits : ∀ digit ∈ Nat.toDigits 10 value, digit.isDigit = true :=
    fun digit member => Nat.isDigit_of_mem_toDigits (by decide) (by decide) member
  have whole : (Nat.toDigits 10 value).takeWhile Char.isDigit = Nat.toDigits 10 value :=
    List.takeWhile_eq_self_iff.mpr allDigits
  have nothing : (Nat.toDigits 10 value).dropWhile Char.isDigit = [] :=
    List.dropWhile_eq_nil_iff.mpr allDigits
  constructor
  · rw [whole]
    exact Nat.toDigits_ne_nil
  · rw [whole]
    intro digit rest same
    rcases Decimal.toDigits_head value with onlyZero | noZero
    · rw [onlyZero] at same
      cases same
    · exact noZero _ same
  · rw [whole, nothing]
    exact ⟨_, _, rfl, rfl⟩

/-- An integer within 64 bits is read as it was written. -/
theorem denotes_integer {value : Int} (least : -2 ^ 63 ≤ value) (greatest : value < 2 ^ 64) :
    Denotes (Decimal.integer value).toList (.integer value) := by
  by_cases negative : value < 0
  · refine ⟨true, Nat.toDigits 10 value.natAbs, _, ?_, numeral_toDigits true _, ?_⟩
    · simp [Decimal.integer, negative, Decimal.digitsOf]
    · have positive : 0 < value.natAbs := by omega
      have bounded : Int64.minValue.toInt ≤ value := least
      have back : -(value.natAbs : Int) = value := by omega
      have read : Decimal.Literal.integer? ⟨true, Nat.toDigits 10 value.natAbs, none, none⟩ =
          some value := by
        simp only [Decimal.Literal.integer?, Option.isSome_none, Bool.or_self, Bool.false_eq_true,
          if_false, if_true, Decimal.naturalOf_toDigits, positive, back, bounded, decide_true,
          Bool.and_self]
      simp only [numberOf?, read]
  · refine ⟨false, Nat.toDigits 10 value.natAbs, _, ?_, numeral_toDigits false _, ?_⟩
    · simp [Decimal.integer, negative, Decimal.digitsOf]
    · have bounded : value.natAbs < UInt64.size := by
        have : UInt64.size = 2 ^ 64 := rfl
        omega
      have back : (value.natAbs : Int) = value := by omega
      have read : Decimal.Literal.integer? ⟨false, Nat.toDigits 10 value.natAbs, none, none⟩ =
          some value := by
        simp only [Decimal.Literal.integer?, Option.isSome_none, Bool.or_self, Bool.false_eq_true,
          if_false, if_true, Decimal.naturalOf_toDigits, bounded, back]
      simp only [numberOf?, read]

/-! ## Doubles -/

/-- A text of the characters of numerals that is no integer. -/
structure Pointed (text : List Char) : Prop where
  numeral : text.all isNumeralChar = true
  marked : '.' ∈ text ∨ 'e' ∈ text

theorem all_of_isDigit {text : List Char} (digits : ∀ char ∈ text, char.isDigit = true) :
    text.all isNumeralChar = true := by
  refine List.all_eq_true.mpr fun char member => ?_
  simp [isNumeralChar, digits char member]

theorem all_digitsOf (value : Nat) : (Decimal.digitsOf value).toList.all isNumeralChar = true := by
  rw [Decimal.digitsOf, String.toList_ofList]
  exact all_of_isDigit fun char member => Nat.isDigit_of_mem_toDigits (by decide) (by decide) member

theorem all_integer (value : Int) : (Decimal.integer value).toList.all isNumeralChar = true := by
  rw [Decimal.integer]
  split
  · rw [String.toList_append, List.all_append, all_digitsOf]
    rfl
  · exact all_digitsOf _

theorem all_zeros (count : Nat) : (Decimal.zeros count).toList.all isNumeralChar = true := by
  rw [Decimal.zeros, String.toList_ofList]
  refine all_of_isDigit fun char member => ?_
  rw [List.eq_of_mem_replicate member]
  rfl

theorem all_take {text : List Char} (all : text.all isNumeralChar = true) (count : Nat) :
    (text.take count).all isNumeralChar = true :=
  List.all_eq_true.mpr fun char member => List.all_eq_true.mp all char (List.mem_of_mem_take member)

theorem all_drop {text : List Char} (all : text.all isNumeralChar = true) (count : Nat) :
    (text.drop count).all isNumeralChar = true :=
  List.all_eq_true.mpr fun char member => List.all_eq_true.mp all char (List.mem_of_mem_drop member)

section Layouts

variable {digits : String} (all : digits.toList.all isNumeralChar = true) (position : Int)

include all

theorem pointed_spread : Pointed (Decimal.spread .document digits position).toList := by
  rw [Decimal.spread]
  split
  · constructor
    · simp only [String.toList_append, List.all_append, all, all_zeros, Bool.and_true]
      rfl
    · simp
  · split
    · have front := all_take all position.toNat
      have back := all_drop all position.toNat
      constructor
      · simp [front, back, isNumeralChar]
      · simp
    · constructor
      · simp only [String.toList_append, List.all_append, all, all_zeros, Bool.true_and]
        rfl
      · simp [Decimal.Layout.document]

theorem pointed_scientific : Pointed (Decimal.scientific .document digits position).toList := by
  have front : ((digits.take 1).toString).toList.all isNumeralChar = true := by
    rw [String.Slice.toString_eq, String.toList_copy_take]
    exact all_take all 1
  have back : ((digits.drop 1).toString).toList.all isNumeralChar = true := by
    rw [String.Slice.toString_eq, String.toList_copy_drop]
    exact all_drop all 1
  have fraction : (if (digits.drop 1).toString.isEmpty then "" else
      "." ++ (digits.drop 1).toString).toList.all isNumeralChar = true := by
    split
    · rfl
    · rw [String.toList_append, List.all_append, back]
      rfl
  have mark : (if Decimal.Layout.document.signsExponent && decide (1 ≤ position) then "e+"
      else "e").toList.all isNumeralChar = true := by
    split <;> rfl
  rw [Decimal.scientific]
  constructor
  · simp only [String.toList_append, List.all_append, all_integer, front, fraction, mark,
      Bool.and_self]
  · refine .inr ?_
    simp only [String.toList_append, List.mem_append]
    refine .inl (.inr ?_)
    split <;> simp

end Layouts

theorem pointed_magnitude (magnitude : Decimal.Magnitude) :
    Pointed (Decimal.Layout.document.magnitude magnitude).toList := by
  rw [Decimal.Layout.magnitude]
  split
  · exact ⟨by decide, by decide⟩
  · dsimp only
    split
    · exact pointed_spread (all_digitsOf _) _
    · exact pointed_scientific (all_digitsOf _) _

/-- The numeral of a double that can be read is no integer. -/
theorem pointed_numeral {value : Float} {read : Float}
    (back : readText Reader.float (Json.numeral (.float value)) = .ok read) :
    Pointed (Json.numeral (.float value)).toList := by
  rw [Json.numeral, Decimal.Layout.write] at back ⊢
  cases parts : Decimal.Parts.ofFloat value with
  | finite negative magnitude =>
    obtain ⟨numeral, marked⟩ := pointed_magnitude magnitude
    cases negative with
    | false => simpa [parts] using (⟨numeral, marked⟩ : Pointed _)
    | true =>
      constructor
      · simp only [if_true, String.toList_append, List.all_append, numeral]
        rfl
      · simpa using marked
  | infinite negative =>
    simp only [parts] at back
    cases negative with
    | false =>
      have malformed : readText Reader.float "inf" = .error .malformed := by decide
      cases malformed.symm.trans back
    | true =>
      have malformed : readText Reader.float "-inf" = .error .malformed := by decide
      cases malformed.symm.trans back
  | undefined =>
    simp only [parts] at back
    have malformed : readText Reader.float "NaN" = .error .malformed := by decide
    cases malformed.symm.trans back

/-- A text of numeral characters that is scanned as a number denotes that number. -/
theorem scanned_numeral {text : List Char} (all : text.all isNumeralChar = true) {fuel : Nat}
    {value : Option Number} {after : List Char}
    (scanned : scanValue (fuel + 1) text = ⟨.number value, after⟩) :
    ∃ negative digits literal, text = (if negative then ['-'] else []) ++ digits ∧
      Numeral negative digits literal after ∧ value = numberOf? literal := by
  cases text with
  | nil => cases scanned
  | cons char rest =>
    by_cases digit : char.isDigit = true
    · rw [scanValue_digit fuel digit] at scanned
      obtain ⟨literal, numeral, read⟩ := Numeral.of_scanNumber scanned
      exact ⟨false, char :: rest, literal, rfl, numeral, read⟩
    · by_cases minus : char = '-'
      · subst minus
        have whole : scanNumber true rest = ⟨.number value, after⟩ := scanned
        obtain ⟨literal, numeral, read⟩ := Numeral.of_scanNumber whole
        exact ⟨true, rest, literal, rfl, numeral, read⟩
      · have broken : scanValue (fuel + 1) (char :: rest) = ⟨.broken .malformed .malformed, []⟩ := by
          have other : isNumeralChar char = true := (Bool.and_eq_true_iff.mp all).1
          simp only [isNumeralChar, digit, minus, Bool.false_or, Bool.or_eq_true, beq_iff_eq,
            or_false] at other
          rcases other with ((rfl | rfl) | rfl) | rfl <;> rfl
        cases broken.symm.trans scanned

/-- Only a numeral with neither a fraction nor an exponent is an integer. -/
theorem integer_parts {literal : Decimal.Literal} {value : Int}
    (read : numberOf? literal = some (.integer value)) :
    literal.fraction = none ∧ literal.exponent = none := by
  by_contra some
  have noInteger : literal.integer? = none := by
    rw [Decimal.Literal.integer?, if_pos]
    cases fraction : literal.fraction <;> cases exponent : literal.exponent <;> simp_all
  simp [numberOf?, noInteger] at read

theorem Reader.float_eq_ok {draft : Draft} {value : Float} (read : Reader.float draft = .ok value) :
    ∃ number, draft = .number (some number) ∧
      (number = .float value ∨ ∃ whole, number = .integer whole) := by
  cases draft with
  | number found =>
    cases found with
    | none => cases read
    | some number =>
      refine ⟨number, rfl, ?_⟩
      cases number with
      | integer whole => exact .inr ⟨whole, rfl⟩
      | float found =>
        cases read
        exact .inl rfl
  | _ => cases read

/-- A double that its numeral is read as is what the numeral denotes. -/
theorem denotes_float {value : Float}
    (back : readText Reader.float (Json.numeral (.float value)) = .ok value) :
    Denotes (Json.numeral (.float value)).toList (.float value) := by
  obtain ⟨all, marked⟩ := pointed_numeral back
  rw [readText, Scanned.read, Guards.bind_eq_ok] at back
  obtain ⟨found, read, ended⟩ := back
  obtain ⟨blank, same⟩ := Guards.ite_ok_eq_ok.mp ended
  cases same
  obtain ⟨number, root, kind⟩ := Reader.float_eq_ok read
  have scanned : scanValue (3 * (Json.numeral (.float value)).toList.length + 2 + 1)
      (Json.numeral (.float value)).toList =
      ⟨.number (some number), (scan (Json.numeral (.float value))).rest⟩ := by
    rw [← root]
    rfl
  obtain ⟨negative, digits, literal, text, numeral, denoted⟩ := scanned_numeral all scanned
  generalize (scan (Json.numeral (.float value))).rest = after at blank numeral
  obtain ⟨middle, split, whole, noMiddle⟩ := numeral.spelled
  -- what follows the numeral is blank, but no character of it can be
  have nothing : after = [] := by
    cases after with
    | nil => rfl
    | cons char more =>
      have member : char ∈ (Json.numeral (.float value)).toList := by simp [text, split]
      have noBlank := not_blank_of_numeral (List.all_eq_true.mp all char member)
      simp [afterBlanks, noBlank] at blank
  subst nothing
  rcases kind with rfl | ⟨integer, rfl⟩
  · exact ⟨negative, digits, literal, text, numeral, denoted.symm⟩
  · -- an integer is made of a sign and digits
    obtain ⟨noFraction, noExponent⟩ := integer_parts denoted.symm
    rw [noMiddle noFraction noExponent, List.append_nil, List.append_nil, whole] at split
    have plain : ∀ char ∈ (Json.numeral (.float value)).toList, char ≠ '.' ∧ char ≠ 'e' := by
      intro char member
      rw [text, List.mem_append] at member
      rcases member with sign | digit
      · cases negative with
        | false => cases sign
        | true =>
          rw [if_pos rfl, List.mem_singleton] at sign
          rw [sign]
          decide
      · rw [split] at digit
        have isDigit := List.mem_takeWhile_imp digit
        constructor <;>
        · rintro rfl
          exact absurd isDigit (by decide)
    rcases marked with point | mark
    · exact absurd rfl (plain _ point).1
    · exact absurd rfl (plain _ mark).2

end Draft

end Headroom
