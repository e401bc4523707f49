import Headroom.Http.Percent
import Headroom.Proofs.Text.Utf8

/-!
# Segments are decoded as the texts they were written for

A segment writes letters, digits and four marks as they are and every other octet with a
percent sign.  Decoding gets the octets of the text back, and nothing in a segment ends it:
it has no separator, and no mark that begins a query or a fragment.
-/

namespace Headroom.Percent

/-! ## Escaped octets -/

theorem digitValue?_digit (value : Nat) (small : value < 16) :
    digitValue? (digit value) = some value := by
  interval_cases value <;> rfl

theorem unescape_escape (octet : UInt8) (rest : List Char) :
    unescape (escape octet ++ rest) = octet :: unescape rest := by
  have bounded := octet.toNat_lt
  have upper := digitValue?_digit (octet.toNat / 16) (by omega)
  have lower := digitValue?_digit (octet.toNat % 16) (by omega)
  have whole : octet.toNat / 16 * 16 + octet.toNat % 16 = octet.toNat := Nat.div_add_mod' _ _
  simp only [escape, List.cons_append, List.nil_append, unescape, upper, lower, whole,
    UInt8.ofNat_toNat]

theorem unescape_escapes (octets : List UInt8) (rest : List Char) :
    unescape (octets.flatMap escape ++ rest) = octets ++ unescape rest := by
  induction octets with
  | nil => rfl
  | cons octet more ih =>
    rw [List.flatMap_cons, List.append_assoc, unescape_escape, ih, List.cons_append]

theorem unescape_plain {char : Char} (noEscape : char ≠ '%') (rest : List Char) :
    unescape (char :: rest) = Text.encodeChar char ++ unescape rest := by
  rw [unescape]
  intro first second more same
  exact absurd same noEscape

/-! ## Segments -/

def isSegmentChar (char : Char) : Bool := isFormPlain char || char = '%'

def segmentChar (char : Char) : List Char :=
  if isFormPlain char then [char] else (Text.encodeChar char).flatMap escape

theorem isSegmentChar_digit {value : Nat} (small : value < 16) :
    isSegmentChar (digit value) = true := by
  interval_cases value <;> decide

theorem isSegmentChar_escape (octet : UInt8) :
    ∀ char ∈ escape octet, isSegmentChar char = true := by
  have bounded := octet.toNat_lt
  simp only [escape, List.forall_mem_cons]
  exact ⟨by decide, isSegmentChar_digit (by omega), isSegmentChar_digit (by omega),
    List.forall_mem_nil _⟩

theorem isSegmentChar_segmentChar (char : Char) :
    ∀ written ∈ segmentChar char, isSegmentChar written = true := by
  rw [segmentChar]
  by_cases plain : isFormPlain char = true
  · rw [if_pos plain]
    refine List.forall_mem_singleton.mpr ?_
    rw [isSegmentChar, plain, Bool.true_or]
  · rw [if_neg plain]
    exact List.forall_mem_flatMap.mpr fun octet _ => isSegmentChar_escape octet

/-- Characters that are all written as they are stay as they are. -/
theorem flatMap_plain {write : Char → List Char} {chars : List Char}
    (plain : ∀ char ∈ chars, write char = [char]) : chars.flatMap write = chars :=
  (List.flatMap_congr plain).trans (List.flatMap_singleton' chars)

/-- Two steps of writing a segment, as in a form and then without plus signs, come down to one. -/
theorem formChar_spaced (char : Char) :
    (formChar char).flatMap (fun char => if char = '+' then escape 0x20 else [char]) =
      segmentChar char := by
  rw [formChar]
  by_cases space : char = ' '
  · subst space
    rfl
  · rw [if_neg space]
    apply flatMap_plain
    intro written member
    apply if_neg
    rintro rfl
    exact absurd (isSegmentChar_segmentChar char '+' member) (by decide)

theorem toList_segment (text : String) :
    (segment text).toList = text.toList.flatMap segmentChar := by
  rw [segment, form, String.toList_ofList, String.toList_ofList, List.flatMap_assoc]
  exact List.flatMap_congr fun char _ => formChar_spaced char

/-- Nothing but letters, digits, four marks and percent signs stands in a segment. -/
theorem isSegmentChar_segment (text : String) :
    ∀ char ∈ (segment text).toList, isSegmentChar char = true := by
  rw [toList_segment]
  exact List.forall_mem_flatMap.mpr fun char _ => isSegmentChar_segmentChar char

theorem unescape_segmentChar (char : Char) (rest : List Char) :
    unescape (segmentChar char ++ rest) = Text.encodeChar char ++ unescape rest := by
  rw [segmentChar]
  by_cases plain : isFormPlain char = true
  · rw [if_pos plain]
    refine unescape_plain ?_ rest
    rintro rfl
    exact absurd plain (by decide)
  · rw [if_neg plain]
    exact unescape_escapes _ rest

/-- The octets of a segment are those of its text. -/
theorem unescape_segment (text : String) : unescape (segment text).toList = Text.octets text := by
  rw [toList_segment, Text.octets]
  induction text.toList with
  | nil => rfl
  | cons char rest ih => rw [List.flatMap_cons, List.flatMap_cons, unescape_segmentChar, ih]

/-- A segment is decoded as the text that it was written for. -/
theorem decode?_segment (text : String) : decode? (segment text) = some text := by
  rw [decode?, unescape_segment, Text.ofOctets?_octets]

theorem segment_ne_empty {text : String} (named : text ≠ "") : segment text ≠ "" := by
  intro empty
  have decoded := decode?_segment text
  rw [empty] at decoded
  have nothing : decode? "" = some "" := Text.ofOctets?_octets ""
  exact named (Option.some.inj (decoded.symm.trans nothing))

/-! ## Cutting at separators -/

section Cut

variable {separator : Char}

theorem cut_clean {piece : List Char} (clean : separator ∉ piece) :
    cut separator piece = [piece] := by
  induction piece with
  | nil => rfl
  | cons char rest ih =>
    rw [List.mem_cons, not_or] at clean
    rw [cut, if_neg (Ne.symm clean.1), ih clean.2]

theorem cut_append {piece : List Char} (clean : separator ∉ piece) (rest : List Char) :
    cut separator (piece ++ separator :: rest) = piece :: cut separator rest := by
  induction piece with
  | nil => rw [List.nil_append, cut, if_pos rfl]
  | cons char more ih =>
    rw [List.mem_cons, not_or] at clean
    rw [List.cons_append, cut, if_neg (Ne.symm clean.1), ih clean.2]

/-- Cutting undoes joining with the separator. -/
theorem cut_intercalate {pieces : List (List Char)} (some : pieces ≠ [])
    (clean : ∀ piece ∈ pieces, separator ∉ piece) :
    cut separator ([separator].intercalate pieces) = pieces := by
  induction pieces with
  | nil => exact absurd rfl some
  | cons piece rest ih =>
    rw [List.forall_mem_cons] at clean
    cases rest with
    | nil =>
      rw [List.intercalate_singleton]
      exact cut_clean clean.1
    | cons next more =>
      rw [List.intercalate_cons_cons, List.append_assoc, List.singleton_append,
        cut_append clean.1, ih (List.cons_ne_nil _ _) clean.2]

end Cut

end Headroom.Percent
