import Headroom.Text.Utf8
import Mathlib

/-!
# Texts as octets and back

The octets of a text are decoded as that text.  A character takes one octet or a first
octet with up to three that follow it; the first one tells how many and within which bounds
the next one lies, and the bounds are those of the code points that need as many octets.
-/

namespace Headroom.Text

theorem toNat_octet (value : Nat) (small : value < 256) : (UInt8.ofNat value).toNat = value := by
  rw [UInt8.toNat_ofNat', Nat.mod_eq_of_lt small]

/-! ## Following octets -/

theorem follow_done (value least greatest : Nat) (octets : List UInt8) :
    follow ⟨value, 0, least, greatest⟩ octets = (some value, octets) := by
  cases octets <;> rfl

/-- One more octet adds six binary places to the code point. -/
theorem follow_next {value following least greatest part : Nat} (part_lt : part < 64)
    (least_le : least ≤ 0x80 + part) (le_greatest : 0x80 + part ≤ greatest) (rest : List UInt8) :
    follow ⟨value, following + 1, least, greatest⟩ (.ofNat (0x80 + part) :: rest) =
      follow ⟨value * 64 + part, following, 0x80, 0xBF⟩ rest := by
  have octet := toNat_octet (0x80 + part) (by omega)
  have share : (0x80 + part) % 64 = part := by omega
  simp only [follow, octet, share, if_pos (And.intro least_le le_greatest)]

section Take

variable {code : Nat} {octet : UInt8} {rest : List UInt8}

theorem takeChar_lead {lead : Lead} (high : ¬ octet.toNat < 0x80)
    (leads : lead? octet = some lead) :
    takeChar octet rest = ((follow lead rest).1.map Char.ofNat, (follow lead rest).2) := by
  rw [takeChar, if_neg high, leads]

/-- A code point of two octets. -/
theorem takeChar_two (above : 0x80 ≤ code) (below : code < 0x800) :
    takeChar (.ofNat (0xC0 + code / 64)) (.ofNat (0x80 + code % 64) :: rest) =
      (some (Char.ofNat code), rest) := by
  have octet := toNat_octet (0xC0 + code / 64) (by omega)
  have leads : lead? (.ofNat (0xC0 + code / 64)) = some ⟨code / 64, 1, 0x80, 0xBF⟩ := by
    simp only [lead?, octet]
    rw [if_neg (by omega), if_pos (by omega), Nat.add_sub_cancel_left]
  have whole : code / 64 * 64 + code % 64 = code := by omega
  rw [takeChar_lead (by omega) leads,
    follow_next (by omega) (by omega) (by omega), follow_done, whole]
  rfl

/-- What the first of three octets says about the second: it is not too small where the share of
the first is zero, and not among the surrogates. -/
theorem lead_three (above : 0x800 ≤ code) (below : code < 0x10000)
    (noSurrogate : code < 0xD800 ∨ 0xDFFF < code) :
    ∃ least greatest, lead? (.ofNat (0xE0 + code / 4096)) = some ⟨code / 4096, 2, least, greatest⟩ ∧
      least ≤ 0x80 + code / 64 % 64 ∧ 0x80 + code / 64 % 64 ≤ greatest := by
  have octet := toNat_octet (0xE0 + code / 4096) (by omega)
  simp only [lead?, octet]
  rw [if_neg (by omega), if_neg (by omega)]
  by_cases first : code / 4096 = 0
  · rw [if_pos (by omega), first]
    exact ⟨0xA0, 0xBF, rfl, by omega, by omega⟩
  rw [if_neg (by omega)]
  by_cases surrogates : code / 4096 = 0xD
  · rw [if_pos (by omega), surrogates]
    exact ⟨0x80, 0x9F, rfl, by omega, by omega⟩
  · rw [if_neg (by omega), if_pos (by omega), Nat.add_sub_cancel_left]
    exact ⟨0x80, 0xBF, rfl, by omega, by omega⟩

theorem takeChar_three (above : 0x800 ≤ code) (below : code < 0x10000)
    (noSurrogate : code < 0xD800 ∨ 0xDFFF < code) :
    takeChar (.ofNat (0xE0 + code / 4096))
        (.ofNat (0x80 + code / 64 % 64) :: .ofNat (0x80 + code % 64) :: rest) =
      (some (Char.ofNat code), rest) := by
  have octet := toNat_octet (0xE0 + code / 4096) (by omega)
  obtain ⟨least, greatest, leads, least_le, le_greatest⟩ := lead_three above below noSurrogate
  have whole : (code / 4096 * 64 + code / 64 % 64) * 64 + code % 64 = code := by omega
  rw [takeChar_lead (by omega) leads, follow_next (by omega) least_le le_greatest,
    follow_next (by omega) (by omega) (by omega), follow_done, whole]
  rfl

/-- What the first of four octets says about the second: it is not too small where the share of
the first is zero, and no code point is beyond the last one. -/
theorem lead_four (above : 0x10000 ≤ code) (below : code < 0x110000) :
    ∃ least greatest,
      lead? (.ofNat (0xF0 + code / 262144)) = some ⟨code / 262144, 3, least, greatest⟩ ∧
        least ≤ 0x80 + code / 4096 % 64 ∧ 0x80 + code / 4096 % 64 ≤ greatest := by
  have octet := toNat_octet (0xF0 + code / 262144) (by omega)
  simp only [lead?, octet]
  rw [if_neg (by omega), if_neg (by omega), if_neg (by omega), if_neg (by omega), if_neg (by omega)]
  by_cases first : code / 262144 = 0
  · rw [if_pos (by omega), first]
    exact ⟨0x90, 0xBF, rfl, by omega, by omega⟩
  rw [if_neg (by omega)]
  by_cases last : code / 262144 = 4
  · rw [if_neg (by omega), if_pos (by omega), last]
    exact ⟨0x80, 0x8F, rfl, by omega, by omega⟩
  · rw [if_pos (by omega), Nat.add_sub_cancel_left]
    exact ⟨0x80, 0xBF, rfl, by omega, by omega⟩

theorem takeChar_four (above : 0x10000 ≤ code) (below : code < 0x110000) :
    takeChar (.ofNat (0xF0 + code / 262144))
        (.ofNat (0x80 + code / 4096 % 64) :: .ofNat (0x80 + code / 64 % 64) ::
          .ofNat (0x80 + code % 64) :: rest) =
      (some (Char.ofNat code), rest) := by
  have octet := toNat_octet (0xF0 + code / 262144) (by omega)
  obtain ⟨least, greatest, leads, least_le, le_greatest⟩ := lead_four above below
  have whole :
      ((code / 262144 * 64 + code / 4096 % 64) * 64 + code / 64 % 64) * 64 + code % 64 = code := by
    omega
  rw [takeChar_lead (by omega) leads, follow_next (by omega) least_le le_greatest,
    follow_next (by omega) (by omega) (by omega), follow_next (by omega) (by omega) (by omega),
    follow_done, whole]
  rfl

end Take

/-! ## Characters and texts -/

theorem toNat_bounds (char : Char) :
    char.toNat < 0xD800 ∨ 0xDFFF < char.toNat ∧ char.toNat < 0x110000 := char.valid

/-- The octets of a character are decoded as that character, whatever follows. -/
theorem decode_encodeChar (char : Char) (rest : List UInt8) :
    decode (encodeChar char ++ rest) = some char :: decode rest := by
  have bounds := toNat_bounds char
  have same : Char.ofNat char.toNat = char := Char.ofNat_toNat char
  rw [encodeChar]
  by_cases one : char.toNat < 0x80
  · have octet := toNat_octet char.toNat (by omega)
    have taken : takeChar (.ofNat char.toNat) rest = (some char, rest) := by
      rw [takeChar, octet, if_pos one, same]
    simp only [if_pos one, List.cons_append, List.nil_append, decode, taken]
  by_cases two : char.toNat < 0x800
  · simp only [if_neg one, if_pos two, List.cons_append, List.nil_append]
    rw [decode, takeChar_two (by omega) two, same]
  by_cases three : char.toNat < 0x10000
  · simp only [if_neg one, if_neg two, if_pos three, List.cons_append, List.nil_append]
    rw [decode, takeChar_three (by omega) three (by omega), same]
  · simp only [if_neg one, if_neg two, if_neg three, List.cons_append, List.nil_append]
    rw [decode, takeChar_four (by omega) (by omega), same]

theorem decode_flatMap (chars : List Char) :
    decode (chars.flatMap encodeChar) = chars.map some := by
  induction chars with
  | nil => rw [List.flatMap_nil, decode, List.map_nil]
  | cons char rest ih => rw [List.flatMap_cons, decode_encodeChar, ih, List.map_cons]

theorem mapM_map_some (chars : List Char) : (chars.map some).mapM id = some chars := by
  induction chars with
  | nil => rfl
  | cons char rest ih =>
    rw [List.map_cons, List.mapM_cons, ih]
    rfl

/-- The octets of a text are decoded as that text. -/
theorem ofOctets?_octets (text : String) : ofOctets? (octets text) = some text := by
  rw [ofOctets?, octets, decode_flatMap, mapM_map_some, Option.map_some, String.ofList_toList]

end Headroom.Text
