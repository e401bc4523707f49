import Headroom.Http.Api
import Headroom.Proofs.Http.Percent

/-!
# Names along a path

A path that is joined from segments reaches the service as it was written: it is cut into the
same segments, and nothing in them is written anew.  Only the segments of one and of two dots
are taken for steps along the path instead of names, and they are written for the texts `.` and
`..` only.
-/

namespace Headroom

open Percent (isSegmentChar segment)

/-! ## Characters -/

theorem Percent.toNat_lt_of_isSegmentChar {char : Char} (plain : isSegmentChar char = true) :
    char.toNat < 128 := by
  simp only [isSegmentChar, Percent.isFormPlain, Char.isAlphanum, Char.isAlpha, Char.isUpper,
    Char.isLower, Char.isDigit, Bool.or_eq_true, Bool.and_eq_true, decide_eq_true_eq,
    UInt32.le_iff_toNat_le] at plain
  have code : char.toNat = char.val.toNat := rfl
  have lastUpper : 'Z'.val.toNat = 90 := rfl
  have lastLower : 'z'.val.toNat = 122 := rfl
  have lastDigit : '9'.val.toNat = 57 := rfl
  obtain ((((letter | rfl) | rfl) | rfl) | rfl) | rfl := plain
  · omega
  all_goals decide

namespace Url

/-- The characters of segments have no meaning in an address and are not escaped in it. -/
theorem plain_of_isSegmentChar {char : Char} (plain : isSegmentChar char = true) :
    isPathPlain char = true ∧ isSeparator true char = false ∧ endsPath char = false := by
  have codes : ∀ code < 128, isSegmentChar (Char.ofNat code) = true →
      isPathPlain (Char.ofNat code) = true ∧ isSeparator true (Char.ofNat code) = false ∧
        endsPath (Char.ofNat code) = false := by decide +kernel
  have known := codes char.toNat (Percent.toNat_lt_of_isSegmentChar plain)
  rw [Char.ofNat_toNat] at known
  exact known plain

theorem separator_not_mem_segment (text : String) : '/' ∉ (segment text).toList :=
  fun member => absurd (Percent.isSegmentChar_segment text '/' member) (by decide)

theorem writeSegment_segment (text : String) :
    writeSegment (segment text).toList = segment text := by
  rw [writeSegment, Percent.flatMap_plain, String.ofList_toList]
  intro char member
  exact if_pos (plain_of_isSegmentChar (Percent.isSegmentChar_segment text char member)).1

/-! ## Joined segments -/

def joined (texts : List String) : String := String.intercalate "/" (texts.map segment)

theorem toList_joined (texts : List String) :
    (joined texts).toList = ['/'].intercalate (texts.map fun text => (segment text).toList) := by
  rw [joined, String.toList_intercalate, List.map_map]
  rfl

/-- What holds of separators and of the characters of segments holds along joined segments. -/
theorem forall_joined {p : Char → Prop} (separator : p '/')
    (plain : ∀ char, isSegmentChar char = true → p char) (texts : List String) :
    ∀ char ∈ (joined texts).toList, p char := by
  have named (text : String) : ∀ char ∈ (segment text).toList, p char :=
    fun char member => plain char (Percent.isSegmentChar_segment text char member)
  rw [toList_joined]
  induction texts with
  | nil => exact List.forall_mem_nil p
  | cons text rest ih =>
    cases rest with
    | nil => simpa only [List.map_cons, List.map_nil, List.intercalate_singleton] using named text
    | cons next more =>
      rw [List.map_cons, List.map_cons, List.intercalate_cons_cons]
      simp only [List.forall_mem_append, List.forall_mem_singleton]
      exact ⟨⟨named text, separator⟩, ih⟩

theorem cut_joined {texts : List String} (some : texts ≠ []) :
    Percent.cut '/' (joined texts).toList = texts.map fun text => (segment text).toList := by
  rw [toList_joined]
  apply Percent.cut_intercalate
  · exact fun nothing => some (List.map_eq_nil_iff.mp nothing)
  · intro piece member
    obtain ⟨text, -, rfl⟩ := List.mem_map.mp member
    exact separator_not_mem_segment text

/-- Joined segments are cut into these segments. -/
theorem segmentsOf_joined {texts : List String} (some : texts ≠ []) :
    segmentsOf true (joined texts).toList = texts.map segment := by
  let separate := fun char => if isSeparator true char then '/' else char
  have kept : ∀ char ∈ (joined texts).toList, separate char = char := by
    apply forall_joined (p := fun char => separate char = char) rfl
    intro char plain
    apply if_neg
    rw [(plain_of_isSegmentChar plain).2.1]
    exact Bool.false_ne_true
  have same : (joined texts).toList.map separate = (joined texts).toList :=
    (List.map_congr_left kept).trans (List.map_id' _)
  rw [segmentsOf, same, cut_joined some, List.map_map]
  exact List.map_congr_left fun text _ => writeSegment_segment text

/-! ## Dots -/

/-- The ways to write a dot in a segment, up to the case of letters. -/
def WritesDot (piece : List Char) : Prop :=
  piece.map Char.toLower = ['.'] ∨ piece.map Char.toLower = ['%', '2', 'e']

/-- A character with a given lower case is that character, or an upper case letter. -/
theorem eq_or_of_toLower {char lower : Char} (same : char.toLower = lower) :
    char = lower ∨ char.toNat + 32 = lower.toNat ∧ 65 ≤ char.toNat ∧ char.toNat ≤ 90 := by
  unfold Char.toLower at same
  split at same
  · rename_i upper
    right
    subst same
    have bounds : 65 ≤ char.toNat ∧ char.toNat ≤ 90 := upper
    have raised : (char.val + 32).toNat = (char.toNat + 32) % 4294967296 := UInt32.toNat_add _ _
    rw [Nat.mod_eq_of_lt (by omega)] at raised
    exact ⟨raised.symm, bounds⟩
  · exact .inl same

/-- Marks and digits have no upper case. -/
theorem eq_of_toLower {char mark : Char} (noLetter : mark.toNat < 97) (same : char.toLower = mark) :
    char = mark := by
  obtain same | ⟨raised, least, -⟩ := eq_or_of_toLower same
  · exact same
  · omega

/-- A dot stays a dot however it is written. -/
theorem unescape_dot {piece : List Char} (dot : WritesDot piece) (rest : List Char) :
    Percent.unescape (piece ++ rest) = 0x2E :: Percent.unescape rest := by
  simp only [WritesDot, List.map_eq_cons_iff, List.map_eq_nil_iff] at dot
  obtain ⟨char, _, rfl, plain, rfl⟩ |
    ⟨percent, _, rfl, mark, two, _, rfl, digit, letter, _, rfl, last, rfl⟩ := dot
  · rw [eq_of_toLower (by decide) plain]
    exact Percent.unescape_plain (by decide) rest
  · rw [eq_of_toLower (by decide) mark, eq_of_toLower (by decide) digit]
    obtain rfl | ⟨raised, -, -⟩ := eq_or_of_toLower last
    · rfl
    · have upper : letter = 'E' := Char.toNat_inj.mp (Nat.add_right_cancel raised)
      rw [upper]
      rfl

theorem decode?_of_unescape {part text : String}
    (octets : Percent.unescape part.toList = Text.octets text) :
    Percent.decode? part = some text := by
  rw [Percent.decode?, octets, Text.ofOctets?_octets]

theorem toList_toLower (text : String) : text.toLower.toList = text.toList.map Char.toLower :=
  String.toList_map

theorem decode?_of_isSingleDot {part : String} (dot : isSingleDot part = true) :
    Percent.decode? part = some "." := by
  rw [isSingleDot, Bool.or_eq_true, beq_iff_eq, beq_iff_eq, ← String.toList_inj,
    ← String.toList_inj, toList_toLower] at dot
  have read := unescape_dot dot []
  rw [List.append_nil] at read
  exact decode?_of_unescape read

/-- A segment that is taken for a step upwards decodes to two dots. -/
theorem decode?_of_isDoubleDot {part : String} (dots : isDoubleDot part = true) :
    Percent.decode? part = some ".." := by
  have lower : ∃ first second, part.toList.map Char.toLower = first ++ second ∧
      (first = ['.'] ∨ first = ['%', '2', 'e']) ∧ (second = ['.'] ∨ second = ['%', '2', 'e']) := by
    rw [← toList_toLower]
    simp only [isDoubleDot, List.contains_cons, List.contains_nil, Bool.or_eq_true, beq_iff_eq,
      Bool.or_false] at dots
    obtain same | same | same | same := dots <;> rw [same]
    · exact ⟨['.'], ['.'], rfl, .inl rfl, .inl rfl⟩
    · exact ⟨['.'], ['%', '2', 'e'], rfl, .inl rfl, .inr rfl⟩
    · exact ⟨['%', '2', 'e'], ['.'], rfl, .inr rfl, .inl rfl⟩
    · exact ⟨['%', '2', 'e'], ['%', '2', 'e'], rfl, .inr rfl, .inr rfl⟩
  obtain ⟨_, _, lower, one, other⟩ := lower
  obtain ⟨first, second, whole, rfl, rfl⟩ := List.map_eq_append_iff.mp lower
  have read : Percent.unescape (first ++ (second ++ [])) = [0x2E, 0x2E] := by
    rw [unescape_dot one, unescape_dot other]
    rfl
  rw [List.append_nil, ← whole] at read
  exact decode?_of_unescape read

/-- A segment is a step to its own place only if it is written for a dot. -/
@[simp]
theorem isSingleDot_segment (text : String) : isSingleDot (segment text) = true ↔ text = "." := by
  constructor
  · intro dot
    exact Option.some.inj ((Percent.decode?_segment text).symm.trans (decode?_of_isSingleDot dot))
  · rintro rfl
    have lower : (segment ".").toLower = "." := by
      rw [← String.toList_inj, toList_toLower]
      decide
    rw [isSingleDot, lower]
    rfl

/-- A segment is a step up only if it is written for two dots. -/
@[simp]
theorem isDoubleDot_segment (text : String) : isDoubleDot (segment text) = true ↔ text = ".." := by
  constructor
  · intro dots
    exact Option.some.inj ((Percent.decode?_segment text).symm.trans (decode?_of_isDoubleDot dots))
  · rintro rfl
    have lower : (segment "..").toLower = ".." := by
      rw [← String.toList_inj, toList_toLower]
      decide
    rw [isDoubleDot, lower]
    rfl

/-! ## Walks -/

def IsStep (text : String) : Prop := text = "." ∨ text = ".."

instance (text : String) : Decidable (IsStep text) := inferInstanceAs (Decidable (_ ∨ _))

/-- Names are walked along one by one. -/
theorem walk_names {texts : List String} (named : ∀ text ∈ texts, ¬ IsStep text)
    (place : List String) : walk place (texts.map segment) = place ++ texts.map segment := by
  induction texts generalizing place with
  | nil => exact (List.append_nil place).symm
  | cons text rest ih =>
    rw [List.forall_mem_cons, IsStep, not_or, ← isSingleDot_segment, ← isDoubleDot_segment] at named
    obtain ⟨⟨noDot, noDots⟩, named⟩ := named
    cases rest with
    | nil => rw [List.map_singleton, walk, if_neg noDots, if_neg noDot]
    | cons next more =>
      rw [List.map_cons, List.map_cons, walk, if_neg noDots, if_neg noDot, ← List.map_cons,
        ih named, List.append_assoc, List.singleton_append]
      exact List.cons_ne_nil _ _

/-- Segments that are joined to an address are walked along from its last separator. -/
theorem join?_joined {base : Url} (placed : base.opaqueRest = false) {texts : List String}
    (some : texts ≠ []) :
    base.join? (joined texts) = Option.some
      { base with path := walk base.path.dropLast (texts.map segment), query := none } := by
  rw [join?, placed, segmentsOf_joined some]
  rfl

/-! ## Requests -/

theorem joined_singleton (text : String) : joined [text] = segment text :=
  String.intercalate_singleton

theorem joined_cons_cons (text next : String) (rest : List String) :
    joined (text :: next :: rest) = segment text ++ "/" ++ joined (next :: rest) :=
  String.intercalate_cons_cons

/-- Each segment of the path of an address has a separator in front. -/
theorem pathText_segments {url : Url} {texts : List String} (some : texts ≠ [])
    (path : url.path = texts.map segment) : url.pathText = "/" ++ joined texts := by
  rw [pathText, path]
  clear path
  induction texts with
  | nil => exact absurd rfl some
  | cons text rest ih =>
    cases rest with
    | nil =>
      rw [List.map_singleton, List.map_singleton, String.join_cons, String.join_nil,
        String.append_empty, joined_singleton]
    | cons next more =>
      rw [List.map_cons, List.map_cons, String.join_cons, ih (List.cons_ne_nil _ _),
        joined_cons_cons, String.append_assoc, String.append_assoc]

/-- A path of segments is taken from an address as it is written. -/
theorem splitTarget_joined (texts : List String) :
    Request.splitTarget ("/" ++ joined texts) = ("/" ++ joined texts, none) := by
  have whole : ("/" ++ joined texts).toList = '/' :: (joined texts).toList :=
    String.toList_append
  have kept : ∀ char ∈ '/' :: (joined texts).toList, endsPath char = false := by
    rw [List.forall_mem_cons]
    exact ⟨rfl, forall_joined (p := fun char => endsPath char = false) rfl
      (fun _ plain => (plain_of_isSegmentChar plain).2.2) texts⟩
  have without (mark : Char) (ends : endsPath mark = true) :
      ∀ char ∈ '/' :: (joined texts).toList, (char != mark) = true := by
    intro char member
    apply bne_iff_ne.mpr
    rintro rfl
    exact absurd ((kept char member).symm.trans ends) Bool.false_ne_true
  have within : Request.afterHost? ('/' :: (joined texts).toList) = none := rfl
  rw [Request.splitTarget, whole, List.takeWhile_eq_self_iff.mpr (without '#' rfl), within]
  simp only [Option.getD_none]
  rw [List.takeWhile_eq_self_iff.mpr (without '?' rfl),
    List.dropWhile_eq_nil_iff.mpr (without '?' rfl), ← whole, String.ofList_toList]

end Url

/-- The path of a request to an address of segments is cut into these segments. -/
theorem Route.segments_joined {texts : List String} (some : texts ≠ []) :
    Route.segments ("/" ++ Url.joined texts) = "" :: texts.map segment := by
  have whole : ("/" ++ Url.joined texts).toList = '/' :: (Url.joined texts).toList :=
    String.toList_append
  rw [Route.segments, whole, Percent.cut, if_pos rfl, Url.cut_joined some, List.map_cons,
    List.map_map]
  simp

end Headroom
