import Headroom.Storage.Path
import Mathlib

/-!
# The last name of a path

A path is cut in two behind its last slash.  What stands before the cut decides through which
directories a system goes; what stands after it is the name that is looked up in the last of
them.  Another extension changes that name and nothing before it, so a path and the same path
with another extension lead to neighbours.
-/

namespace Headroom.Path

/-- A path that is cut behind its last slash. -/
structure Splits (path : String) (front name : List Char) : Prop where
  joined : path.toList = front ++ name
  plain : '/' ∉ name
  closed : front = [] ∨ ∃ above, front = above ++ ['/']

/-- Every path can be cut behind its last slash. -/
theorem exists_splits (path : String) : ∃ front name, Splits path front name := by
  suffices cut : ∀ chars : List Char, ∃ front name, chars = front ++ name ∧ '/' ∉ name ∧
      (front = [] ∨ ∃ above, front = above ++ ['/']) by
    obtain ⟨front, name, joined, plain, closed⟩ := cut path.toList
    exact ⟨front, name, joined, plain, closed⟩
  intro chars
  induction chars with
  | nil => exact ⟨[], [], rfl, List.not_mem_nil, .inl rfl⟩
  | cons char rest ih =>
    obtain ⟨front, name, rfl, plain, closed⟩ := ih
    rcases closed with rfl | ⟨above, rfl⟩
    · by_cases slash : char = '/'
      · exact ⟨[char], name, rfl, plain, .inr ⟨[], by rw [slash, List.nil_append]⟩⟩
      · refine ⟨[], char :: name, rfl, ?_, .inl rfl⟩
        rw [List.mem_cons, not_or]
        exact ⟨fun same => slash same.symm, plain⟩
    · exact ⟨char :: (above ++ ['/']), name, rfl, plain, .inr ⟨char :: above, rfl⟩⟩

/-! ## Pieces and names -/

theorem cut_append_slash (after : List Char) (before : List Char) :
    ∀ (current : List Char) (position : Nat), cut current position (before ++ '/' :: after) =
      cut current position before ++ cut [] (position + before.length + 1) after := by
  induction before with
  | nil => exact fun _ _ => by simp [cut]
  | cons char rest ih =>
    intro current position
    have shift : position + (char :: rest).length + 1 = position + 1 + rest.length + 1 := by
      rw [List.length_cons]
      omega
    rw [List.cons_append, cut, cut, shift]
    split
    · rw [ih, List.cons_append]
    · rw [ih]

theorem cut_plain {name : List Char} (plain : '/' ∉ name) :
    ∀ (current : List Char) (position : Nat), cut current position name =
      [⟨String.ofList (current.reverse ++ name), position + name.length⟩] := by
  induction name with
  | nil => exact fun _ _ => by simp [cut]
  | cons char rest ih =>
    rw [List.mem_cons, not_or] at plain
    intro current position
    rw [cut, if_neg fun slash => plain.1 slash.symm, ih plain.2, List.reverse_cons,
      List.append_assoc, List.singleton_append, List.length_cons]
    congr 2
    omega

/-- A name begins with its stem. -/
theorem stem_isPrefix (name : String) : (stem name).toList <+: name.toList := by
  have front : ((name.toList.reverse.dropWhile (· != '.')).drop 1) <:+ name.toList.reverse :=
    (List.drop_suffix _ _).trans (List.dropWhile_suffix _)
  rw [stem]
  split
  · exact List.prefix_rfl
  · rw [String.toList_ofList, ← List.reverse_suffix, List.reverse_reverse]
    exact front

def leading (front : List Char) : List Part := if front = [] then [] else cut [] 0 front.dropLast

/-- The names that a path goes through before its last one. -/
def way (front : List Char) : List String := ((leading front).map (·.name)).filter (· != "")

theorem bne_empty {name : List Char} (named : name ≠ []) : (String.ofList name != "") = true := by
  simpa [bne_iff_ne, String.ext_iff] using named

namespace Splits

variable {path : String} {front name : List Char} (splits : Splits path front name)

include splits

/-- The last piece of a path is its last name. -/
theorem pieces_eq :
    pieces path = leading front ++ [⟨String.ofList name, path.toList.length⟩] := by
  rw [pieces, splits.joined]
  rcases splits.closed with rfl | ⟨above, rfl⟩
  · simp [leading, cut_plain splits.plain]
  · have some : above ++ ['/'] ≠ [] := by simp
    rw [leading, if_neg some, List.dropLast_concat, List.append_assoc, List.singleton_append,
      cut_append_slash, cut_plain splits.plain]
    congr 3
    simp
    omega

theorem names_eq (named : name ≠ []) : names path = way front ++ [String.ofList name] := by
  rw [names, splits.pieces_eq, List.map_append, List.filter_append, List.map_singleton,
    List.filter_singleton, bne_empty named, cond_true]
  rfl

theorem isRooted_eq : isRooted path = decide (front.head? = some '/') := by
  rw [isRooted, splits.joined]
  rcases splits.closed with rfl | ⟨above, rfl⟩
  · cases name with
    | nil => rfl
    | cons char rest =>
      have other : char ≠ '/' := fun same => splits.plain (same ▸ List.mem_cons_self)
      simp [other]
  · rw [List.append_assoc]
    cases above <;> rfl

theorem start_eq {other : String} {neighbour : List Char} (beside : Splits other front neighbour) :
    start other = start path := by
  rw [start, start, splits.isRooted_eq, beside.isRooted_eq]

theorem endsInSlash_eq_false (named : name ≠ []) : endsInSlash path = false := by
  have last : path.toList.getLast? = some (name.getLast named) := by
    rw [splits.joined, List.getLast?_append_of_ne_nil _ named, List.getLast?_eq_some_getLast named]
  have other : name.getLast named ≠ '/' := fun same =>
    splits.plain (same ▸ List.getLast_mem named)
  simp [endsInSlash, last, other]

theorem steps_eq (named : name ≠ []) : steps path = way front ++ [String.ofList name] := by
  rw [steps, splits.endsInSlash_eq_false named, if_neg Bool.false_ne_true, List.append_nil,
    splits.names_eq named]

/-- A path without a last name leads to a directory. -/
theorem steps_of_open (opened : name = []) :
    steps path = [] ∨ ∃ names, steps path = names ++ ["."] := by
  subst opened
  rw [steps]
  cases ends : endsInSlash path with
  | true => exact .inr ⟨names path, rfl⟩
  | false =>
    left
    have last : path.toList.getLast? = front.getLast? := by rw [splits.joined, List.append_nil]
    rw [endsInSlash, last] at ends
    rcases splits.closed with rfl | ⟨above, rfl⟩
    · rw [names, splits.pieces_eq]
      rfl
    · simpa using ends

/-! ## File names -/

theorem getLast?_parts (named : name ≠ []) (notDot : name ≠ ['.']) :
    (parts path).getLast? = some ⟨String.ofList name, path.toList.length⟩ := by
  have kept : (String.ofList name != "" && String.ofList name != ".") = true := by
    have other : (String.ofList name != ".") = true := by
      simpa [bne_iff_ne, String.ext_iff] using notDot
    rw [bne_empty named, other]
    rfl
  rw [parts, splits.pieces_eq, List.filter_append, List.filter_singleton, kept, cond_true,
    ← List.append_assoc, List.getLast?_concat]

theorem withExtension_of_above (above : name = ['.', '.']) (extension : String) :
    withExtension path extension = path := by
  subst above
  have noFile : fileName? path = none := by
    rw [fileName?, splits.getLast?_parts (by simp) (by simp)]
    rfl
  rw [withExtension, noFile]

/-- Another extension changes the last name only. -/
theorem withExtension (named : name ≠ []) (notDot : name ≠ ['.']) (notAbove : name ≠ ['.', '.'])
    {extension : String} (plain : '/' ∉ extension.toList) :
    Splits (Path.withExtension path extension) front
      ((stem (String.ofList name)).toList ++ '.' :: extension.toList) := by
  obtain ⟨rest, whole⟩ := stem_isPrefix (String.ofList name)
  rw [String.toList_ofList] at whole
  have file : fileName? path = some ⟨String.ofList name, path.toList.length⟩ := by
    have notAboveText : String.ofList name ≠ ".." := by simpa [String.ext_iff] using notAbove
    have notDotText : String.ofList name ≠ "." := by simpa [String.ext_iff] using notDot
    rw [fileName?, splits.getLast?_parts named notDot, Option.filter_some, if_pos]
    simp [notAboveText, notDotText]
  have kept : path.toList.take (path.toList.length - (String.ofList name).length +
      (stem (String.ofList name)).length) = front ++ (stem (String.ofList name)).toList := by
    have size : path.toList.length - (String.ofList name).length = front.length := by
      simp [splits.joined, ← String.length_toList]
    rw [size, splits.joined, List.take_length_add_append, ← String.length_toList,
      ← List.prefix_iff_eq_take.mp ⟨rest, whole⟩]
  constructor
  · rw [Path.withExtension, file]
    simp only [upTo, kept, String.toList_append, String.toList_ofList]
    simp
  · have stemPlain : '/' ∉ (stem (String.ofList name)).toList := fun member =>
      splits.plain (whole ▸ List.mem_append_left _ member)
    simp [stemPlain, plain]
  · exact splits.closed

end Splits

end Headroom.Path
