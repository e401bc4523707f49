import Headroom.Transition
import Mathlib

/-!
# What a history still knows

A history holds the newest of all the transitions that were recorded in it, as many as its
capacity allows, in the order in which they were recorded.  An answer is taken from everything
that is held: first the transitions of other nodes are left out, then the oldest ones beyond the
limit.  So a transition is lost to newer ones of any node, but once it is held it is hidden only
by newer ones of its own node.
-/

namespace Headroom

/-! ## The newest items of a list -/

section Newest

variable {α β : Type} {part whole : List α} {count : Nat}

theorem length_rtake (items : List α) (count : Nat) :
    (items.rtake count).length = min count items.length := by
  rw [List.rtake, List.length_drop]
  omega

theorem rtake_suffix (items : List α) (count : Nat) : items.rtake count <:+ items :=
  List.drop_suffix _ _

theorem map_rtake (f : α → β) (items : List α) (count : Nat) :
    (items.rtake count).map f = (items.map f).rtake count := by
  rw [List.rtake, List.rtake, List.map_drop, List.length_map]

/-- What no longer fits before an item is added does not fit afterwards. -/
theorem rtake_concat_rtake (items : List α) (item : α) (count : Nat) :
    (items.rtake count ++ [item]).rtake count = (items ++ [item]).rtake count := by
  cases count with
  | zero => rw [List.rtake_zero, List.rtake_zero]
  | succ room =>
    have kept : (items.rtake (room + 1)).rtake room = items.rtake room := by
      simp only [List.rtake_eq_reverse_take_reverse, List.reverse_reverse, List.take_take]
      rw [Nat.min_eq_left (Nat.le_succ room)]
    rw [List.rtake_concat_succ, List.rtake_concat_succ, kept]

/-- An end of a list is among the newest items if it is short enough. -/
theorem suffix_rtake_iff (suffix : part <:+ whole) :
    part <:+ whole.rtake count ↔ part.length ≤ count := by
  have long := suffix.length_le
  constructor
  · intro held
    have short := held.length_le
    rw [length_rtake] at short
    omega
  · intro short
    apply List.suffix_of_suffix_length_le suffix (rtake_suffix whole count)
    rw [length_rtake]
    omega

end Newest

namespace History

variable {history : History}

/-! ## What is held -/

@[simp]
theorem capacity_record (history : History) (transition : Transition) :
    (history.record transition).capacity = history.capacity := by
  rw [record]
  split <;> rfl

/-- A transition joins the others, and the oldest of them all goes if they are too many. -/
theorem entries_record (bounded : history.size ≤ history.capacity) (transition : Transition) :
    (history.record transition).entries =
      (history.entries ++ [transition]).rtake history.capacity := by
  rw [size] at bounded
  rw [record]
  split
  · rename_i noRoom
    have nothing : history.entries = [] :=
      List.eq_nil_of_length_eq_zero (Nat.le_zero.mp (noRoom ▸ bounded))
    rw [noRoom, List.rtake_zero, nothing]
  · rename_i room
    have surplus : history.entries.length + 1 - history.capacity ≤ history.entries.length := by
      omega
    rw [List.rtake, List.length_append, List.length_singleton,
      List.drop_append_of_le_length surplus]

/-- Recording goes on from the newest transitions as it would from all of them. -/
theorem entries_foldl_record (later : List Transition) :
    ∀ {history : History} {earlier : List Transition},
      history.entries = earlier.rtake history.capacity →
        (later.foldl record history).entries = (earlier ++ later).rtake history.capacity := by
  induction later with
  | nil =>
    intro history earlier held
    rw [List.foldl_nil, List.append_nil, held]
  | cons transition rest ih =>
    intro history earlier held
    have bounded : history.size ≤ history.capacity := by
      rw [size, held, length_rtake]
      exact Nat.min_le_left _ _
    have next : (history.record transition).entries =
        (earlier ++ [transition]).rtake (history.record transition).capacity := by
      rw [entries_record bounded, held, rtake_concat_rtake, capacity_record]
    rw [List.foldl_cons, ih next, capacity_record, List.append_assoc, List.singleton_append]

def recorded (capacity : Nat) (log : List Transition) : History :=
  log.foldl record (empty capacity)

theorem entries_recorded (capacity : Nat) (log : List Transition) :
    (recorded capacity log).entries = log.rtake capacity := by
  have nothing : (empty capacity).entries =
      ([] : List Transition).rtake (empty capacity).capacity := (List.rtake_nil capacity).symm
  rw [recorded, entries_foldl_record log nothing, List.nil_append]
  rfl

/-! ## What is answered -/

/-- Reading back from the newest entry and stopping at the limit finds the end of what the
history holds about the node. -/
theorem recent_eq_rtake (history : History) (id : Option String) (limit : Nat) :
    history.recent id limit = (history.entries.filter (concerns id)).rtake limit := by
  rw [recent, List.filter_reverse, ← List.rtake_eq_reverse_take_reverse]

/-- A transition that is wanted is found as long as there is room in the history for those after
it, and within the limit for those of them that are wanted too. -/
theorem filter_suffix_rtake_iff {log older newer : List Transition} {transition : Transition}
    {p : Transition → Bool} (split : log = older ++ transition :: newer)
    (wanted : p transition = true) (capacity limit : Nat) :
    (transition :: newer).filter p <:+ ((log.rtake capacity).filter p).rtake limit ↔
      newer.length < capacity ∧ newer.countP p < limit := by
  have isEnd : transition :: newer <:+ log := ⟨older, split.symm⟩
  have count : ((transition :: newer).filter p).length = newer.countP p + 1 := by
    rw [← List.countP_eq_length_filter, List.countP_cons_of_pos wanted]
  have held (room : newer.length < capacity) :
      (transition :: newer).filter p <:+ (log.rtake capacity).filter p :=
    ((suffix_rtake_iff isEnd).mpr room).filter p
  constructor
  · intro found
    have room : newer.length < capacity := by
      -- Otherwise only transitions after this one are held, which are too few of the wanted ones.
      by_contra full
      have after : log.rtake capacity <:+ newer := by
        apply List.suffix_of_suffix_length_le (rtake_suffix log capacity)
        · exact (List.suffix_cons transition newer).trans isEnd
        · rw [length_rtake]
          omega
      have few := (found.trans (rtake_suffix _ limit)).length_le
      have fewer := (after.filter p).length_le
      rw [← List.countP_eq_length_filter (l := newer)] at fewer
      omega
    refine ⟨room, ?_⟩
    have short := (suffix_rtake_iff (held room)).mp found
    omega
  · rintro ⟨room, few⟩
    apply (suffix_rtake_iff (held room)).mpr
    omega

/-- A history in which any transitions were recorded answers from the newest of them that its
capacity allows: with the newest ones of the given node, or of all nodes, as many as the limit
allows, oldest first.  It is the same to read back from the newest one until the limit is
reached.  Which transitions of the node are found depends on the transitions after them only,
and those of other nodes count for the capacity but not for the limit. -/
theorem recent_recorded (capacity : Nat) (log : List Transition) (id : Option String)
    (limit : Nat) :
    let history := recorded capacity log
    let kept := log.rtake capacity
    let answer := history.recent id limit
    history.size = min capacity log.length ∧
      answer = (kept.filter (concerns id)).rtake limit ∧
      answer = ((kept.reverse.filter (concerns id)).take limit).reverse ∧
      answer.length = min limit (kept.countP (concerns id)) ∧
      (∀ older transition newer, log = older ++ transition :: newer →
        concerns id transition = true →
          ((transition :: newer).filter (concerns id) <:+ answer ↔
            newer.length < capacity ∧ newer.countP (concerns id) < limit)) ∧
      (capacity = 0 ∨ limit = 0 → answer = []) := by
  intro history kept answer
  have entries : history.entries = kept := entries_recorded capacity log
  have found : answer = (kept.filter (concerns id)).rtake limit := by
    rw [← entries, ← recent_eq_rtake]
  refine ⟨?size, found, ?backwards, ?length, ?unhidden, ?nothing⟩
  case size => rw [size, entries, length_rtake]
  case backwards =>
    rw [← entries]
    rfl
  case length => rw [found, length_rtake, List.countP_eq_length_filter]
  case unhidden =>
    intro older transition newer split wanted
    rw [found]
    exact filter_suffix_rtake_iff split wanted capacity limit
  case nothing =>
    rw [found]
    rintro (rfl | rfl)
    · have nothing : kept = [] := List.rtake_zero log
      rw [nothing, List.filter_nil, List.rtake_nil]
    · exact List.rtake_zero _

end History

end Headroom
