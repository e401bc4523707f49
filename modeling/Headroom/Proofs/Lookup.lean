import Headroom.Dictionary
import Mathlib

/-!
# Lookups in dictionaries

The entries of a dictionary are in strictly increasing key order, so a key occurs
at most once and the lookups determine the dictionary.  These lemmas say what
every operation does to the lookups and to the number of keys; no later proof
opens the list of entries.
-/

namespace Headroom.Dictionary

variable {κ β γ : Type}

section Entries

variable [DecidableEq κ]

theorem lookup_eq_none_of_ne {key : κ} {entries : List (κ × β)}
    (h : ∀ entry ∈ entries, entry.1 ≠ key) : lookup key entries = none := by
  induction entries with
  | nil => rfl
  | cons head tail ih =>
    have headNe : head.1 ≠ key := h head List.mem_cons_self
    rw [lookup, if_neg headNe]
    exact ih fun entry member => h entry (List.mem_cons_of_mem _ member)

theorem mem_of_lookup {key : κ} {value : β} {entries : List (κ × β)}
    (h : lookup key entries = some value) : (key, value) ∈ entries := by
  induction entries with
  | nil => simp [lookup] at h
  | cons head tail ih =>
    rw [lookup] at h
    split at h
    · rename_i same
      cases h
      rw [← same]
      exact List.mem_cons_self
    · exact List.mem_cons_of_mem _ (ih h)

theorem lookup_filter (keep : κ → β → Bool) (key : κ) {entries : List (κ × β)}
    (distinct : entries.Pairwise fun left right => left.1 ≠ right.1) :
    lookup key (entries.filter fun entry => keep entry.1 entry.2) =
      (lookup key entries).filter (keep key) := by
  induction entries with
  | nil => rfl
  | cons head tail ih =>
    obtain ⟨headNe, tailDistinct⟩ := List.pairwise_cons.mp distinct
    by_cases same : head.1 = key
    · subst same
      have absent : lookup head.1 (tail.filter fun entry => keep entry.1 entry.2) = none :=
        lookup_eq_none_of_ne fun entry member =>
          (headNe entry (List.mem_of_mem_filter member)).symm
      by_cases kept : keep head.1 head.2 <;> simp [lookup, kept, absent, Option.filter]
    · by_cases kept : keep head.1 head.2 <;> simp [lookup, kept, same, ih tailDistinct]

theorem lookup_map (change : κ → β → γ) (key : κ) (entries : List (κ × β)) :
    lookup key (entries.map fun entry => (entry.1, change entry.1 entry.2)) =
      (lookup key entries).map (change key) := by
  induction entries with
  | nil => rfl
  | cons head tail ih =>
    by_cases same : head.1 = key
    · subst same
      simp [lookup]
    · simp [lookup, same, ih]

theorem lookup_of_mem {key : κ} {value : β} {entries : List (κ × β)}
    (distinct : entries.Pairwise fun left right => left.1 ≠ right.1)
    (h : (key, value) ∈ entries) : lookup key entries = some value := by
  induction entries with
  | nil => cases h
  | cons head tail ih =>
    obtain ⟨headNe, tailDistinct⟩ := List.pairwise_cons.mp distinct
    cases List.mem_cons.mp h with
    | inl same =>
      subst same
      simp [lookup]
    | inr inTail =>
      rw [lookup, if_neg (headNe _ inTail)]
      exact ih tailDistinct inTail

end Entries

section Order

variable [LT κ]

/-- The keys increase strictly. -/
theorem keys_sorted (dictionary : Dictionary κ β) :
    dictionary.keys.Pairwise fun left right => left < right :=
  List.pairwise_map.mpr dictionary.sorted

/-- What a condition keeps and what it drops are all there is. -/
theorem size_filter_add (keep : κ → β → Bool) (dictionary : Dictionary κ β) :
    (dictionary.filter keep).size +
      (dictionary.filter fun key value => !keep key value).size = dictionary.size := by
  have split := List.length_eq_length_filter_add
    (l := dictionary.entries) fun entry => keep entry.1 entry.2
  exact split.symm

@[simp]
theorem size_map (change : κ → β → γ) (dictionary : Dictionary κ β) :
    (dictionary.map change).size = dictionary.size :=
  List.length_map _

variable [DecidableEq κ]

@[simp]
theorem get?_empty (key : κ) : (empty : Dictionary κ β).get? key = none := rfl

@[simp]
theorem get?_map (change : κ → β → γ) (dictionary : Dictionary κ β) (key : κ) :
    (dictionary.map change).get? key = (dictionary.get? key).map (change key) :=
  lookup_map change key dictionary.entries

theorem contains_iff {dictionary : Dictionary κ β} {key : κ} :
    dictionary.contains key = true ↔ ∃ value, dictionary.get? key = some value := by
  rw [contains, Option.isSome_iff_exists]

theorem contains_eq_false {dictionary : Dictionary κ β} {key : κ} :
    dictionary.contains key = false ↔ dictionary.get? key = none := by
  rw [contains, Option.isSome_eq_false_iff, Option.isNone_iff_eq_none]

end Order

section StrictOrder

variable [LT κ] [KeyOrder κ]

theorem ne_of_less {left right : κ} (h : left < right) : left ≠ right := by
  rintro rfl
  exact KeyOrder.irrefl left h

theorem distinct (dictionary : Dictionary κ β) :
    dictionary.entries.Pairwise fun left right => left.1 ≠ right.1 :=
  dictionary.sorted.imp ne_of_less

variable [DecidableEq κ]

theorem mem_entries {dictionary : Dictionary κ β} {key : κ} {value : β} :
    (key, value) ∈ dictionary.entries ↔ dictionary.get? key = some value :=
  ⟨lookup_of_mem dictionary.distinct, mem_of_lookup⟩

theorem mem_values {dictionary : Dictionary κ β} {value : β} :
    value ∈ dictionary.values ↔ ∃ key, dictionary.get? key = some value := by
  constructor
  · intro member
    obtain ⟨⟨key, other⟩, inside, rfl⟩ := List.mem_map.mp member
    exact ⟨key, mem_entries.mp inside⟩
  · rintro ⟨key, found⟩
    exact List.mem_map.mpr ⟨(key, value), mem_entries.mpr found, rfl⟩

theorem mem_keys {dictionary : Dictionary κ β} {key : κ} :
    key ∈ dictionary.keys ↔ ∃ value, dictionary.get? key = some value := by
  constructor
  · intro member
    obtain ⟨⟨other, value⟩, inside, rfl⟩ := List.mem_map.mp member
    exact ⟨value, mem_entries.mp inside⟩
  · rintro ⟨value, found⟩
    exact List.mem_map.mpr ⟨(key, value), mem_entries.mpr found, rfl⟩

/-- Two dictionaries with the same lookups are equal: both list the same entries, and the
strict order leaves only one arrangement of them. -/
theorem ext_get? {left right : Dictionary κ β} (h : ∀ key, left.get? key = right.get? key) :
    left = right := by
  have nodup (dictionary : Dictionary κ β) : dictionary.entries.Nodup :=
    dictionary.distinct.imp fun keysDiffer same => keysDiffer (congrArg Prod.fst same)
  have permutation : left.entries.Perm right.entries := by
    refine (List.perm_ext_iff_of_nodup (nodup left) (nodup right)).mpr fun ⟨key, value⟩ => ?_
    rw [mem_entries, mem_entries, h]
  apply ext
  refine permutation.eq_of_pairwise (fun first second _ _ below above => ?_) left.sorted
    right.sorted
  exact absurd (KeyOrder.trans below above) (KeyOrder.irrefl _)

@[simp]
theorem get?_filter (keep : κ → β → Bool) (dictionary : Dictionary κ β) (key : κ) :
    (dictionary.filter keep).get? key = (dictionary.get? key).filter (keep key) :=
  lookup_filter keep key dictionary.distinct

@[simp]
theorem get?_erase (dictionary : Dictionary κ β) (key other : κ) :
    (dictionary.erase key).get? other = if other = key then none else dictionary.get? other := by
  rw [erase, get?_filter]
  by_cases same : other = key <;> cases dictionary.get? other <;> simp [same]

end StrictOrder

section Insertion

variable [LT κ] [DecidableEq κ] [DecidableLT κ] [KeyOrder κ]

/-- After an entry was placed, its key leads to it and every other key to what it led to. -/
theorem lookup_place (key : κ) (value : β) (other : κ) {entries : List (κ × β)} :
    lookup other (place key value entries) =
      if other = key then some value else lookup other entries := by
  induction entries with
  | nil =>
    by_cases same : other = key
    · simp [place, lookup, same]
    · simp [place, lookup, same, Ne.symm same]
  | cons head tail ih =>
    rw [place]
    split
    · by_cases same : other = key
      · simp [lookup, same]
      · simp [lookup, same, Ne.symm same]
    · split
      · rename_i above
        have headNe : head.1 ≠ key := ne_of_less above
        by_cases same : other = key
        · subst same
          simp [lookup, headNe, ih]
        · simp [lookup, same, ih]
      · rename_i notBelow notAbove
        have headEq : head.1 = key := KeyOrder.connex notAbove notBelow
        by_cases same : other = key
        · simp [lookup, same]
        · simp [lookup, same, headEq, Ne.symm same]

/-- A new key makes a dictionary longer by one, and a known one does not. -/
theorem length_place (key : κ) (value : β) {entries : List (κ × β)}
    (sorted : entries.Pairwise fun left right => left.1 < right.1) :
    (place key value entries).length =
      if (lookup key entries).isSome then entries.length else entries.length + 1 := by
  induction entries with
  | nil => rfl
  | cons head tail ih =>
    obtain ⟨headBelow, tailSorted⟩ := List.pairwise_cons.mp sorted
    rw [place]
    split
    · rename_i below
      have absent : lookup key (head :: tail) = none := by
        refine lookup_eq_none_of_ne fun entry member => ?_
        cases List.mem_cons.mp member with
        | inl same => exact same ▸ (ne_of_less below).symm
        | inr inTail => exact (ne_of_less (KeyOrder.trans below (headBelow entry inTail))).symm
      simp [absent]
    · split
      · rename_i above
        have headNe : head.1 ≠ key := ne_of_less above
        simp only [List.length_cons, ih tailSorted, lookup, headNe, if_false]
        split <;> rfl
      · rename_i notBelow notAbove
        have headEq : head.1 = key := KeyOrder.connex notAbove notBelow
        simp [lookup, headEq]

@[simp]
theorem get?_insert (dictionary : Dictionary κ β) (key : κ) (value : β) (other : κ) :
    (dictionary.insert key value).get? other =
      if other = key then some value else dictionary.get? other :=
  lookup_place key value other

theorem size_insert (dictionary : Dictionary κ β) (key : κ) (value : β) :
    (dictionary.insert key value).size =
      if dictionary.contains key then dictionary.size else dictionary.size + 1 :=
  length_place key value dictionary.sorted

theorem size_erase_add (dictionary : Dictionary κ β) (key : κ) :
    (dictionary.erase key).size + (if dictionary.contains key then 1 else 0) =
      dictionary.size := by
  cases found : dictionary.get? key with
  | none =>
    have same : dictionary.erase key = dictionary := ext_get? fun other => by
      rw [get?_erase]
      split
      · rename_i own
        rw [own, found]
      · rfl
    rw [same, contains_eq_false.mpr found]
    rfl
  | some value =>
    have again : (dictionary.erase key).insert key value = dictionary := ext_get? fun other => by
      rw [get?_insert, get?_erase]
      split
      · rename_i own
        rw [own, found]
      · rfl
    have gone : (dictionary.erase key).contains key = false := by simp [contains]
    have size := size_insert (dictionary.erase key) key value
    rw [again, gone] at size
    rw [contains_iff.mpr ⟨value, found⟩]
    exact size.symm

/-- How many entries meet a condition changes by the entry that is replaced and by the one that
takes its place. -/
theorem size_filter_insert (keep : κ → β → Bool) (dictionary : Dictionary κ β) (key : κ)
    (value : β) :
    ((dictionary.insert key value).filter keep).size +
        (if (dictionary.get? key).any (keep key) then 1 else 0) =
      (dictionary.filter keep).size + if keep key value then 1 else 0 := by
  have counted : (dictionary.filter keep).contains key = (dictionary.get? key).any (keep key) := by
    rw [contains, get?_filter]
    cases dictionary.get? key with
    | none => rfl
    | some old => cases kept : keep key old <;> simp [Option.filter, kept]
  cases kept : keep key value with
  | true =>
    have inserted : (dictionary.insert key value).filter keep =
        (dictionary.filter keep).insert key value := ext_get? fun other => by
      simp only [get?_filter, get?_insert]
      split
      · rename_i own
        simp [own, Option.filter, kept]
      · rfl
    rw [inserted, size_insert, counted]
    split <;> simp
  | false =>
    have erased : (dictionary.insert key value).filter keep =
        (dictionary.filter keep).erase key := ext_get? fun other => by
      simp only [get?_filter, get?_insert, get?_erase]
      split
      · rename_i own
        simp [own, Option.filter, kept]
      · rfl
    rw [erased, ← counted, size_erase_add]
    rfl

/-- Storing what is already there changes nothing. -/
theorem insert_of_get? {dictionary : Dictionary κ β} {key : κ} {value : β}
    (h : dictionary.get? key = some value) : dictionary.insert key value = dictionary := by
  refine ext_get? fun other => ?_
  rw [get?_insert]
  split
  · rename_i same
    rw [same, h]
  · rfl

@[simp]
theorem insert_insert (dictionary : Dictionary κ β) (key : κ) (first second : β) :
    (dictionary.insert key first).insert key second = dictionary.insert key second := by
  refine ext_get? fun other => ?_
  simp only [get?_insert]
  split <;> rfl

/-- A new key that is erased again leaves no trace. -/
theorem erase_insert {dictionary : Dictionary κ β} {key : κ} (value : β)
    (h : dictionary.get? key = none) : (dictionary.insert key value).erase key = dictionary := by
  refine ext_get? fun other => ?_
  rw [get?_erase, get?_insert]
  split
  · rename_i same
    rw [same, h]
  · rfl

end Insertion

section Listing

variable [LT κ] [DecidableLT κ] [KeyOrder κ]

/-- A key above all others goes to the end. -/
theorem place_last {key : κ} {value : β} {entries : List (κ × β)}
    (above : ∀ entry ∈ entries, entry.1 < key) :
    place key value entries = entries ++ [(key, value)] := by
  induction entries with
  | nil => rfl
  | cons head tail ih =>
    have headBelow := above head List.mem_cons_self
    have notAbove : ¬ key < head.1 := fun less => KeyOrder.irrefl key (KeyOrder.trans less headBelow)
    rw [place, if_neg notAbove, if_pos headBelow,
      ih fun entry member => above entry (List.mem_cons_of_mem _ member)]
    rfl

/-- Pairs in increasing order are inserted as they stand. -/
theorem entries_foldl_insert (pairs : List (κ × β)) :
    ∀ dictionary : Dictionary κ β,
      (dictionary.entries ++ pairs).Pairwise (fun left right => left.1 < right.1) →
      (pairs.foldl (fun before pair => before.insert pair.1 pair.2) dictionary).entries =
        dictionary.entries ++ pairs := by
  induction pairs with
  | nil => simp
  | cons pair rest ih =>
    intro dictionary sorted
    have last : (dictionary.insert pair.1 pair.2).entries = dictionary.entries ++ [pair] :=
      place_last fun entry member =>
        (List.pairwise_append.mp sorted).2.2 entry member pair List.mem_cons_self
    rw [List.foldl_cons, ih (dictionary.insert pair.1 pair.2), last, List.append_assoc]
    · rfl
    · rwa [last, List.append_assoc]

/-- A new key goes to its place and leaves the other entries where they are. -/
theorem place_perm {key : κ} {value : β} {entries : List (κ × β)}
    (absent : ∀ entry ∈ entries, entry.1 ≠ key) :
    (place key value entries).Perm ((key, value) :: entries) := by
  induction entries with
  | nil => exact .refl _
  | cons head tail ih =>
    obtain ⟨headNe, tailAbsent⟩ := List.forall_mem_cons.mp absent
    rw [place]
    split
    · exact .refl _
    · split
      · exact ((ih tailAbsent).cons head).trans (.swap _ _ tail)
      · rename_i notBelow notAbove
        exact absurd (KeyOrder.connex notAbove notBelow) headNe

/-- Pairs with different keys are all kept, in whatever order they are inserted. -/
theorem foldl_insert_perm (pairs : List (κ × β)) :
    ∀ dictionary : Dictionary κ β, ((dictionary.entries ++ pairs).map (·.1)).Nodup →
      (pairs.foldl (fun before pair => before.insert pair.1 pair.2) dictionary).entries.Perm
        (dictionary.entries ++ pairs) := by
  induction pairs with
  | nil => simp
  | cons pair rest ih =>
    intro dictionary distinct
    have absent : ∀ entry ∈ dictionary.entries, entry.1 ≠ pair.1 := by
      rw [List.map_append] at distinct
      intro entry member same
      exact List.disjoint_of_nodup_append distinct (List.mem_map_of_mem member)
        (same ▸ List.mem_cons_self)
    have moved : ((dictionary.insert pair.1 pair.2).entries ++ rest).Perm
        (dictionary.entries ++ pair :: rest) :=
      ((place_perm absent).append_right rest).trans List.perm_middle.symm
    exact (ih _ ((moved.map _).nodup_iff.mpr distinct)).trans moved

/-- Pairs with different keys are all kept, in the order of their keys. -/
theorem entries_ofList_perm {pairs : List (κ × β)} (distinct : (pairs.map (·.1)).Nodup) :
    (ofList pairs).entries.Perm pairs :=
  foldl_insert_perm pairs empty distinct

/-- The entries of a dictionary make it up again. -/
theorem ofList_entries (dictionary : Dictionary κ β) : ofList dictionary.entries = dictionary :=
  ext (entries_foldl_insert dictionary.entries empty dictionary.sorted)

/-- The entries of a dictionary make it up again in any order. -/
theorem ofList_perm {dictionary : Dictionary κ β} {pairs : List (κ × β)}
    (order : pairs.Perm dictionary.entries) : ofList pairs = dictionary := by
  have distinct : (pairs.map (·.1)).Nodup :=
    (order.map _).nodup_iff.mpr (List.pairwise_map.mpr dictionary.distinct)
  refine ext (((entries_ofList_perm distinct).trans order).eq_of_pairwise ?_
    (ofList pairs).sorted dictionary.sorted)
  intro first second _ _ below above
  exact absurd (KeyOrder.trans below above) (KeyOrder.irrefl first.1)

end Listing

end Headroom.Dictionary
