/-!
# Dictionaries in key order

A finite map whose entries are kept in strictly increasing key order.  The order
is part of the type, so two dictionaries with the same lookups are equal and
every listing of a dictionary is sorted, whatever the order of its insertions.
-/

namespace Headroom

/-- A strict total order on keys: what a sorted listing needs of `<`. -/
class KeyOrder (κ : Type) [LT κ] : Prop where
  irrefl : ∀ key : κ, ¬ key < key
  trans : ∀ {first second third : κ}, first < second → second < third → first < third
  connex : ∀ {first second : κ}, ¬ first < second → ¬ second < first → first = second

instance textOrder : KeyOrder String where
  irrefl := String.lt_irrefl
  trans := String.lt_trans
  connex := fun notLess notGreater =>
    String.le_antisymm (String.not_lt.mp notGreater) (String.not_lt.mp notLess)

/-- A finite map from keys to values, stored as entries in increasing key order. -/
structure Dictionary (κ β : Type) [LT κ] where
  entries : List (κ × β)
  sorted : entries.Pairwise (fun left right => left.1 < right.1)

/-- The order in which a table that promises none hands out its entries. -/
structure Arrangement (α : Type) where
  arrange : List α → List α
  perm : ∀ entries, (arrange entries).Perm entries

def Arrangement.asStored {α : Type} : Arrangement α := ⟨id, .refl⟩

namespace Dictionary

variable {κ β γ : Type} [LT κ]

/-- Two dictionaries with the same entries are equal. -/
@[ext]
theorem ext {left right : Dictionary κ β} (h : left.entries = right.entries) : left = right := by
  cases left; cases right; cases h; rfl

def empty : Dictionary κ β := ⟨[], .nil⟩

instance inhabited : Inhabited (Dictionary κ β) := ⟨empty⟩

def keys (dictionary : Dictionary κ β) : List κ := dictionary.entries.map (·.1)

/-- The values, in key order. -/
def values (dictionary : Dictionary κ β) : List β := dictionary.entries.map (·.2)

def size (dictionary : Dictionary κ β) : Nat := dictionary.entries.length

/-- Applies a function to every value and keeps the keys. -/
def map (change : κ → β → γ) (dictionary : Dictionary κ β) : Dictionary κ γ :=
  ⟨dictionary.entries.map fun entry => (entry.1, change entry.1 entry.2),
    dictionary.sorted.map _ fun _ _ h => h⟩

def filter (keep : κ → β → Bool) (dictionary : Dictionary κ β) : Dictionary κ β :=
  ⟨dictionary.entries.filter fun entry => keep entry.1 entry.2, dictionary.sorted.filter _⟩

section Lookup

variable [DecidableEq κ]

/-- The value of the first entry with the given key. -/
def lookup (key : κ) : List (κ × β) → Option β
  | [] => none
  | entry :: rest => if entry.1 = key then some entry.2 else lookup key rest

def get? (dictionary : Dictionary κ β) (key : κ) : Option β := lookup key dictionary.entries

def contains (dictionary : Dictionary κ β) (key : κ) : Bool := (dictionary.get? key).isSome

/-- The value stored for a key, or a default. -/
def getD (dictionary : Dictionary κ β) (key : κ) (default : β) : β :=
  (dictionary.get? key).getD default

def erase (dictionary : Dictionary κ β) (key : κ) : Dictionary κ β :=
  dictionary.filter fun other _ => other ≠ key

end Lookup

section Insertion

variable [DecidableLT κ]

/-- Puts an entry at its place in a sorted list, replacing the entry with its key. -/
def place (key : κ) (value : β) : List (κ × β) → List (κ × β)
  | [] => [(key, value)]
  | entry :: rest =>
    if key < entry.1 then (key, value) :: entry :: rest
    else if entry.1 < key then entry :: place key value rest
    else (key, value) :: rest

theorem mem_place {key : κ} {value : β} {entry : κ × β} {entries : List (κ × β)}
    (h : entry ∈ place key value entries) : entry = (key, value) ∨ entry ∈ entries := by
  induction entries with
  | nil => simpa [place] using h
  | cons head tail ih =>
    simp only [place] at h
    split at h
    · simpa using h
    · split at h
      · cases List.mem_cons.mp h with
        | inl same => exact .inr (by simp [same])
        | inr inTail => exact (ih inTail).imp id (List.mem_cons_of_mem _)
      · cases List.mem_cons.mp h with
        | inl same => exact .inl same
        | inr inTail => exact .inr (List.mem_cons_of_mem _ inTail)

theorem place_sorted [KeyOrder κ] {key : κ} {value : β} {entries : List (κ × β)}
    (h : entries.Pairwise (fun left right => left.1 < right.1)) :
    (place key value entries).Pairwise (fun left right => left.1 < right.1) := by
  induction entries with
  | nil => simp [place]
  | cons head tail ih =>
    have headBelow := (List.pairwise_cons.mp h).1
    have tailSorted := (List.pairwise_cons.mp h).2
    simp only [place]
    split
    · rename_i below
      refine List.pairwise_cons.mpr ⟨fun entry member => ?_, h⟩
      cases List.mem_cons.mp member with
      | inl same => rw [same]; exact below
      | inr inTail => exact KeyOrder.trans below (headBelow entry inTail)
    · split
      · rename_i above
        refine List.pairwise_cons.mpr ⟨fun entry member => ?_, ih tailSorted⟩
        cases mem_place member with
        | inl same => rw [same]; exact above
        | inr inTail => exact headBelow entry inTail
      · rename_i notBelow notAbove
        have same : head.1 = key := KeyOrder.connex notAbove notBelow
        exact List.pairwise_cons.mpr ⟨fun entry member => same ▸ headBelow entry member, tailSorted⟩

/-- Stores a value for a key, replacing any earlier one. -/
def insert [KeyOrder κ] (dictionary : Dictionary κ β) (key : κ) (value : β) : Dictionary κ β :=
  ⟨place key value dictionary.entries, place_sorted dictionary.sorted⟩

/-- Collects pairs; of two pairs with one key the later one counts. -/
def ofList [KeyOrder κ] (pairs : List (κ × β)) : Dictionary κ β :=
  pairs.foldl (fun dictionary pair => dictionary.insert pair.1 pair.2) empty

end Insertion

end Dictionary

end Headroom
