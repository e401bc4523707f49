import Headroom.Dictionary

/-!
# Categories

The utilization category of a node.  `low`, `medium` and `high` name the band of
its headroom: an idle node is `high`.  A node starts as `initial` and ends as
`sundown`.
-/

namespace Headroom

/-- The band that a node's headroom falls into, or its place outside the bands. -/
inductive Category where
  /-- No sample was scored yet. -/
  | initial
  | low
  | medium
  | high
  /-- Decommissioned; never left. -/
  | sundown
  deriving DecidableEq, Repr

namespace Category

def all : List Category := [initial, low, medium, high, sundown]

/-- The word that stands for a category in documents. -/
def word : Category → String
  | initial => "INIT"
  | low => "LU"
  | medium => "MU"
  | high => "HU"
  | sundown => "SUNDOWN"

def ofWord? (text : String) : Option Category := all.find? fun category => category.word == text

/-- Whether a category is never left. -/
def isTerminal : Category → Bool
  | sundown => true
  | _ => false

def rank : Category → Nat
  | initial => 0
  | low => 1
  | medium => 2
  | high => 3
  | sundown => 4

instance rankLess : LT Category := ⟨fun left right => left.rank < right.rank⟩

instance decidableRankLess : DecidableLT Category := fun left right => inferInstanceAs (Decidable (left.rank < right.rank))

theorem rank_injective {left right : Category} (h : left.rank = right.rank) : left = right := by
  cases left <;> cases right <;> first | rfl | cases h

instance rankOrder : KeyOrder Category where
  irrefl := fun category => Nat.lt_irrefl category.rank
  trans := Nat.lt_trans
  connex := fun notLess notGreater =>
    rank_injective (Nat.le_antisymm (Nat.not_lt.mp notGreater) (Nat.not_lt.mp notLess))

/-- Reads a category, ignoring the case of ASCII letters.  A text that names none is
returned in upper case. -/
def parse (text : String) : Except String Category :=
  let upper := text.map Char.toUpper
  match ofWord? upper with
  | some category => .ok category
  | none => .error upper

/-- The message for a text that names no category. -/
def unknownMessage (upper : String) : String := "unknown utilization category: " ++ upper

end Category

/-- One value for each category. -/
structure PerCategory (β : Type) where
  initial : β
  low : β
  medium : β
  high : β
  sundown : β
  deriving DecidableEq, Repr

namespace PerCategory

variable {β : Type}

def uniform (value : β) : PerCategory β := ⟨value, value, value, value, value⟩

def ofFunction (value : Category → β) : PerCategory β :=
  ⟨value .initial, value .low, value .medium, value .high, value .sundown⟩

def get (table : PerCategory β) : Category → β
  | .initial => table.initial
  | .low => table.low
  | .medium => table.medium
  | .high => table.high
  | .sundown => table.sundown

def modify (table : PerCategory β) (category : Category) (change : β → β) : PerCategory β :=
  ofFunction fun other => if other = category then change (table.get other) else table.get other

def toDictionary (table : PerCategory β) : Dictionary Category β :=
  .ofList (Category.all.map fun category => (category, table.get category))

@[simp]
theorem get_ofFunction (value : Category → β) (category : Category) :
    (ofFunction value).get category = value category := by
  cases category <;> rfl

@[simp]
theorem get_modify (table : PerCategory β) (category other : Category) (change : β → β) :
    (table.modify category change).get other =
      if other = category then change (table.get other) else table.get other := by
  simp [modify]

end PerCategory

/-- Where a node stands between its registration and its removal. -/
inductive Lifecycle where
  /-- Registered, no sample scored yet. -/
  | initial
  | active
  /-- Decommissioned; removed once the retention has passed. -/
  | sundown
  deriving DecidableEq, Repr

namespace Lifecycle

def all : List Lifecycle := [initial, active, sundown]

/-- The word that stands for a stage in documents. -/
def word : Lifecycle → String
  | initial => "init"
  | active => "active"
  | sundown => "sundown"

def ofWord? (text : String) : Option Lifecycle := all.find? fun stage => stage.word == text

/-- The word for the state of a container that reports none itself. -/
def containerState : Lifecycle → String
  | initial => "created"
  | active => "running"
  | sundown => "exited"

end Lifecycle

end Headroom
