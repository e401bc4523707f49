import Headroom.Proofs.Double.Range
import Headroom.Proofs.Engine.Effects
import Headroom.Proofs.Thresholds

/-!
# Hysteresis

A score keeps a category exactly if it lies in the region of that category, and every score
leads to a category in whose region it lies.  This is why a category settles at once.  Outside
the margins hysteresis makes no difference to the plain bands; inside a margin a node stays on
the side it came from.  To cross a boundary and to come back, a node therefore needs scores on
both sides of the margin, however far apart the two crossings are in a sequence of scores.
-/

namespace Headroom

theorem Category.Scored.rank_bounds {category : Category} (scored : category.Scored) :
    Category.low.rank ≤ category.rank ∧ category.rank ≤ Category.high.rank := by
  rcases scored with rfl | rfl | rfl <;> decide

namespace Thresholds

open Double

/-! ## Greater scores lead to higher categories -/

section Monotone

variable {α : Type} [Scalar α] {thresholds : Thresholds α} {lesser greater : α}

/-- A value that passes every bound that another one passes. -/
structure Dominates (greater lesser : α) : Prop where
  below : ∀ bound, greater < bound → lesser < bound
  above : ∀ bound, bound ≤ lesser → bound ≤ greater

theorem rank_band_mono (dominates : Dominates greater lesser) :
    (thresholds.band lesser).rank ≤ (thresholds.band greater).rank := by
  have low := dominates.below thresholds.low
  have high := dominates.below thresholds.high
  simp only [band]
  split_ifs <;> first | decide | tauto

/-- From one category, the greater score leads to the higher category, however the thresholds
lie. -/
theorem rank_next_mono (dominates : Dominates greater lesser) (current : Category) :
    (thresholds.next current lesser).rank ≤ (thresholds.next current greater).rank := by
  have low := dominates.below thresholds.low
  have high := dominates.above thresholds.high
  cases current with
  | initial => exact rank_band_mono dominates
  | sundown => exact le_rfl
  | low =>
    have raised := dominates.above (thresholds.low + thresholds.lowMargin)
    simp only [next]
    split_ifs <;> first | decide | tauto
  | medium =>
    simp only [next]
    split_ifs <;> first | decide | tauto
  | high =>
    have lowered := dominates.below (thresholds.high - thresholds.highMargin)
    simp only [next]
    split_ifs <;> first | decide | tauto

end Monotone

theorem dominates_of_le {lesser greater : Float} (le : lesser ≤ greater) :
    Dominates greater lesser where
  below := fun bound below => by
    rw [lt_iff_position] at below ⊢
    rw [le_iff_position] at le
    exact ⟨le.1, below.2.1, le.2.2.trans_lt below.2.2⟩
  above := fun bound above => by
    rw [le_iff_position] at above le ⊢
    exact ⟨above.1, le.2.1, above.2.2.trans le.2.2⟩

/-! ## Where a category stays -/

/-- The boundaries and what the margins make of them are in order. -/
structure Nested (thresholds : Thresholds Float) : Prop extends Widening thresholds where
  apart : thresholds.low + thresholds.lowMargin ≤ thresholds.high - thresholds.highMargin

theorem nested_of_validate {thresholds : Thresholds Float}
    (valid : thresholds.validate = .ok ()) : thresholds.Nested := by
  have widening := widening_of_validate valid
  have raised := (le_iff_position.mp widening.low).2.1
  have lowered := (le_iff_position.mp widening.high).1
  simp only [validate, Guards.error_bind, Guards.ite_error_eq_ok, Guards.pure_eq_ok] at valid
  obtain ⟨_, _, disjoint, _⟩ := valid
  exact ⟨widening, le_of_not_lt lowered raised disjoint⟩

section Regions

variable {thresholds : Thresholds Float} {score : Float}

/-- A score keeps a category exactly if it lies in its region. -/
theorem Widening.next_eq_self_iff (widening : thresholds.Widening)
    (defined : score.isNaN = false) {current : Category} :
    thresholds.next current score = current ↔ thresholds.Region score current := by
  obtain ⟨lowDefined, raisedDefined, raised⟩ := le_iff_position.mp widening.low
  obtain ⟨loweredDefined, highDefined, lowered⟩ := le_iff_position.mp widening.high
  cases current with
  | initial =>
    constructor
    · intro same
      exact next_ne_initial same
    · intro inside
      cases inside
  | sundown =>
    constructor
    · intro same
      trivial
    · intro inside
      rfl
  | _ =>
    simp only [next, Region, lt_iff_position, le_iff_position, defined, lowDefined, raisedDefined,
      loweredDefined, highDefined, true_and]
    split_ifs <;> simp <;> omega

/-- A score that a category was given keeps it. -/
theorem Widening.next_next (widening : thresholds.Widening) (defined : score.isNaN = false)
    (current : Category) :
    thresholds.next (thresholds.next current score) score = thresholds.next current score :=
  (widening.next_eq_self_iff defined).mpr (widening.region_next current defined)

/-! ## Against the plain band -/

/-- Below the raised boundary a low node stays low; otherwise hysteresis does not matter to it. -/
theorem Widening.next_low (widening : thresholds.Widening) (defined : score.isNaN = false) :
    thresholds.next .low score =
      if thresholds.low ≤ score ∧ score < thresholds.low + thresholds.lowMargin then .low
      else thresholds.band score := by
  obtain ⟨lowDefined, raisedDefined, raised⟩ := le_iff_position.mp widening.low
  have highDefined := (le_iff_position.mp widening.high).2.1
  simp only [next, band, lt_iff_position, le_iff_position, defined, lowDefined, raisedDefined,
    highDefined, true_and]
  split_ifs <;> first | rfl | omega

/-- Above the lowered boundary a high node stays high; otherwise hysteresis does not matter to
it. -/
theorem Nested.next_high (nested : thresholds.Nested) (defined : score.isNaN = false) :
    thresholds.next .high score =
      if thresholds.high - thresholds.highMargin ≤ score ∧ score < thresholds.high then .high
      else thresholds.band score := by
  obtain ⟨lowDefined, _, raised⟩ := le_iff_position.mp nested.low
  obtain ⟨loweredDefined, highDefined, lowered⟩ := le_iff_position.mp nested.high
  have apart := (le_iff_position.mp nested.apart).2.2
  simp only [next, band, lt_iff_position, le_iff_position, defined, lowDefined, loweredDefined,
    highDefined, true_and]
  split_ifs <;> first | rfl | omega

/-- Hysteresis does not matter to a node in the middle. -/
theorem Nested.next_medium (nested : thresholds.Nested) (defined : score.isNaN = false) :
    thresholds.next .medium score = thresholds.band score := by
  obtain ⟨lowDefined, _, raised⟩ := le_iff_position.mp nested.low
  obtain ⟨_, highDefined, lowered⟩ := le_iff_position.mp nested.high
  have apart := (le_iff_position.mp nested.apart).2.2
  simp only [next, band, lt_iff_position, le_iff_position, defined, lowDefined, highDefined,
    true_and]
  split_ifs <;> first | rfl | omega

/-- The higher the category, the higher the next one. -/
theorem Nested.rank_next_le (nested : thresholds.Nested) (defined : score.isNaN = false)
    {lesser greater : Category} (lesserScored : lesser.Scored) (greaterScored : greater.Scored)
    (le : lesser.rank ≤ greater.rank) :
    (thresholds.next lesser score).rank ≤ (thresholds.next greater score).rank := by
  have scored : (thresholds.next .initial score).Scored := Category.scored_next nofun
  have banded : Category.low.rank ≤ (thresholds.band score).rank ∧
      (thresholds.band score).rank ≤ Category.high.rank := scored.rank_bounds
  have lower : (thresholds.next .low score).rank ≤ (thresholds.band score).rank := by
    rw [nested.next_low defined]
    split
    · exact banded.1
    · exact le_rfl
  have upper : (thresholds.band score).rank ≤ (thresholds.next .high score).rank := by
    rw [nested.next_high defined]
    split
    · exact banded.2
    · exact le_rfl
  have middle := nested.next_medium defined
  rcases lesserScored with rfl | rfl | rfl <;> rcases greaterScored with rfl | rfl | rfl
  case inl.inl | inr.inl.inr.inl | inr.inr.inr.inr => exact le_rfl
  case inl.inr.inl => exact middle ▸ lower
  case inl.inr.inr => exact lower.trans upper
  case inr.inl.inr.inr => exact middle ▸ upper
  all_goals exact absurd le (by decide)

end Regions

/-! ## Sequences of scores -/

section Sequences

variable {α : Type} [Scalar α]

/-- One score of a sequence, with the categories before and after it. -/
structure Move (α : Type) where
  source : Category
  score : α
  target : Category
  deriving DecidableEq

def Move.isChange (move : Move α) : Bool := move.source != move.target

/-- What a sequence of scores does to a category, score by score. -/
def moves (thresholds : Thresholds α) (current : Category) : List α → List (Move α)
  | [] => []
  | score :: rest =>
    ⟨current, score, thresholds.next current score⟩ ::
      thresholds.moves (thresholds.next current score) rest

variable {thresholds : Thresholds α}

theorem mem_moves {scores : List α} {move : Move α} : ∀ {current : Category},
    move ∈ thresholds.moves current scores →
      move.score ∈ scores ∧ move.target = thresholds.next move.source move.score := by
  induction scores with
  | nil => exact nofun
  | cons score rest ih =>
    intro current member
    rcases List.mem_cons.mp member with rfl | later
    · exact ⟨List.mem_cons_self, rfl⟩
    · exact ⟨List.mem_cons_of_mem _ (ih later).1, (ih later).2⟩

/-- Scores that keep a category never change it. -/
theorem countP_moves_kept {current : Category} {scores : List α}
    (kept : ∀ score ∈ scores, thresholds.next current score = current) :
    (thresholds.moves current scores).countP Move.isChange = 0 := by
  induction scores with
  | nil => rfl
  | cons score rest ih =>
    rw [List.forall_mem_cons] at kept
    rw [moves, kept.1, List.countP_cons_of_neg (by simp [Move.isChange]), ih kept.2]

/-- Scores of which each keeps what any of them leads to change a category at most once. -/
theorem countP_moves_le_one {current : Category} {scores : List α}
    (settles : ∀ first ∈ scores, ∀ second ∈ scores,
      thresholds.next (thresholds.next current first) second = thresholds.next current first) :
    (thresholds.moves current scores).countP Move.isChange ≤ 1 := by
  cases scores with
  | nil => exact Nat.zero_le 1
  | cons score rest =>
    have kept : ∀ second ∈ rest, thresholds.next (thresholds.next current score) second =
        thresholds.next current score := fun second member =>
      settles score List.mem_cons_self second (List.mem_cons_of_mem _ member)
    rw [moves, List.countP_cons, countP_moves_kept kept]
    split <;> decide

end Sequences

/-! ## Crossing a boundary -/

inductive Boundary where
  | low
  | high

section Crossing

variable {α : Type} [Scalar α]

/-- The score from which on a node rises over a boundary. -/
def ascent (thresholds : Thresholds α) : Boundary → α
  | .low => thresholds.low + thresholds.lowMargin
  | .high => thresholds.high

/-- The score below which a node falls under a boundary. -/
def descent (thresholds : Thresholds α) : Boundary → α
  | .low => thresholds.low
  | .high => thresholds.high - thresholds.highMargin

def Move.Rises (move : Move α) : Boundary → Prop
  | .low => move.source = .low ∧ (move.target = .medium ∨ move.target = .high)
  | .high => move.source ≠ .high ∧ move.target = .high

def Move.Falls (move : Move α) : Boundary → Prop
  | .low => (move.source = .medium ∨ move.source = .high) ∧ move.target = .low
  | .high => move.source = .high ∧ (move.target = .medium ∨ move.target = .low)

theorem lt_descent_of_falls {thresholds : Thresholds α} {move : Move α} {boundary : Boundary}
    (taken : move.target = thresholds.next move.source move.score) (falls : move.Falls boundary) :
    move.score < thresholds.descent boundary := by
  obtain ⟨source, score, target⟩ := move
  cases boundary with
  | low =>
    obtain ⟨rfl | rfl, fallen⟩ := falls <;> rw [fallen, next] at taken <;>
      split_ifs at taken <;> assumption
  | high =>
    obtain ⟨rfl, rfl | rfl⟩ := falls <;> rw [next] at taken <;> split_ifs at taken <;> assumption

/-- A node that rises over a boundary has reached the score of its ascent. -/
theorem Widening.ascent_le_of_rises {thresholds : Thresholds Float} {move : Move Float}
    {boundary : Boundary} (widening : thresholds.Widening) (defined : move.score.isNaN = false)
    (taken : move.target = thresholds.next move.source move.score) (rises : move.Rises boundary) :
    thresholds.ascent boundary ≤ move.score := by
  have highDefined := (le_iff_position.mp widening.high).2.1
  obtain ⟨source, score, target⟩ := move
  cases boundary with
  | low =>
    obtain ⟨rfl, rfl | rfl⟩ := rises <;> rw [next] at taken <;> split_ifs at taken <;> assumption
  | high =>
    obtain ⟨other, rfl⟩ := rises
    cases source with
    | initial =>
      rw [next, band] at taken
      split_ifs at taken with _ notBelow
      exact le_of_not_lt defined highDefined notBelow
    | low | medium =>
      rw [next] at taken
      split_ifs at taken
      assumption
    | high => exact absurd rfl other
    | sundown => cases taken

def InMargin (thresholds : Thresholds Float) (boundary : Boundary) (score : Float) : Prop :=
  thresholds.descent boundary ≤ score ∧ score < thresholds.ascent boundary

/-- A category that may be held at one score inside a margin may be held at all of them. -/
theorem Nested.region_of_inMargin {thresholds : Thresholds Float} {boundary : Boundary}
    {score other : Float} {category : Category} (nested : thresholds.Nested)
    (inside : thresholds.InMargin boundary score) (otherInside : thresholds.InMargin boundary other)
    (held : thresholds.Region score category) : thresholds.Region other category := by
  have raised := nested.low
  have lowered := nested.high
  have apart := nested.apart
  cases boundary <;> cases category <;>
    simp only [InMargin, ascent, descent, Region, le_iff_position, lt_iff_position] at * <;>
    grind

/-- A score inside a margin leads to a category that the other scores inside it keep. -/
theorem Nested.next_next_of_inMargin {thresholds : Thresholds Float} {boundary : Boundary}
    {score other : Float} (nested : thresholds.Nested)
    (inside : thresholds.InMargin boundary score) (otherInside : thresholds.InMargin boundary other)
    (current : Category) :
    thresholds.next (thresholds.next current score) other = thresholds.next current score := by
  have defined := (le_iff_position.mp inside.1).2.1
  have otherDefined := (le_iff_position.mp otherInside.1).2.1
  apply (nested.next_eq_self_iff otherDefined).mpr
  exact nested.region_of_inMargin inside otherInside (nested.region_next current defined)

end Crossing

/-! ## The theorems -/

/-- Whatever defined scores a node is given from whatever category on, a rise over a boundary
and a later fall under it, or a fall and a later rise, are at scores that lie on the two sides
of the margin: the rise at the upper end or above, the fall below the lower end.  So scores that
all stay inside one margin change the category at most once. -/
theorem crossings (thresholds : Thresholds Float) (valid : thresholds.validate = .ok ())
    (current : Category) (scores : List Float)
    (defined : ∀ score ∈ scores, score.isNaN = false) :
    ((thresholds.moves current scores).Pairwise fun earlier later => ∀ boundary,
      (earlier.Rises boundary → later.Falls boundary →
        thresholds.ascent boundary ≤ earlier.score ∧
          later.score < thresholds.descent boundary) ∧
      (earlier.Falls boundary → later.Rises boundary →
        earlier.score < thresholds.descent boundary ∧
          thresholds.ascent boundary ≤ later.score)) ∧
    ∀ boundary, (∀ score ∈ scores, thresholds.InMargin boundary score) →
      (thresholds.moves current scores).countP Move.isChange ≤ 1 := by
  have nested := nested_of_validate valid
  have rise {move : Move Float} {boundary : Boundary}
      (member : move ∈ thresholds.moves current scores) (rises : move.Rises boundary) :
      thresholds.ascent boundary ≤ move.score := by
    obtain ⟨given, taken⟩ := mem_moves member
    exact nested.ascent_le_of_rises (defined _ given) taken rises
  have fall {move : Move Float} {boundary : Boundary}
      (member : move ∈ thresholds.moves current scores) (falls : move.Falls boundary) :
      move.score < thresholds.descent boundary :=
    lt_descent_of_falls (mem_moves member).2 falls
  constructor
  · apply List.pairwise_of_forall_mem_list
    intro earlier first later second boundary
    constructor
    · intro rises falls
      exact ⟨rise first rises, fall second falls⟩
    · intro falls rises
      exact ⟨fall first falls, rise second rises⟩
  · intro boundary inside
    apply countP_moves_le_one
    intro first firstMember second secondMember
    exact nested.next_next_of_inMargin (inside first firstMember) (inside second secondMember)
      current

/-- A node jumps from the lowest band to the highest and back, over both boundaries at once;
scores below the upper boundary then move a new node once. -/
theorem crossings_jump :
    (∀ boundary, (default : Thresholds Float).ascent boundary ≤ 0.9 ∧
        (0.1 : Float) < (default : Thresholds Float).descent boundary) ∧
      ((default : Thresholds Float).moves .initial [0.76, 0.79, 0.78]).countP
        Move.isChange ≤ 1 := by
  have path : (default : Thresholds Float).moves .low [0.9, 0.1] =
      [⟨.low, 0.9, .high⟩, ⟨.high, 0.1, .low⟩] := by decide +kernel
  have crossed := (crossings default rfl .low [0.9, 0.1] (by decide)).1
  rw [path] at crossed
  have pair := (List.pairwise_cons.mp crossed).1 _ List.mem_cons_self
  have hover := (crossings default rfl .initial [0.76, 0.79, 0.78] (by decide)).2 .high
  refine ⟨fun boundary => ?_, hover ?_⟩
  · apply (pair boundary).1
    · cases boundary <;> simp [Move.Rises]
    · cases boundary <;> simp [Move.Falls]
  · simp only [List.forall_mem_cons, InMargin]
    decide +kernel

/-- How hysteresis changes the plain bands at a score. -/
structure Hysteresis (thresholds : Thresholds Float) (score : Float) : Prop where
  initial : thresholds.next .initial score = thresholds.band score
  medium : thresholds.next .medium score = thresholds.band score
  low : thresholds.next .low score =
    if thresholds.low ≤ score ∧ score < thresholds.low + thresholds.lowMargin then .low
    else thresholds.band score
  high : thresholds.next .high score =
    if thresholds.high - thresholds.highMargin ≤ score ∧ score < thresholds.high then .high
    else thresholds.band score
  /-- A greater score leads to no lower category. -/
  ascending : ∀ greater, score ≤ greater → ∀ current,
    (thresholds.next current score).rank ≤ (thresholds.next current greater).rank
  /-- A higher category leads to no lower category. -/
  ordered : ∀ lower higher : Category, lower.Scored → higher.Scored → lower.rank ≤ higher.rank →
    (thresholds.next lower score).rank ≤ (thresholds.next higher score).rank
  settled : ∀ current, thresholds.next (thresholds.next current score) score =
    thresholds.next current score
  once : ∀ current count,
    (thresholds.moves current (List.replicate count score)).countP Move.isChange ≤ 1
  started : ∀ current, thresholds.next current score ≠ .initial
  ended : ∀ current, thresholds.next current score = .sundown ↔ current = .sundown

/-- Accepted thresholds classify every defined score with hysteresis: from outside the margins
as the plain bands do, inside a margin as before, never down for more headroom, and at once to
where the score leads. -/
theorem hysteresis_of_validate (thresholds : Thresholds Float)
    (valid : thresholds.validate = .ok ()) (score : Float) (defined : score.isNaN = false) :
    thresholds.Hysteresis score := by
  have nested := nested_of_validate valid
  have settled := nested.next_next defined
  exact {
    initial := rfl
    medium := nested.next_medium defined
    low := nested.next_low defined
    high := nested.next_high defined
    ascending := fun _ le current => rank_next_mono (dominates_of_le le) current
    ordered := fun _ _ => nested.rank_next_le defined
    settled := settled
    once := fun current count => by
      apply countP_moves_le_one
      intro first firstMember second secondMember
      rw [List.eq_of_mem_replicate firstMember, List.eq_of_mem_replicate secondMember]
      exact settled current
    started := fun _ => next_ne_initial
    ended := fun _ => next_eq_sundown }

/-- Just above the lower boundary a low node stays low, where the plain band is the middle. -/
theorem hysteresis_above_low :
    (default : Thresholds Float).band 0.42 = .medium ∧
      (default : Thresholds Float).next .low 0.42 = .low := by
  have hysteresis := hysteresis_of_validate default rfl 0.42 rfl
  refine ⟨by decide +kernel, ?_⟩
  rw [hysteresis.low, if_pos (by decide +kernel)]

end Thresholds

end Headroom
