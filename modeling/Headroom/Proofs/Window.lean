import Headroom.Window
import Headroom.Proofs.Time

/-!
# What a window holds

A push makes room first and then drops what has become too old, both from the old end.  What
is left depends on the whole history of pushes only through two bounds, as long as the samples
come in the order of their times: a window is the longest suffix of its history that the bounds
allow.  A suffix that a later window may hold is one that every earlier window could hold
already, less the newest sample, so nothing that is still wanted is ever dropped.
-/

namespace Headroom

/-- A suffix whose members are all kept survives the removal of what is in front of it. -/
theorem suffix_dropWhile {β : Type} {p : β → Bool} {kept whole : List β} (suffix : kept <:+ whole)
    (keeps : ∀ item ∈ kept, p item = false) : kept <:+ whole.dropWhile p := by
  obtain ⟨front, rfl⟩ := suffix
  have unmoved : kept.dropWhile p = kept :=
    List.dropWhile_eq_self_iff.mpr fun _ => by simp [keeps]
  rw [List.dropWhile_append, unmoved]
  split
  · exact List.suffix_refl kept
  · exact List.suffix_append _ kept

namespace Window

variable {α : Type} {limits : Limits} {history recent : List (Sample α)} {window : Window α}
variable {sample : Sample α}

def InOrder (history : List (Sample α)) : Prop :=
  history.Pairwise fun earlier later => earlier.timestamp ≤ later.timestamp

/-- Whether a sample is within the greatest age of the newest sample of a history. -/
def Young (limits : Limits) (history : List (Sample α)) (sample : Sample α) : Prop :=
  ∀ newest, history.getLast? = some newest →
    Time.before newest.timestamp limits.maxAge ≤ sample.timestamp

structure Fits (limits : Limits) (history recent : List (Sample α)) : Prop where
  few : recent.length ≤ limits.maxSamples
  young : ∀ sample ∈ recent, Young limits history sample

/-- A window that holds the longest suffix of a history that fits. -/
structure Reflects (limits : Limits) (history : List (Sample α)) (window : Window α) : Prop where
  ordered : InOrder history
  suffix : window.samples <:+ history
  fits : Fits limits history window.samples
  longest : ∀ recent, recent <:+ history → Fits limits history recent → recent <:+ window.samples

def Timely (history : List (Sample α)) (sample : Sample α) : Prop :=
  ∀ newest, history.getLast? = some newest → newest.timestamp ≤ sample.timestamp

/-- A sample that is not older than the others goes to the end. -/
theorem InOrder.append (ordered : InOrder history) (timely : Timely history sample) :
    InOrder (history ++ [sample]) := by
  refine List.pairwise_append.mpr ⟨ordered, List.pairwise_singleton _ _, ?_⟩
  intro earlier member later added
  rw [List.mem_singleton.mp added]
  rcases List.eq_nil_or_concat' history with rfl | ⟨older, newest, rfl⟩
  · cases member
  · have latest := timely newest (by simp)
    rcases List.mem_append.mp member with before | same
    · have precedes := (List.pairwise_append.mp ordered).2.2 earlier before
      exact Int64.le_trans (precedes newest List.mem_cons_self) latest
    · rw [List.mem_singleton.mp same]
      exact latest

/-- In an ordered window, dropping old samples from the front leaves none behind. -/
theorem InOrder.le_of_mem_dropWhile (ordered : InOrder recent) (cutoff : Int64) :
    ∀ sample ∈ recent.dropWhile (fun sample => sample.timestamp < cutoff),
      cutoff ≤ sample.timestamp := by
  induction recent with
  | nil => simp
  | cons first rest ih =>
    obtain ⟨least, ordered⟩ := List.pairwise_cons.mp ordered
    rw [List.dropWhile_cons]
    split
    · exact ih ordered
    · rename_i young
      have young : cutoff ≤ first.timestamp := Int64.not_lt.mp fun old => young (decide_eq_true old)
      exact List.forall_mem_cons.mpr
        ⟨young, fun later member => Int64.le_trans young (least later member)⟩

theorem young_append : Young limits (history ++ [sample]) = fun other =>
    Time.before sample.timestamp limits.maxAge ≤ other.timestamp := by
  funext other
  simp [Young]

/-- What is young beside a later sample was young before it. -/
theorem Young.of_append {other : Sample α} (timely : Timely history sample)
    (young : Young limits (history ++ [sample]) other) : Young limits history other := by
  rw [young_append] at young
  exact fun newest last => Int64.le_trans (Time.before_mono (timely newest last) _) young

theorem reflects_empty : (empty : Window α).Reflects limits [] where
  ordered := .nil
  suffix := List.suffix_refl _
  fits := ⟨Nat.zero_le _, nofun⟩
  longest := fun _ suffix _ => suffix

/-- A push of a timely sample leaves the longest suffix that fits. -/
theorem Reflects.push (reflects : window.Reflects limits history)
    (positive : 0 < limits.maxSamples) (timely : Timely history sample) :
    (window.push limits sample).Reflects limits (history ++ [sample]) := by
  -- What is left when there is room for one more sample.
  obtain ⟨left, isLeft⟩ : ∃ left, left =
      window.samples.drop (window.samples.length + 1 - limits.maxSamples) := ⟨_, rfl⟩
  have size : left.length = min window.samples.length (limits.maxSamples - 1) := by
    rw [isLeft, List.length_drop]
    omega
  have leftSuffix : left <:+ window.samples := isLeft ▸ List.drop_suffix _ _
  have pushed : (window.push limits sample).samples = (left ++ [sample]).dropWhile
      fun other => other.timestamp < Time.before sample.timestamp limits.maxAge := by
    rw [Window.push, isLeft]
  have ordered : InOrder (history ++ [sample]) := reflects.ordered.append timely
  have suffix : left ++ [sample] <:+ history ++ [sample] :=
    List.suffix_concat_iff.mpr (.inr ⟨left, rfl, leftSuffix.trans reflects.suffix⟩)
  refine ⟨ordered, ?_, ⟨?_, ?_⟩, ?_⟩
  · rw [pushed]
    exact (List.dropWhile_suffix _).trans suffix
  · rw [pushed]
    have shorter := (List.dropWhile_suffix (l := left ++ [sample]) fun other =>
      decide (other.timestamp < Time.before sample.timestamp limits.maxAge)).length_le
    rw [List.length_append, List.length_singleton] at shorter
    omega
  · rw [pushed, young_append]
    have leftOrdered : InOrder (left ++ [sample]) := List.Pairwise.sublist suffix.sublist ordered
    exact leftOrdered.le_of_mem_dropWhile _
  · intro recent isSuffix fits
    rcases List.suffix_concat_iff.mp isSuffix with rfl | ⟨earlier, rfl, before⟩
    · exact List.nil_suffix
    · have count := fits.few
      rw [List.length_append, List.length_singleton] at count
      have fitted : Fits limits history earlier :=
        ⟨by omega, fun other member =>
          (fits.young other (List.mem_append_left _ member)).of_append timely⟩
      have held : earlier <:+ window.samples := reflects.longest earlier before fitted
      have spared : earlier <:+ left :=
        List.suffix_of_suffix_length_le held leftSuffix (by have := held.length_le; omega)
      rw [pushed]
      refine suffix_dropWhile (List.suffix_concat_iff.mpr (.inr ⟨earlier, rfl, spared⟩)) ?_
      intro other member
      have young := fits.young other member
      rw [young_append] at young
      exact decide_eq_false (Int64.not_lt.mpr young)

/-- The newest sample is always held. -/
theorem Reflects.latest? (reflects : window.Reflects limits history)
    (positive : 0 < limits.maxSamples) (nonneg : 0 ≤ limits.maxAge) :
    window.latest? = history.getLast? := by
  rcases List.eq_nil_or_concat' history with rfl | ⟨older, newest, rfl⟩
  · rw [Window.latest?, List.suffix_nil.mp reflects.suffix]
  · have fits : Fits limits (older ++ [newest]) [newest] := by
      refine ⟨positive, List.forall_mem_singleton.mpr ?_⟩
      rw [young_append]
      exact Time.before_le nonneg
    have held := reflects.longest [newest] (List.suffix_append _ _) fits
    obtain ⟨front, samples⟩ := held
    rw [Window.latest?, ← samples, List.getLast?_concat, List.getLast?_concat]

/-- A sample is held exactly while it is among the newest ones that there is room for and young
enough. -/
theorem Reflects.holds_iff (reflects : window.Reflects limits history)
    {older newer : List (Sample α)} (split : history = older ++ sample :: newer) :
    sample :: newer <:+ window.samples ↔
      newer.length < limits.maxSamples ∧ Young limits history sample := by
  constructor
  · intro held
    refine ⟨?_, reflects.fits.young sample (held.subset List.mem_cons_self)⟩
    exact held.length_le.trans reflects.fits.few
  · rintro ⟨few, young⟩
    have ordered := reflects.ordered
    rw [InOrder, split, List.pairwise_append, List.pairwise_cons] at ordered
    have fits : Fits limits history (sample :: newer) := by
      refine ⟨few, List.forall_mem_cons.mpr ⟨young, fun later member newest last => ?_⟩⟩
      exact Int64.le_trans (young newest last) (ordered.2.1.1 later member)
    exact reflects.longest _ (split ▸ List.suffix_append _ _) fits

end Window

end Headroom
