import Headroom.Proofs.Engine.Ledger
import Headroom.Proofs.Engine.Occasions
import Headroom.Proofs.Engine.Slots

/-!
# Records are consistent

The fields of a record are written by five operations in different combinations.  Some of them
always belong together: stage and category, the time of the last sample and the newest sample
in the window, what a node starts with and what it has not counted yet.  The count of samples
and the time of the last one are also tied to the receipts that were given out since the node
was created.
-/

namespace Headroom

/-- The sample that is pushed is the newest one. -/
theorem Window.latest?_push {limits : Limits} (nonneg : 0 ≤ limits.maxAge)
    (window : Window Float) (sample : Sample Float) :
    (window.push limits sample).latest? = some sample := by
  have recent : decide (sample.timestamp < Time.before sample.timestamp limits.maxAge) = false :=
    decide_eq_false (Int64.not_lt.mpr (Time.before_le nonneg))
  rw [latest?, push, List.dropWhile_append, List.dropWhile_cons, recent]
  split <;> simp

namespace Engine

/-! ## What holds of a record on its own -/

/-- What the fields of a slot say about each other. -/
structure Coherent (slot : Slot) : Prop where
  initial : slot.node.lifecycle = .initial ↔ slot.node.category = .initial
  sundown : slot.node.lifecycle = .sundown ↔ slot.node.category = .sundown
  newest : slot.node.lastSampleAt = slot.window.latest?.map (·.timestamp)
  started : slot.node.category = .initial → slot.node.lastSampleAt = none
  unreported : slot.node.lastSampleAt = none →
    (slot.node.category = .initial ∨ slot.node.category = .sundown) ∧
      slot.node.scores.dimensions = [1.0, 1.0, 1.0, 1.0]
  quiet : slot.node.category = .sundown → slot.node.stale = false

theorem coherent_fresh (id : String) (name : Option String) (now : Int64) :
    Coherent (.fresh (.fresh id name now)) where
  initial := by constructor <;> intro same <;> rfl
  sundown := by constructor <;> intro same <;> cases same
  newest := rfl
  started := fun _ => rfl
  unreported := fun _ => ⟨.inl rfl, rfl⟩
  quiet := nofun

/-- A reading keeps a slot coherent: the sample that it adds is the newest one. -/
theorem Coherent.observe {settings : Settings Float} {limits : Window.Limits}
    (nonneg : 0 ≤ limits.maxAge) (reading : Reading Float) (timestamp now : Int64) {slot : Slot}
    (coherent : Coherent slot) :
    Coherent (observe settings limits reading timestamp now slot) where
  initial := by
    constructor
    · intro started
      change (if slot.node.lifecycle = .initial then Lifecycle.active else slot.node.lifecycle) =
        .initial at started
      split at started
      · cases started
      · rename_i active
        exact absurd started active
    · intro started
      exact absurd started Thresholds.next_ne_initial
  sundown := by
    refine Iff.trans ?_ (coherent.sundown.trans Thresholds.next_eq_sundown.symm)
    change (if slot.node.lifecycle = .initial then Lifecycle.active else slot.node.lifecycle) =
      .sundown ↔ _
    split
    · rename_i started
      rw [started]
      constructor <;> intro same <;> cases same
    · rfl
  newest := by
    change some timestamp = (slot.window.push limits (reading.sampleAt timestamp)).latest?.map _
    rw [Window.latest?_push nonneg]
    rfl
  started := fun started => absurd started Thresholds.next_ne_initial
  unreported := nofun
  quiet := fun _ => rfl

theorem Coherent.retired {slot : Slot} (coherent : Coherent slot) (now : Int64) :
    Coherent { slot with node := slot.node.retired now } where
  initial := by constructor <;> intro same <;> cases same
  sundown := by constructor <;> intro same <;> rfl
  newest := coherent.newest
  started := nofun
  unreported := fun never => ⟨.inr rfl, (coherent.unreported never).2⟩
  quiet := fun _ => rfl

theorem Coherent.rescored {settings : Settings Float} {slot : Slot} (coherent : Coherent slot) :
    Coherent (rescored settings slot) where
  initial := coherent.initial
  sundown := coherent.sundown
  newest := coherent.newest
  started := coherent.started
  unreported := fun never => by
    have nothing : slot.window.latest? = none :=
      Option.map_eq_none_iff.mp (coherent.newest.symm.trans never)
    have empty : slot.window.isEmpty = true :=
      List.isEmpty_iff.mpr (List.getLast?_eq_none_iff.mp nothing)
    refine ⟨(coherent.unreported never).1, ?_⟩
    rw [Engine.rescored, Scoring.scores_of_isEmpty _ empty]
    rfl
  quiet := coherent.quiet

theorem Coherent.flagged {slot : Slot} (coherent : Coherent slot) (now timeout : Int64) :
    Coherent { slot with node := { slot.node with stale := slot.node.isSilent now timeout } } where
  initial := coherent.initial
  sundown := coherent.sundown
  newest := coherent.newest
  started := coherent.started
  unreported := coherent.unreported
  quiet := fun (gone : slot.node.category = .sundown) => by simp [Node.isSilent, gone]

theorem kept_coherent (settings : Settings Float) :
    Kept settings fun _ slot => Coherent slot where
  entered := coherent_fresh
  observed := fun reading timestamp now _ coherent _ =>
    coherent.observe (WindowSettings.maxAge_nonneg _) reading timestamp now
  described := fun _ _ _ _ coherent => ⟨coherent.initial, coherent.sundown, coherent.newest,
    coherent.started, coherent.unreported, coherent.quiet⟩
  retired := fun _ _ now coherent => coherent.retired now
  rescored := fun _ _ => .rescored
  flagged := fun _ _ now coherent => coherent.flagged now _

/-! ## What the receipts say about a record -/

/-- The times at which readings of a node were accepted since it was created, after one more
entry in the ledger. -/
def Entry.addTo (id : String) (times : List Int64) : Entry → List Int64
  | accepted receipt =>
    if receipt.id = id then (if receipt.created then [] else times) ++ [receipt.timestamp] else times
  | registered other created => if other = id ∧ created = true then [] else times
  | _ => times

def timesOf (id : String) (log : List Entry) : List Int64 := log.foldl (Entry.addTo id) []

theorem timesOf_append (id : String) (log added : List Entry) :
    timesOf id (log ++ added) = added.foldl (Entry.addTo id) (timesOf id log) :=
  List.foldl_append

/-- The last of some times in order is the greatest one. -/
theorem le_last {times : List Int64} (sorted : times.Pairwise (· ≤ ·)) {last : Int64}
    (isLast : times.getLast? = some last) : ∀ time ∈ times, time ≤ last := by
  obtain ⟨earlier, rfl⟩ := List.getLast?_eq_some_iff.mp isLast
  intro time member
  rcases List.mem_append.mp member with before | same
  · exact (List.pairwise_append.mp sorted).2.2 time before last List.mem_cons_self
  · rw [List.mem_singleton.mp same]
    exact Int64.le_refl _

/-- A record agrees with the times of the receipts for its node. -/
structure Recorded (times : List Int64) (slot : Slot) : Prop where
  counted : slot.node.sampleCount = .ofNat times.length
  last : slot.node.lastSampleAt = times.getLast?
  sorted : times.Pairwise (· ≤ ·)

/-- One more receipt, not older than the ones before. -/
theorem Recorded.observe {times : List Int64} {slot : Slot} (recorded : Recorded times slot)
    {settings : Settings Float} {limits : Window.Limits} {reading : Reading Float}
    {timestamp now : Int64}
    (timely : ∀ last, slot.node.lastSampleAt = some last → last ≤ timestamp) :
    Recorded (times ++ [timestamp]) (observe settings limits reading timestamp now slot) where
  counted := by
    change slot.node.sampleCount + 1 = _
    rw [recorded.counted, List.length_append, List.length_singleton, UInt64.ofNat_add]
    rfl
  last := by
    rw [List.getLast?_concat]
    rfl
  sorted := by
    refine List.pairwise_append.mpr ⟨recorded.sorted, List.pairwise_singleton _ _, ?_⟩
    intro time member added same
    rw [List.mem_singleton.mp same]
    cases isLast : times.getLast? with
    | none =>
      rw [List.getLast?_eq_none_iff.mp isLast] at member
      cases member
    | some last =>
      exact Int64.le_trans (le_last recorded.sorted isLast time member)
        (timely last (recorded.last.trans isLast))

theorem recorded_fresh (id : String) (name : Option String) (now : Int64) :
    Recorded [] (.fresh (.fresh id name now)) := ⟨rfl, rfl, .nil⟩

def Accounted (registry : Registry) (log : List Entry) : Prop :=
  ∀ id slot, registry.slots.get? id = some slot → Recorded (timesOf id log) slot

theorem Entry.addTo_of_unmentioned {id : String} (times : List Int64) (entry : Entry)
    (unmentioned : entry.subject? ≠ some id) : entry.addTo id times = times := by
  cases entry with
  | accepted receipt => exact if_neg fun own => unmentioned (congrArg some own)
  | registered other created => exact if_neg fun own => unmentioned (by simp [subject?, own])
  | _ => rfl

/-- Every turn that a run without a restore takes keeps the account. -/
theorem Accounted.turn {engine : Engine} {log added : List Entry} {now : Int64}
    {registry : Registry} {tally : Tally} {table : PerCategory (PerCategory UInt64)}
    (sound : engine.registry.Sound) (turn : Turn engine now added registry tally table)
    (accounted : Accounted engine.registry log) : Accounted registry (log ++ added) := by
  intro id slot found
  rw [timesOf_append]
  cases turn.treatment sound found with
  | spared tracked unmentioned _ _ counted last =>
    have before := accounted id _ tracked
    rw [foldl_of_unmentioned Entry.addTo_of_unmentioned added unmentioned]
    exact ⟨counted.trans before.counted, last.trans before.last, before.sorted⟩
  | @entered request own absent =>
    subst own
    simp only [List.foldl_cons, List.foldl_nil, Entry.addTo, and_self, if_true]
    rw [described, Registry.seat, absent]
    exact ⟨rfl, rfl, .nil⟩
  | @reported reading own isAccepted =>
    subst own
    have timely : ∀ last, (engine.registry.seat reading.id reading.name now).node.lastSampleAt =
        some last → last ≤ timeOf now reading := fun _ => le_timeOf_of_accepted sound isAccepted
    have ownReceipt : (engine.receiptFor now reading).id = reading.id := rfl
    simp only [List.foldl_cons, List.foldl_nil, Entry.addTo, ownReceipt, if_true]
    cases tracked : engine.registry.slots.get? reading.id with
    | some before =>
      have known : (engine.receiptFor now reading).created = false :=
        congrArg not (Registry.contains_eq_true tracked)
      rw [known, if_neg Bool.false_ne_true, observed]
      rw [Registry.seat_tracked tracked] at timely ⊢
      exact (accounted _ before tracked).observe timely
    | none =>
      have new : (engine.receiptFor now reading).created = true :=
        congrArg not (Registry.contains_eq_false tracked)
      rw [new, if_pos rfl, observed, Registry.seat, tracked]
      exact (recorded_fresh _ _ _).observe fun _ known => by cases known
  | retired tracked active =>
    have before := accounted id _ tracked
    exact ⟨before.counted, before.last, before.sorted⟩

/-- After every run without a restore, the ledger accounts for every record. -/
theorem accounted_run (settings : Settings Float) (name : String) {steps : List Step}
    (noRestore : ∀ step ∈ steps, ∀ snapshot, step.operation? ≠ some (.restore snapshot)) :
    Accounted ((fresh settings name).run steps).registry ((fresh settings name).entries steps) :=
  run_induction (p := fun engine log => Accounted engine.registry log)
    (sound_fresh settings name) noRestore
    (fun _ _ found => by cases found)
    fun _ _ _ sound turn accounted => accounted.turn sound.registry turn

/-- A node has at most as many receipts as readings were handed in. -/
theorem length_addTo_le (id : String) (log : List Entry) : ∀ times : List Int64,
    (log.foldl (Entry.addTo id) times).length ≤ times.length + log.countP Entry.isReading := by
  induction log with
  | nil => exact fun _ => le_rfl
  | cons entry rest ih =>
    intro times
    have first : (entry.addTo id times).length ≤
        times.length + if entry.isReading = true then 1 else 0 := by
      cases entry with
      | accepted receipt =>
        simp only [Entry.addTo, Entry.isReading, if_true]
        split
        · split <;> simp
        · omega
      | registered other created =>
        simp only [Entry.addTo]
        split <;> simp
      | _ => exact Nat.le_add_right _ _
    rw [List.foldl_cons, List.countP_cons]
    have later := ih (entry.addTo id times)
    omega

/-! ## The theorem -/

/-- A record is consistent with itself, with its window and with the times at which readings of
its node were accepted since it was created. -/
structure Consistent (times : List Int64) (slot : Slot) : Prop where
  initial : slot.node.lifecycle = .initial ↔ slot.node.category = .initial
  sundown : slot.node.lifecycle = .sundown ↔ slot.node.category = .sundown
  active : slot.node.lifecycle = .active ↔ slot.node.category.Scored
  counted : slot.node.sampleCount.toNat = times.length
  uncounted : slot.node.sampleCount = 0 ↔ slot.node.lastSampleAt = none
  unreported : slot.node.lastSampleAt = none ↔ slot.window.isEmpty = true
  blank : slot.node.sampleCount = 0 →
    (slot.node.category = .initial ∨ slot.node.category = .sundown) ∧
      slot.node.scores.dimensions = [1.0, 1.0, 1.0, 1.0]
  started : slot.node.category = .initial → slot.node.sampleCount = 0
  last : ∀ last, slot.node.lastSampleAt = some last →
    last ∈ times ∧ (∀ time ∈ times, time ≤ last) ∧
      ∃ sample, slot.window.latest? = some sample ∧ sample.timestamp = last
  quiet : slot.node.category = .sundown → slot.node.stale = false

theorem Coherent.active {slot : Slot} (coherent : Coherent slot) :
    slot.node.lifecycle = .active ↔ slot.node.category.Scored := by
  have started := coherent.initial
  have gone := coherent.sundown
  cases stage : slot.node.lifecycle <;> cases category : slot.node.category <;>
    simp_all [Category.Scored]

/-- What a slot says on its own and what it says of the ledger make it consistent, as long as the
counter has not overflowed. -/
theorem Coherent.consistent {slot : Slot} {times : List Int64} (coherent : Coherent slot)
    (recorded : Recorded times slot) (few : times.length < 2 ^ 64) : Consistent times slot := by
  have counted : slot.node.sampleCount.toNat = times.length := by
    rw [recorded.counted]
    exact UInt64.toNat_ofNat_of_lt' few
  have uncounted : slot.node.sampleCount = 0 ↔ slot.node.lastSampleAt = none := by
    rw [recorded.last, List.getLast?_eq_none_iff, ← List.length_eq_zero_iff, ← counted]
    exact UInt64.toNat_inj.symm
  exact {
    initial := coherent.initial
    sundown := coherent.sundown
    active := coherent.active
    counted := counted
    uncounted := uncounted
    unreported := by
      rw [coherent.newest, Option.map_eq_none_iff]
      exact List.getLast?_eq_none_iff.trans List.isEmpty_iff.symm
    blank := fun none => coherent.unreported (uncounted.mp none)
    started := fun started => uncounted.mpr (coherent.started started)
    last := fun last known => by
      have isLast := recorded.last.symm.trans known
      obtain ⟨sample, newest, time⟩ := Option.map_eq_some_iff.mp (coherent.newest.symm.trans known)
      exact ⟨List.mem_of_getLast? isLast, le_last recorded.sorted isLast, sample, newest, time⟩
    quiet := coherent.quiet }

/-- In every state that a run without a restore reaches, every record is consistent, as long as
the readings can be counted in 64 bits. -/
theorem run_consistency (settings : Settings Float) (name : String) (steps : List Step)
    (noRestore : ∀ step ∈ steps, ∀ snapshot, step.operation? ≠ some (.restore snapshot))
    (few : (steps.flatMap Step.readings).length < 2 ^ 64) (id : String) (slot : Slot)
    (tracked : ((fresh settings name).run steps).registry.slot? id = some slot) :
    Consistent (timesOf id ((fresh settings name).entries steps)) slot := by
  have sound := ((sound_fresh settings name).run steps).registry
  rw [sound.slot?_eq] at tracked
  have coherent : Coherent slot := (kept_coherent settings).run name noRestore tracked
  have fewer := length_addTo_le id ((fresh settings name).entries steps) []
  rw [countP_entries, List.length_nil, Nat.zero_add] at fewer
  exact coherent.consistent (accounted_run settings name noRestore id slot tracked)
    (fewer.trans_lt few)

/-- A node that is decommissioned before it reports stays so when it does. -/
theorem run_consistency_decommissioned :
    let steps : List Step :=
      [.single 0 (.register ⟨"a", none, none⟩), .single 1 (.decommission "a"),
        .single 2 (.submit (.loaded "a" (some 7) 0.5)), .single 3 .sweep]
    ∃ slot, ((fresh .default "engine").run steps).registry.slot? "a" = some slot ∧
      slot.node.lifecycle = .sundown ∧ slot.node.sampleCount.toNat = 1 ∧
        slot.node.stale = false := by
  intro steps
  have noRestore : ∀ step ∈ steps, ∀ snapshot, step.operation? ≠ some (.restore snapshot) := by
    simp [steps]
  have tracked : (((fresh .default "engine").run steps).registry.slot? "a").map
      (fun slot => slot.node.category) = some .sundown := by
    decide +kernel
  have times : timesOf "a" ((fresh .default "engine").entries steps) = [7] := by decide +kernel
  obtain ⟨slot, found, gone⟩ := Option.map_eq_some_iff.mp tracked
  have consistent := run_consistency .default "engine" steps noRestore (by decide) "a" slot found
  rw [times] at consistent
  exact ⟨slot, found, consistent.sundown.mpr gone, consistent.counted, consistent.quiet gone⟩

end Engine

end Headroom
