import Headroom.Proofs.Engine.Runs

/-!
# Refused readings

A reading is refused for one of three reasons, which exclude each other: something
is wrong with it, it is older than the last one of its node, or its node is new and
there is no place.  The reasons are found at different depths, one of them only
after the node was entered, but a refusal leaves the same traces at each: its
counter, the metrics and a line in the journal.  So a batch leaves the nodes that
its accepted readings alone would leave.

What is wrong with a reading may be its id alone.  A registration and a snapshot are
not checked as closely, so they can bring in a node that never reports.
-/

namespace Headroom

@[simp]
theorem Rejections.get_count (rejections : Rejections) (code other : RejectionCode) :
    (rejections.count code).get other =
      if other = code then rejections.get other + 1 else rejections.get other := by
  cases code <;> cases other <;> rfl

namespace Engine

/-- The node of a reading has a sample that is newer than the reading. -/
def Late (engine : Engine) (now : Int64) (reading : Reading Float) (last : Int64) : Prop :=
  ∃ node, engine.get? reading.id = some node ∧ node.lastSampleAt = some last ∧
    timeOf now reading < last

/-- The node of a reading is new, and there are as many nodes as there may be. -/
def Crowded (engine : Engine) (reading : Reading Float) (capacity : Nat) : Prop :=
  engine.get? reading.id = none ∧
    engine.settings.registry.capacity.map UInt64.toNat = some capacity ∧
    capacity ≤ engine.registry.nodes.length

/-- The reasons for which a reading is refused, and what it takes to be accepted. -/
inductive Verdict (engine : Engine) (now : Int64) (reading : Reading Float) :
    Option Refusal → Prop where
  | invalid {objection : Objection Float} (faulty : reading.Faulty) :
      Verdict engine now reading (some (.invalid objection))
  | late {last : Int64} (inOrder : ¬ reading.Faulty) (late : engine.Late now reading last) :
      Verdict engine now reading (some (.stale reading.id (timeOf now reading) last))
  | crowded {capacity : Nat} (inOrder : ¬ reading.Faulty)
      (crowded : engine.Crowded reading capacity) :
      Verdict engine now reading (some (.full capacity))
  | accepted (inOrder : ¬ reading.Faulty) (timely : ∀ last, ¬ engine.Late now reading last)
      (room : ∀ capacity, ¬ engine.Crowded reading capacity) :
      Verdict engine now reading none

section Verdict

variable {engine : Engine} {now : Int64} {reading : Reading Float}

theorem Late.unique {first second : Int64} (late : engine.Late now reading first)
    (again : engine.Late now reading second) : first = second := by
  obtain ⟨node, found, last, _⟩ := late
  obtain ⟨other, sameFound, sameLast, _⟩ := again
  cases found.symm.trans sameFound
  exact Option.some.inj (last.symm.trans sameLast)

theorem Crowded.unique {first second : Nat} (crowded : engine.Crowded reading first)
    (again : engine.Crowded reading second) : first = second :=
  Option.some.inj (crowded.2.1.symm.trans again.2.1)

theorem Late.not_crowded {last : Int64} {capacity : Nat} (late : engine.Late now reading last) :
    ¬ engine.Crowded reading capacity := by
  obtain ⟨node, found, _⟩ := late
  exact fun crowded => Option.some_ne_none node (found.symm.trans crowded.1)

theorem admits_iff_not_crowded (sound : engine.Sound) :
    engine.registry.admits reading.id = true ↔ ∀ capacity, ¬ engine.Crowded reading capacity := by
  have configured : engine.registry.capacity =
      engine.settings.registry.capacity.map UInt64.toNat := congrArg Prod.snd sound.bounds
  rw [← not_iff_not, Bool.not_eq_true, Registry.admits_eq_false, Registry.isFull_iff]
  simp only [Crowded, get?, sound.registry.get?_eq, Option.map_eq_none_iff, configured,
    sound.registry.length_nodes, not_forall, not_not]
  constructor
  · rintro ⟨absent, capacity, bound, full⟩
    exact ⟨capacity, absent, bound, full⟩
  · rintro ⟨capacity, absent, bound, full⟩
    exact ⟨absent, capacity, bound, full⟩

theorem late_iff {last : Int64} :
    ((engine.get? reading.id).bind (·.lastSampleAt)).filter
      (fun last => timeOf now reading < last) = some last ↔ engine.Late now reading last := by
  rw [Option.filter_eq_some_iff, Option.bind_eq_some_iff, decide_eq_true_iff]
  constructor
  · rintro ⟨⟨node, found, known⟩, newer⟩
    exact ⟨node, found, known, newer⟩
  · rintro ⟨node, found, known, newer⟩
    exact ⟨⟨node, found, known⟩, newer⟩

/-- Every reading meets the verdict that its refusal, or the lack of one, stands for. -/
theorem verdict (sound : engine.Sound) (now : Int64) (reading : Reading Float) :
    Verdict engine now reading (engine.refusal? now reading) := by
  rw [refusal?]
  split
  · rename_i objection invalid
    refine .invalid (by_contra fun inOrder => ?_)
    rw [Reading.validate_eq_ok.mpr inOrder] at invalid
    cases invalid
  · rename_i valid
    have inOrder := Reading.validate_eq_ok.mp valid
    split
    · rename_i room
      cases late : ((engine.get? reading.id).bind (·.lastSampleAt)).filter
          (fun last => timeOf now reading < last) with
      | some last => exact .late inOrder (late_iff.mp late)
      | none =>
        refine .accepted inOrder (fun last isLate => ?_) ((admits_iff_not_crowded sound).mp room)
        rw [late_iff.mpr isLate] at late
        cases late
    · rename_i full
      rw [admits_iff_not_crowded sound, not_forall] at full
      obtain ⟨capacity, crowded⟩ := full
      rw [not_not] at crowded
      have bound : engine.registry.capacity.getD 0 = capacity := by
        rw [show engine.registry.capacity = some capacity from
          (congrArg Prod.snd sound.bounds).trans crowded.2.1, Option.getD_some]
      rw [bound]
      exact .crowded inOrder crowded

theorem submit_result (sound : engine.Sound) :
    (engine.submit now reading).2 =
      match engine.refusal? now reading with
      | some refusal => .error refusal
      | none => .ok (engine.receiptFor now reading) := by
  cases refused : engine.refusal? now reading with
  | some refusal => rw [submit_refused sound.registry refused]
  | none => rw [submit_accepted sound.registry refused]

theorem refusal?_of_error (sound : engine.Sound) {refusal : Refusal}
    (failed : (engine.submit now reading).2 = .error refusal) :
    engine.refusal? now reading = some refusal := by
  rw [submit_result sound] at failed
  split at failed
  · rename_i refused
    rw [refused, Except.error.inj failed]
  · cases failed

theorem submit_verdict (sound : engine.Sound) (now : Int64) (reading : Reading Float) :
    ∃ refused, Verdict engine now reading refused ∧
      (engine.submit now reading).2 =
        match refused with
        | some refusal => .error refusal
        | none => .ok (engine.receiptFor now reading) :=
  ⟨_, verdict sound now reading, submit_result sound⟩

/-- A reading is refused as invalid exactly if it is faulty in itself. -/
theorem submit_invalid_iff (sound : engine.Sound) :
    (∃ objection, (engine.submit now reading).2 = .error (.invalid objection)) ↔
      reading.Faulty := by
  obtain ⟨refused, met, result⟩ := submit_verdict sound now reading
  rw [result]
  cases met with
  | @invalid objection faulty =>
    constructor
    · intro refusedSo
      exact faulty
    · intro again
      exact ⟨objection, rfl⟩
  | late inOrder | crowded inOrder | accepted inOrder =>
    constructor
    · rintro ⟨objection, other⟩
      cases other
    · intro faulty
      exact absurd faulty inOrder

/-- A reading is refused as stale exactly if it is not faulty and its node has a newer sample. -/
theorem submit_stale_iff (sound : engine.Sound) (id : String) (time last : Int64) :
    (engine.submit now reading).2 = .error (.stale id time last) ↔
      ¬ reading.Faulty ∧ id = reading.id ∧ time = timeOf now reading ∧
        engine.Late now reading last := by
  obtain ⟨refused, met, result⟩ := submit_verdict sound now reading
  rw [result]
  cases met with
  | invalid faulty =>
    constructor
    · intro other
      cases other
    · rintro ⟨inOrder, _⟩
      exact absurd faulty inOrder
  | late inOrder late =>
    constructor
    · intro same
      cases same
      exact ⟨inOrder, rfl, rfl, late⟩
    · rintro ⟨_, rfl, rfl, again⟩
      rw [late.unique again]
  | crowded inOrder crowded =>
    constructor
    · intro other
      cases other
    · rintro ⟨_, _, _, late⟩
      exact absurd crowded late.not_crowded
  | accepted inOrder timely =>
    constructor
    · intro other
      cases other
    · rintro ⟨_, _, _, late⟩
      exact absurd late (timely last)

/-- A reading is refused for want of a place exactly if it is not faulty and its node would be one
too many. -/
theorem submit_full_iff (sound : engine.Sound) (capacity : Nat) :
    (engine.submit now reading).2 = .error (.full capacity) ↔
      ¬ reading.Faulty ∧ engine.Crowded reading capacity := by
  obtain ⟨refused, met, result⟩ := submit_verdict sound now reading
  rw [result]
  cases met with
  | invalid faulty =>
    constructor
    · intro other
      cases other
    · rintro ⟨inOrder, _⟩
      exact absurd faulty inOrder
  | late inOrder late =>
    constructor
    · intro other
      cases other
    · rintro ⟨_, crowded⟩
      exact absurd crowded late.not_crowded
  | crowded inOrder crowded =>
    constructor
    · intro same
      cases same
      exact ⟨inOrder, crowded⟩
    · rintro ⟨_, again⟩
      rw [crowded.unique again]
  | accepted inOrder timely room =>
    constructor
    · intro other
      cases other
    · rintro ⟨_, crowded⟩
      exact absurd crowded (room capacity)

/-- A reading is accepted exactly if none of the reasons for a refusal applies. -/
theorem submit_ok_iff (sound : engine.Sound) :
    (∃ receipt, (engine.submit now reading).2 = .ok receipt) ↔
      ¬ reading.Faulty ∧ (∀ last, ¬ engine.Late now reading last) ∧
        ∀ capacity, ¬ engine.Crowded reading capacity := by
  obtain ⟨refused, met, result⟩ := submit_verdict sound now reading
  rw [result]
  cases met with
  | invalid faulty =>
    constructor
    · rintro ⟨receipt, other⟩
      cases other
    · rintro ⟨inOrder, _⟩
      exact absurd faulty inOrder
  | @late last inOrder late =>
    constructor
    · rintro ⟨receipt, other⟩
      cases other
    · rintro ⟨_, timely, _⟩
      exact absurd late (timely last)
  | @crowded capacity inOrder crowded =>
    constructor
    · rintro ⟨receipt, other⟩
      cases other
    · rintro ⟨_, _, room⟩
      exact absurd crowded (room capacity)
  | accepted inOrder timely room =>
    constructor
    · intro answered
      exact ⟨inOrder, timely, room⟩
    · intro free
      exact ⟨engine.receiptFor now reading, rfl⟩

end Verdict

/-! ## The traces of a refusal -/

/-- What is new after a refusal: its counter, the metrics of the intake and a line in the
journal.  Nodes, windows, places and history are as before. -/
structure Traces (before after : Engine) (code : RejectionCode) : Prop where
  settings : after.settings = before.settings
  instanceName : after.instanceName = before.instanceName
  registry : after.registry = before.registry
  history : after.history = before.history
  accepted : after.tally.accepted = before.tally.accepted
  transitions : after.tally.transitions = before.tally.transitions
  collected : after.tally.collected = before.tally.collected
  rejected : ∀ other, after.tally.rejected.get other =
    if other = code then before.tally.rejected.get other + 1 else before.tally.rejected.get other
  metrics : after.metrics = { before.metrics with
    samplesRejected := before.metrics.samplesRejected.count code
    ingestCount := before.metrics.ingestCount + 1 }
  journal : ∃ event, after.journal = before.journal ++ [event]

/-- A refusal leaves its traces and nothing else. -/
theorem traces_noteRejected (engine : Engine) (id : String) (refusal : Refusal) :
    Traces engine (engine.noteRejected id refusal) refusal.code where
  settings := rfl
  instanceName := rfl
  registry := rfl
  history := rfl
  accepted := rfl
  transitions := rfl
  collected := rfl
  rejected := Rejections.get_count _ _
  metrics := rfl
  journal := ⟨_, rfl⟩

theorem submit_traces {engine : Engine} (sound : engine.Sound) {now : Int64}
    {reading : Reading Float} {refusal : Refusal}
    (failed : (engine.submit now reading).2 = .error refusal) :
    Traces engine (engine.submit now reading).1 refusal.code := by
  rw [submit_refused sound.registry (refusal?_of_error sound failed)]
  exact traces_noteRejected engine reading.id refusal

/-! ## Batches -/

def refusedAs (code : RejectionCode) : Outcome → Bool
  | .accepted _ => false
  | .rejected _ word _ => word == code.word

def acceptedOf (readings : List (Int64 × Reading Float)) (outcomes : List Outcome) :
    List (Int64 × Reading Float) :=
  ((readings.zip outcomes).filter fun entry => entry.2.isAccepted).map (·.1)

/-- Two engines that differ at most in what refusals leave behind. -/
structure Agrees (left right : Engine) : Prop where
  settings : left.settings = right.settings
  registry : left.registry = right.registry
  history : left.history = right.history
  accepted : left.tally.accepted = right.tally.accepted
  transitions : left.tally.transitions = right.tally.transitions
  collected : left.tally.collected = right.tally.collected

namespace Agrees

theorem refl (engine : Engine) : Agrees engine engine := ⟨rfl, rfl, rfl, rfl, rfl, rfl⟩

variable {left right : Engine} (agrees : Agrees left right)

include agrees

theorem refusal? (now : Int64) (reading : Reading Float) :
    left.refusal? now reading = right.refusal? now reading := by
  simp only [Engine.refusal?, Engine.get?, agrees.registry]

theorem receiptFor (now : Int64) (reading : Reading Float) :
    left.receiptFor now reading = right.receiptFor now reading := by
  simp only [Engine.receiptFor, observed, standing, Engine.get?, agrees.registry, agrees.settings]

theorem accept (now : Int64) (reading : Reading Float) :
    Agrees (left.accepted now reading) (right.accepted now reading) where
  settings := by simpa [Engine.accepted] using agrees.settings
  registry := by simp [Engine.accepted, observed, agrees.registry, agrees.settings]
  history := by simp [Engine.accepted, agrees.receiptFor now reading, agrees.history]
  accepted := by simp [Engine.accepted, agrees.accepted]
  transitions := by
    simp [Engine.accepted, agrees.receiptFor now reading, agrees.transitions]
  collected := by simp [Engine.accepted, agrees.collected]

theorem refuse (id : String) (refusal : Refusal) : Agrees (left.noteRejected id refusal) right :=
  ⟨agrees.settings, agrees.registry, agrees.history, agrees.accepted, agrees.transitions,
    agrees.collected⟩

end Agrees

theorem length_submitEach (readings : List (Int64 × Reading Float)) :
    ∀ engine : Engine, (engine.submitEach readings).2.length = readings.length := by
  induction readings with
  | nil => exact fun _ => rfl
  | cons timed rest ih =>
    exact fun engine => congrArg (· + 1) (ih (engine.submit timed.1 timed.2).1)

/-- A batch and its accepted readings alone lead to engines that agree. -/
theorem submitEach_acceptedOf (readings : List (Int64 × Reading Float)) :
    ∀ {left right : Engine}, left.Sound → right.Sound → Agrees left right →
      let outcomes := (left.submitEach readings).2
      let alone := right.submitEach (acceptedOf readings outcomes)
      Agrees (left.submitEach readings).1 alone.1 ∧
        alone.2 = outcomes.filter Outcome.isAccepted := by
  induction readings with
  | nil => exact fun _ _ agrees => ⟨agrees, rfl⟩
  | cons timed rest ih =>
    obtain ⟨now, reading⟩ := timed
    intro left right soundLeft soundRight agrees
    have soundNext := soundLeft.submit now reading
    cases refused : left.refusal? now reading with
    | some refusal =>
      rw [submit_refused soundLeft.registry refused] at soundNext
      simp only [submitEach_cons, submit_refused soundLeft.registry refused, outcome, acceptedOf,
        List.zip_cons_cons, List.filter_cons, Outcome.isAccepted, Bool.false_eq_true, if_false]
      exact ih soundNext soundRight (agrees.refuse _ _)
    | none =>
      have soundAlone := soundRight.submit now reading
      have alsoAccepted : right.refusal? now reading = none :=
        (agrees.refusal? now reading).symm.trans refused
      rw [submit_accepted soundLeft.registry refused] at soundNext
      rw [submit_accepted soundRight.registry alsoAccepted] at soundAlone
      obtain ⟨later, receipts⟩ := ih soundNext soundAlone (agrees.accept now reading)
      simp only [submitEach_cons, submit_accepted soundLeft.registry refused, outcome, acceptedOf,
        List.zip_cons_cons, List.filter_cons, Outcome.isAccepted, if_true, List.map_cons,
        submit_accepted soundRight.registry alsoAccepted]
      exact ⟨later, congrArg₂ _ (congrArg _ (agrees.receiptFor now reading).symm) receipts⟩

theorem refusedAs_outcome {code : RejectionCode} {id : String} {refusal : Refusal} :
    refusedAs code (outcome id (.error refusal)) = decide (code = refusal.code) := by
  cases code <;> cases refusal <;> rfl

theorem add_counted (total : UInt64) (count : Nat) (condition : Bool) :
    total + (if condition then 1 else 0) + .ofNat count =
      total + .ofNat (count + if condition then 1 else 0) := by
  cases condition with
  | false => simp
  | true =>
    rw [if_pos rfl, if_pos rfl, UInt64.ofNat_add, UInt64.add_assoc, UInt64.add_comm 1]
    rfl

/-- Every refusal of a batch is counted once, under its label. -/
theorem rejected_submitEach (code : RejectionCode) (readings : List (Int64 × Reading Float)) :
    ∀ {engine : Engine}, engine.Sound →
      (engine.submitEach readings).1.tally.rejected.get code =
        engine.tally.rejected.get code +
          .ofNat ((engine.submitEach readings).2.countP (refusedAs code)) := by
  induction readings with
  | nil => exact fun _ => (UInt64.add_zero _).symm
  | cons timed rest ih =>
    obtain ⟨now, reading⟩ := timed
    intro engine sound
    have first : (engine.submit now reading).1.tally.rejected.get code =
        engine.tally.rejected.get code +
          if refusedAs code (outcome reading.id (engine.submit now reading).2) then 1 else 0 := by
      cases refused : engine.refusal? now reading with
      | some refusal =>
        rw [submit_refused sound.registry refused, refusedAs_outcome,
          (traces_noteRejected engine reading.id refusal).rejected]
        by_cases same : code = refusal.code <;> simp [same]
      | none =>
        rw [submit_accepted sound.registry refused]
        simp [accepted, outcome, refusedAs]
    rw [submitEach_cons, List.countP_cons, ih (sound.submit now reading), first, add_counted]

/-- Every accepted reading of a batch is counted once. -/
theorem accepted_submitEach (readings : List (Int64 × Reading Float)) :
    ∀ {engine : Engine}, engine.Sound →
      (engine.submitEach readings).1.tally.accepted =
        engine.tally.accepted +
          .ofNat ((engine.submitEach readings).2.countP Outcome.isAccepted) := by
  induction readings with
  | nil => exact fun _ => (UInt64.add_zero _).symm
  | cons timed rest ih =>
    obtain ⟨now, reading⟩ := timed
    intro engine sound
    have first : (engine.submit now reading).1.tally.accepted =
        engine.tally.accepted +
          if (outcome reading.id (engine.submit now reading).2).isAccepted then 1 else 0 := by
      cases refused : engine.refusal? now reading with
      | some refusal =>
        rw [submit_refused sound.registry refused]
        simp [noteRejected, log, outcome, Outcome.isAccepted]
      | none =>
        rw [submit_accepted sound.registry refused]
        simp [accepted, outcome, Outcome.isAccepted]
    rw [submitEach_cons, List.countP_cons, ih (sound.submit now reading), first, add_counted]

/-- In every state that an engine reaches, a reading is refused exactly for the first of the
three reasons that applies to it, and a refusal leaves no more than its traces.  A batch acts
like its readings one after the other, each taken at its own time; it leaves the nodes, the history
and the other counters that its accepted readings alone leave, and counts each refusal under its
label. -/
theorem run_rejection (settings : Settings Float) (name : String) (steps : List Step)
    (now : Int64) :
    let engine := (fresh settings name).run steps
    (∀ reading : Reading Float,
      let after := (engine.submit now reading).1
      let result := (engine.submit now reading).2
      ((∃ objection, result = .error (.invalid objection)) ↔ reading.Faulty) ∧
      (∀ id time last, result = .error (.stale id time last) ↔
        ¬ reading.Faulty ∧ id = reading.id ∧ time = timeOf now reading ∧
          engine.Late now reading last) ∧
      (∀ capacity, result = .error (.full capacity) ↔
        ¬ reading.Faulty ∧ engine.Crowded reading capacity) ∧
      ((∃ receipt, result = .ok receipt) ↔
        ¬ reading.Faulty ∧ (∀ last, ¬ engine.Late now reading last) ∧
          ∀ capacity, ¬ engine.Crowded reading capacity) ∧
      ∀ refusal, result = .error refusal → Traces engine after refusal.code) ∧
    ∀ readings : List (Int64 × Reading Float),
      let last := (engine.submitEach readings).1
      let outcomes := (engine.submitEach readings).2
      let alone := engine.submitEach (acceptedOf readings outcomes)
      last = engine.follow (readings.map Action.ofReading) ∧
      outcomes.length = readings.length ∧
      Agrees last alone.1 ∧
      alone.2 = outcomes.filter Outcome.isAccepted ∧
      last.tally.accepted =
        engine.tally.accepted + .ofNat (outcomes.countP Outcome.isAccepted) ∧
      ∀ code, last.tally.rejected.get code =
        engine.tally.rejected.get code + .ofNat (outcomes.countP (refusedAs code)) := by
  intro engine
  have sound : engine.Sound := (sound_fresh settings name).run steps
  constructor
  · intro reading
    exact ⟨submit_invalid_iff sound, submit_stale_iff sound, submit_full_iff sound,
      submit_ok_iff sound, fun _ failed => submit_traces sound failed⟩
  · intro readings
    obtain ⟨agrees, receipts⟩ :=
      submitEach_acceptedOf readings sound sound (Agrees.refl engine)
    exact ⟨submitEach_eq_follow readings engine, length_submitEach readings engine, agrees,
      receipts, accepted_submitEach readings sound,
      fun code => rejected_submitEach code readings sound⟩

/-! ## Nodes that cannot report -/

section Reports

variable {engine : Engine} {now : Int64} {reading : Reading Float}

theorem submit_blank (blank : Text.trimmed reading.id = []) :
    (engine.submit now reading).2 = .error (.invalid .emptyId) := by
  rw [submit, ingest, Reading.validate_blank blank]

/-- A reading of a tracked node that is in range and in time is accepted for any id that is not
blank. -/
theorem submit_tracked (sound : engine.Sound) {node : Node} {time : Int64}
    (tracked : engine.get? reading.id = some node) (named : Text.trimmed reading.id ≠ [])
    (inRange : reading.InRange) (given : reading.timestamp = some time) (nonneg : 0 ≤ time)
    (timely : ∀ last, node.lastSampleAt = some last → last ≤ time) :
    ∃ receipt, (engine.submit now reading).2 = .ok receipt := by
  refine (submit_ok_iff sound).mpr ⟨?_, ?_, ?_⟩
  · refine fun faulty => named ((inRange.faulty_iff fun other same => ?_).mp faulty)
    cases given.symm.trans same
    exact Int64.not_lt.mpr nonneg
  · rintro last ⟨other, found, known, newer⟩
    cases tracked.symm.trans found
    rw [timeOf, given, Option.getD_some] at newer
    exact absurd (timely last known) (Int64.not_le.mpr newer)
  · rintro capacity ⟨absent, _⟩
    cases tracked.symm.trans absent

end Reports

/-- In every state that an engine reaches, a tracked node can report anything that is in range and
not older than its last sample, unless its id is blank.  A blank id may be entered and taken over
like any other, but every reading of it is refused for having no id. -/
theorem run_reporting (settings : Settings Float) (name : String) (steps : List Step)
    (now : Int64) (reading : Reading Float) (node : Node) (time : Int64) :
    let engine := (fresh settings name).run steps
    engine.get? reading.id = some node → reading.InRange → reading.timestamp = some time →
      0 ≤ time → (∀ last, node.lastSampleAt = some last → last ≤ time) →
        if Text.trimmed reading.id = [] then
          (engine.submit now reading).2 = .error (.invalid .emptyId)
        else ∃ receipt, (engine.submit now reading).2 = .ok receipt := by
  intro engine tracked inRange given nonneg timely
  split
  · rename_i blank
    exact submit_blank blank
  · rename_i named
    have sound : engine.Sound := (sound_fresh settings name).run steps
    exact submit_tracked sound tracked named inRange given nonneg timely

/-- A blank within an id does no harm. -/
theorem run_reporting_registered :
    let steps : List Step := [.single 5 (.register ⟨"node 1", none, none⟩)]
    ∃ receipt, (((fresh .default "engine").run steps).submit 7
      (.loaded "node 1" (some 0) 0.0)).2 = .ok receipt := by
  intro steps
  have tracked : (((fresh .default "engine").run steps).get? "node 1").map (·.lastSampleAt) =
      some none := by
    decide +kernel
  obtain ⟨node, found, unreported⟩ := Option.map_eq_some_iff.mp tracked
  have named : Text.trimmed "node 1" ≠ [] := by decide +kernel
  have reports := run_reporting .default "engine" steps 7 (.loaded "node 1" (some 0) 0.0) node 0
    found (Reading.inRange_loaded_zero _ _) rfl (by decide) fun last known => by
      rw [unreported] at known
      cases known
  exact (if_neg named).mp reports

/-- A blank id is entered, and its reading is refused although it is in range and in time. -/
theorem blank_registered :
    let reading : Reading Float := .loaded " " (some 0) 0.0
    let engine := (fresh .default "engine").run [.single 0 (.register ⟨" ", none, none⟩)]
    ((engine.get? reading.id).map (·.lastSampleAt) = some none ∧ reading.InRange) ∧
      ((engine.submit 0 reading).2 matches .error (.invalid .emptyId)) = true := by
  intro reading engine
  have tracked : (engine.get? reading.id).map (·.lastSampleAt) = some none := by decide +kernel
  have refused : ((engine.submit 0 reading).2 matches .error (.invalid .emptyId)) = true := by
    decide +kernel
  exact ⟨⟨tracked, Reading.inRange_loaded_zero _ _⟩, refused⟩

end Engine

end Headroom
