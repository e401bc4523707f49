import Headroom.Proofs.Engine.Rejection

/-!
# The ledger of a run

What an engine answers over a run is read as a ledger: readings that it accepted and refused,
nodes that it entered, decommissioned and collected.  The ledger holds nothing but answers, so
it says what a caller can know.  Every action adds what it answers to the ledger and does one
thing to registry and counters; what ties the ledger to the state is proved by cases on these
turns.
-/

namespace Headroom

namespace Engine

/-- One thing that an engine answered. -/
inductive Entry where
  | accepted (receipt : Receipt)
  | rejected (code : String)
  | registered (id : String) (created : Bool)
  | retired (transition : Transition)
  | collected (ids : List String)

def Answer.entries : Answer → List Entry
  | .submitted (.ok receipt) => [.accepted receipt]
  | .submitted (.error refusal) => [.rejected refusal.code.word]
  | .registered (.ok (node, created)) => [.registered node.id created]
  | .decommissioned (.ok (some transition)) => [.retired transition]
  | .swept sweep => [.collected sweep.collected]
  | _ => []

end Engine

def Outcome.entry : Outcome → Engine.Entry
  | .accepted receipt => .accepted receipt
  | .rejected _ code _ => .rejected code

namespace Engine

def Response.entries : Response → List Entry
  | .single answer => answer.entries
  | .batch outcomes => outcomes.map Outcome.entry

def entries (engine : Engine) : List Step → List Entry
  | [] => []
  | step :: rest => (engine.execute step).2.entries ++ (engine.execute step).1.entries rest

def ledger (engine : Engine) : List Action → List Entry
  | [] => []
  | action :: rest =>
    (engine.perform action.now action.operation).2.entries ++ (engine.act action).ledger rest

theorem ledger_append (first second : List Action) :
    ∀ engine : Engine,
      engine.ledger (first ++ second) =
        engine.ledger first ++ (engine.follow first).ledger second := by
  induction first with
  | nil => exact fun _ => rfl
  | cons action rest ih =>
    intro engine
    rw [List.cons_append, ledger, ledger, ih, List.append_assoc]
    rfl

/-- A reading adds the same to the ledger alone and within a batch. -/
theorem entries_submitted (id : String) (result : Except Refusal Receipt) :
    (Answer.submitted result).entries = [(outcome id result).entry] := by
  cases result <;> rfl

theorem entries_submitEach (readings : List (Int64 × Reading Float)) :
    ∀ engine : Engine, (engine.submitEach readings).2.map Outcome.entry =
      engine.ledger (readings.map Action.ofReading) := by
  induction readings with
  | nil => exact fun _ => rfl
  | cons timed rest ih =>
    obtain ⟨now, reading⟩ := timed
    intro engine
    have first := entries_submitted reading.id (engine.submit now reading).2
    rw [submitEach_cons, List.map_cons, List.map_cons, ledger, ih]
    exact congrArg (· ++ _) first.symm

theorem entries_execute (engine : Engine) (step : Step) :
    (engine.execute step).2.entries = engine.ledger step.actions := by
  cases step with
  | single now operation => exact (List.append_nil _).symm
  | batch readings => exact entries_submitEach readings engine

/-- The ledger of a run is that of its actions. -/
theorem entries_eq_ledger (steps : List Step) :
    ∀ engine : Engine, engine.entries steps = engine.ledger (steps.flatMap Step.actions) := by
  induction steps with
  | nil => exact fun _ => rfl
  | cons step rest ih =>
    intro engine
    rw [entries, List.flatMap_cons, ledger_append, ← execute_eq_follow, entries_execute, ih]

/-! ## Dated entries -/

def Step.dated : Step → Response → List (Int64 × Entry)
  | single now _, response => response.entries.map (Prod.mk now)
  | batch readings, response => (readings.map Prod.fst).zip response.entries

def datedEntries (engine : Engine) : List Step → List (Int64 × Entry)
  | [] => []
  | step :: rest =>
    step.dated (engine.execute step).2 ++ (engine.execute step).1.datedEntries rest

/-- The ledger of a sequence of actions, with the time of the clock at every entry. -/
def datedLedger (engine : Engine) : List Action → List (Int64 × Entry)
  | [] => []
  | action :: rest =>
    (engine.perform action.now action.operation).2.entries.map (Prod.mk action.now) ++
      (engine.act action).datedLedger rest

theorem datedEntries_append (first second : List Step) :
    ∀ engine : Engine, engine.datedEntries (first ++ second) =
      engine.datedEntries first ++ (engine.run first).datedEntries second := by
  induction first with
  | nil => exact fun _ => rfl
  | cons step rest ih =>
    intro engine
    rw [List.cons_append, datedEntries, datedEntries, ih, List.append_assoc]
    rfl

theorem datedLedger_append (first second : List Action) :
    ∀ engine : Engine, engine.datedLedger (first ++ second) =
      engine.datedLedger first ++ (engine.follow first).datedLedger second := by
  induction first with
  | nil => exact fun _ => rfl
  | cons action rest ih =>
    intro engine
    rw [List.cons_append, datedLedger, datedLedger, ih, List.append_assoc]
    rfl

/-- A batch is answered reading by reading, so its entries and its times match up. -/
theorem dated_submitEach (readings : List (Int64 × Reading Float)) :
    ∀ engine : Engine,
      (readings.map Prod.fst).zip ((engine.submitEach readings).2.map Outcome.entry) =
        engine.datedLedger (readings.map Action.ofReading) := by
  induction readings with
  | nil => exact fun _ => rfl
  | cons timed rest ih =>
    obtain ⟨now, reading⟩ := timed
    intro engine
    have first := entries_submitted reading.id (engine.submit now reading).2
    rw [submitEach_cons, List.map_cons, List.map_cons, List.map_cons, List.zip_cons_cons,
      datedLedger, ih]
    exact congrArg (fun entries => entries.map (Prod.mk now) ++ _) first.symm

theorem dated_execute (engine : Engine) (step : Step) :
    step.dated (engine.execute step).2 = engine.datedLedger step.actions := by
  cases step with
  | single now operation => exact (List.append_nil _).symm
  | batch readings => exact dated_submitEach readings engine

theorem datedEntries_eq_datedLedger (steps : List Step) :
    ∀ engine : Engine, engine.datedEntries steps =
      engine.datedLedger (steps.flatMap Step.actions) := by
  induction steps with
  | nil => exact fun _ => rfl
  | cons step rest ih =>
    intro engine
    rw [datedEntries, List.flatMap_cons, datedLedger_append, ← execute_eq_follow, dated_execute, ih]

theorem map_snd_datedLedger (actions : List Action) :
    ∀ engine : Engine, (engine.datedLedger actions).map Prod.snd = engine.ledger actions := by
  induction actions with
  | nil => exact fun _ => rfl
  | cons action rest ih =>
    intro engine
    rw [datedLedger, ledger, List.map_append, ih, List.map_map]
    exact congrArg (· ++ _) (List.map_id _)

/-! ## Transitions that were returned -/

def Entry.transition? : Entry → Option Transition
  | accepted receipt => receipt.transition
  | retired transition => some transition
  | _ => none

def transitionsOf (log : List Entry) : List Transition := log.filterMap Entry.transition?

theorem transitionsOf_append (log added : List Entry) :
    transitionsOf (log ++ added) = transitionsOf log ++ transitionsOf added :=
  List.filterMap_append

theorem transitionsOf_accepted (receipt : Receipt) :
    transitionsOf [.accepted receipt] = receipt.transition.toList := by
  cases change : receipt.transition <;> simp [transitionsOf, Entry.transition?, change]

/-! ## Readings that were handed in -/

def Entry.isReading : Entry → Bool
  | accepted _ | rejected _ => true
  | _ => false

def Entry.isAccepted : Entry → Bool
  | accepted _ => true
  | _ => false

def Step.readings : Step → List (Reading Float)
  | single _ (.submit reading) => [reading]
  | single _ _ => []
  | batch readings => readings.map Prod.snd

theorem isReading_entry (outcome : Outcome) : outcome.entry.isReading = true := by
  cases outcome <;> rfl

theorem countP_answer {answer : Answer} (other : ∀ result, answer ≠ .submitted result) :
    answer.entries.countP Entry.isReading = 0 := by
  cases answer with
  | submitted result => exact absurd rfl (other result)
  | registered result => cases result <;> rfl
  | decommissioned result => rcases result with _ | _ | _ <;> rfl
  | _ => rfl

/-- Every reading that is handed in is answered once. -/
theorem countP_response (engine : Engine) (step : Step) :
    (engine.execute step).2.entries.countP Entry.isReading = step.readings.length := by
  cases step with
  | single now operation =>
    change (engine.perform now operation).2.entries.countP Entry.isReading = _
    cases operation with
    | submit reading =>
      change (Answer.submitted (engine.submit now reading).2).entries.countP Entry.isReading = 1
      rw [entries_submitted reading.id, List.countP_singleton, isReading_entry, if_pos rfl]
    | _ => exact countP_answer fun result same => by simp only [perform, reduceCtorEq] at same
  | batch readings =>
    change ((engine.submitEach readings).2.map Outcome.entry).countP Entry.isReading =
      (readings.map Prod.snd).length
    rw [List.length_map, ← length_submitEach readings engine, List.countP_map,
      List.countP_eq_length]
    exact fun outcome _ => isReading_entry outcome

theorem countP_entries (steps : List Step) :
    ∀ engine : Engine, (engine.entries steps).countP Entry.isReading =
      (steps.flatMap Step.readings).length := by
  induction steps with
  | nil => exact fun _ => rfl
  | cons step rest ih =>
    intro engine
    rw [entries, List.countP_append, countP_response, ih, List.flatMap_cons, List.length_append]

/-! ## Turns -/

def moved (table : PerCategory (PerCategory UInt64)) (transition : Transition) :
    PerCategory (PerCategory UInt64) :=
  table.modify transition.source fun row => row.modify transition.target (· + 1)

/-- What an action other than a restore adds to the ledger, and what it makes of the registry,
the tally and the table of transitions. -/
inductive Turn (engine : Engine) (now : Int64) :
    List Entry → Registry → Tally → PerCategory (PerCategory UInt64) → Prop where
  | nothing : Turn engine now [] engine.registry engine.tally engine.metrics.transitions
  | refused {refusal : Refusal} :
      Turn engine now [.rejected refusal.code.word] engine.registry
        { engine.tally with rejected := engine.tally.rejected.count refusal.code }
        engine.metrics.transitions
  | accepted {reading : Reading Float} (accepted : engine.refusal? now reading = none) :
      Turn engine now [.accepted (engine.receiptFor now reading)]
        (engine.registry.store reading.id (engine.observed now reading))
        { engine.tally with
          accepted := engine.tally.accepted + 1
          transitions := engine.tally.transitions +
            if (engine.receiptFor now reading).transition.isSome then 1 else 0 }
        ((engine.receiptFor now reading).transition.elim engine.metrics.transitions
          (moved engine.metrics.transitions))
  | registered {request : Registration} (room : engine.registry.admits request.id = true) :
      Turn engine now [.registered request.id (!engine.registry.contains request.id)]
        (engine.registry.store request.id (engine.described now request)) engine.tally
        engine.metrics.transitions
  | retired {id : String} {slot : Slot} (found : engine.registry.slots.get? id = some slot)
      (active : slot.node.category ≠ .sundown) :
      Turn engine now [.retired (farewell slot id now)]
        (engine.registry.store id { slot with node := slot.node.retired now })
        { engine.tally with transitions := engine.tally.transitions + 1 }
        (moved engine.metrics.transitions (farewell slot id now))
  | rescored {id : String} {slot : Slot} (found : engine.registry.slots.get? id = some slot) :
      Turn engine now [] (engine.registry.store id (Engine.rescored engine.settings slot))
        engine.tally engine.metrics.transitions
  | swept {ids : List String}
      (expired : ids = (engine.registry.collect now engine.settings.registry.sundownRetention).2) :
      Turn engine now [.collected ids] (engine.swept now)
        { engine.tally with collected := engine.tally.collected + .ofNat ids.length }
        engine.metrics.transitions

@[simp]
theorem transitions_noteAccepted (engine : Engine) (receipt : Receipt) :
    (engine.noteAccepted receipt).metrics.transitions =
      receipt.transition.elim engine.metrics.transitions (moved engine.metrics.transitions) := by
  cases change : receipt.transition <;> simp only [noteAccepted, change] <;> rfl

theorem tally_flagSilent (engine : Engine) (now : Int64) :
    (engine.flagSilent now).1.tally = engine.tally ∧
      (engine.flagSilent now).1.metrics = engine.metrics := by
  simp only [flagSilent]
  split <;> split <;> exact ⟨rfl, rfl⟩

theorem tally_collect (engine : Engine) (now : Int64) :
    (engine.collect now).1.tally = { engine.tally with
      collected := engine.tally.collected + .ofNat (engine.collect now).2.length } ∧
    (engine.collect now).1.metrics.transitions = engine.metrics.transitions := by
  simp only [collect]
  split
  · simp
  · exact ⟨rfl, rfl⟩

@[simp]
theorem tally_sweep (engine : Engine) (now : Int64) :
    (engine.sweep now).1.tally = { engine.tally with
      collected := engine.tally.collected + .ofNat (engine.sweep now).2.collected.length } := by
  simp only [sweep, snapshot, (tally_flagSilent _ _).1, (tally_collect _ _).1]

@[simp]
theorem transitions_sweep (engine : Engine) (now : Int64) :
    (engine.sweep now).1.metrics.transitions = engine.metrics.transitions := by
  simp only [sweep, snapshot, Metrics.countSnapshot, (tally_flagSilent _ _).2, (tally_collect _ _).2]

theorem turn_act {engine : Engine} (sound : engine.registry.Sound) {action : Action}
    (noRestore : ∀ snapshot, action.operation ≠ .restore snapshot) :
    Turn engine action.now (engine.perform action.now action.operation).2.entries
      (engine.act action).registry (engine.act action).tally
      (engine.act action).metrics.transitions := by
  obtain ⟨now, operation⟩ := action
  cases operation with
  | submit reading =>
    rw [act, perform]
    cases verdict : engine.refusal? now reading with
    | some refusal =>
      rw [submit_refused sound verdict]
      exact .refused
    | none =>
      rw [submit_accepted sound verdict]
      simpa [accepted, Answer.entries] using Turn.accepted verdict
  | register request =>
    rw [act, perform]
    cases unnamed : request.id.isEmpty with
    | true =>
      rw [register_unnamed unnamed]
      exact .nothing
    | false =>
      cases room : engine.registry.admits request.id with
      | false =>
        rw [register_full sound unnamed room]
        exact .nothing
      | true =>
        rw [register_admitted sound unnamed room]
        have id : (engine.described now request).node.id = request.id :=
          sound.seat_id request.id request.name now
        simp only [Answer.entries, id]
        exact .registered room
  | decommission id =>
    rw [act, perform]
    cases found : engine.registry.slots.get? id with
    | none =>
      rw [decommission_absent sound found]
      exact .nothing
    | some slot =>
      by_cases gone : slot.node.category = .sundown
      · rw [decommission_again sound found gone]
        exact .nothing
      · rw [decommission_active sound found gone]
        exact .retired found gone
  | recompute id =>
    rw [act, perform]
    cases found : engine.registry.slots.get? id with
    | none =>
      rw [recompute_absent sound found]
      exact .nothing
    | some slot =>
      rw [recompute_tracked sound found]
      exact .rescored found
  | sweep =>
    rw [act, perform, registry_sweep, tally_sweep, transitions_sweep]
    exact .swept (congrArg Sweep.collected (sweep_report engine now))
  | restore snapshot => exact absurd rfl (noRestore snapshot)
  | _ => exact .nothing

/-! ## A turn as one node sees it -/

/-- The node that an entry says was entered, heard or decommissioned. -/
def Entry.subject? : Entry → Option String
  | accepted receipt => some receipt.id
  | registered id created => if created then some id else none
  | retired transition => some transition.id
  | _ => none

/-- A summary of a ledger for one node passes over entries about other nodes. -/
theorem foldl_of_unmentioned {σ α : Type} {about : α → Option String} {add : σ → α → σ}
    {id : String} (ignores : ∀ state entry, about entry ≠ some id → add state entry = state)
    (added : List α) :
    (∀ entry ∈ added, about entry ≠ some id) → ∀ state, added.foldl add state = state := by
  induction added with
  | nil => exact fun _ _ => rfl
  | cons entry rest ih =>
    intro unmentioned state
    rw [List.forall_mem_cons] at unmentioned
    rw [List.foldl_cons, ignores state entry unmentioned.1, ih unmentioned.2]

/-- How the slot of one node came out of a turn, and what the turn added to the ledger. -/
inductive Treatment (engine : Engine) (now : Int64) (id : String) : List Entry → Slot → Prop where
  | spared {added : List Entry} {before slot : Slot}
      (found : engine.registry.slots.get? id = some before)
      (unmentioned : ∀ entry ∈ added, entry.subject? ≠ some id)
      (category : slot.node.category = before.node.category)
      (updated : slot.node.lastUpdated = before.node.lastUpdated)
      (counted : slot.node.sampleCount = before.node.sampleCount)
      (last : slot.node.lastSampleAt = before.node.lastSampleAt) : Treatment engine now id added slot
  | entered {request : Registration} (own : request.id = id)
      (absent : engine.registry.slots.get? id = none) :
      Treatment engine now id [.registered id true] (engine.described now request)
  | reported {reading : Reading Float} (own : reading.id = id)
      (accepted : engine.refusal? now reading = none) :
      Treatment engine now id [.accepted (engine.receiptFor now reading)]
        (engine.observed now reading)
  | retired {before : Slot} (found : engine.registry.slots.get? id = some before)
      (active : before.node.category ≠ .sundown) :
      Treatment engine now id [.retired (farewell before id now)]
        { before with node := before.node.retired now }

theorem Treatment.untouched {engine : Engine} {now : Int64} {id : String} {added : List Entry}
    {slot : Slot} (found : engine.registry.slots.get? id = some slot)
    (unmentioned : ∀ entry ∈ added, entry.subject? ≠ some id) : Treatment engine now id added slot :=
  .spared found unmentioned rfl rfl rfl rfl

/-- A turn that stores one slot leaves the slots of the other nodes as they were. -/
theorem Treatment.store {engine : Engine} {now : Int64} {id name : String} {added : List Entry}
    {changed slot : Slot} (own : Treatment engine now name added changed)
    (others : ∀ entry ∈ added, entry.subject? = some name ∨ entry.subject? = none)
    (found : (engine.registry.store name changed).slots.get? id = some slot) :
    Treatment engine now id added slot := by
  rw [Registry.lookup_store] at found
  split at found
  · rename_i same
    cases found
    exact same ▸ own
  · rename_i other
    refine .untouched found fun entry member about => ?_
    rcases others entry member with named | unnamed
    · exact other (Option.some.inj (about.symm.trans named))
    · exact Option.some_ne_none id (about.symm.trans unnamed)

/-- A turn treats the slot of a node in one of four ways, and the ledger tells which. -/
theorem Turn.treatment {engine : Engine} (sound : engine.registry.Sound) {now : Int64}
    {added : List Entry} {registry : Registry} {tally : Tally}
    {table : PerCategory (PerCategory UInt64)} (turn : Turn engine now added registry tally table)
    {id : String} {slot : Slot} (found : registry.slots.get? id = some slot) :
    Treatment engine now id added slot := by
  cases turn with
  | nothing => exact .untouched found (List.forall_mem_nil _)
  | refused => exact .untouched found (List.forall_mem_singleton.mpr nofun)
  | @accepted reading isAccepted =>
    have own : Treatment engine now reading.id _ _ := .reported rfl isAccepted
    exact own.store (List.forall_mem_singleton.mpr (.inl rfl)) found
  | @registered request room =>
    cases tracked : engine.registry.slots.get? request.id with
    | some before =>
      rw [described, Registry.seat_tracked tracked] at found
      rw [Registry.contains_eq_true tracked]
      have own : Treatment engine now request.id [.registered request.id false]
          { before with node := before.node.described request.name request.container } :=
        .spared tracked (List.forall_mem_singleton.mpr nofun) rfl rfl rfl rfl
      exact own.store (List.forall_mem_singleton.mpr (.inr rfl)) found
    | none =>
      rw [Registry.contains_eq_false tracked]
      have own : Treatment engine now request.id _ _ := .entered rfl tracked
      exact own.store (List.forall_mem_singleton.mpr (.inl rfl)) found
  | @retired name before tracked active =>
    have own : Treatment engine now name _ _ := .retired tracked active
    exact own.store (List.forall_mem_singleton.mpr (.inl rfl)) found
  | @rescored name before tracked =>
    have own : Treatment engine now name [] (Engine.rescored engine.settings before) :=
      .spared tracked (List.forall_mem_nil _) rfl rfl rfl rfl
    exact own.store (List.forall_mem_nil _) found
  | swept expired =>
    obtain ⟨kept, tracked, rfl⟩ := lookup_swept sound found
    exact .spared tracked (List.forall_mem_singleton.mpr nofun) rfl rfl rfl rfl

/-! ## What a whole run keeps -/

/-- What ties an engine to the dated ledger so far holds after every run, if it holds at the
start and every turn keeps it. -/
theorem dated_induction {p : Engine → List (Int64 × Entry) → Prop}
    (turn : ∀ (engine : Engine) (log : List (Int64 × Entry)) (action : Action), engine.Sound →
      Turn engine action.now (engine.perform action.now action.operation).2.entries
        (engine.act action).registry (engine.act action).tally
        (engine.act action).metrics.transitions →
      p engine log → p (engine.act action)
        (log ++ (engine.perform action.now action.operation).2.entries.map (Prod.mk action.now)))
    (actions : List Action) :
    ∀ {engine : Engine} {log : List (Int64 × Entry)}, engine.Sound →
      (∀ action ∈ actions, ∀ snapshot, action.operation ≠ .restore snapshot) → p engine log →
        p (engine.follow actions) (log ++ engine.datedLedger actions) := by
  induction actions with
  | nil =>
    intro engine log _ _ before
    rwa [datedLedger, List.append_nil]
  | cons action rest ih =>
    intro engine log sound noRestore before
    rw [datedLedger, ← List.append_assoc]
    have taken := turn_act sound.registry (noRestore action List.mem_cons_self)
    exact ih (sound.act action)
      (fun later member => noRestore later (List.mem_cons_of_mem _ member))
      (turn engine log action sound taken before)

/-- The same for what does not depend on the dates. -/
theorem ledger_induction {p : Engine → List Entry → Prop}
    (turn : ∀ (engine : Engine) (log : List Entry) (action : Action), engine.Sound →
      Turn engine action.now (engine.perform action.now action.operation).2.entries
        (engine.act action).registry (engine.act action).tally
        (engine.act action).metrics.transitions →
      p engine log →
        p (engine.act action) (log ++ (engine.perform action.now action.operation).2.entries))
    (actions : List Action) {engine : Engine} (sound : engine.Sound)
    (noRestore : ∀ action ∈ actions, ∀ snapshot, action.operation ≠ .restore snapshot)
    (start : p engine []) : p (engine.follow actions) (engine.ledger actions) := by
  rw [← map_snd_datedLedger, ← List.nil_append (engine.datedLedger actions)]
  refine dated_induction (p := fun engine log => p engine (log.map Prod.snd)) ?_ actions sound
    noRestore start
  intro engine log action sound taken before
  have undated : ((engine.perform action.now action.operation).2.entries.map
      (Prod.mk action.now)).map Prod.snd =
        (engine.perform action.now action.operation).2.entries := by
    rw [List.map_map]
    exact List.map_id _
  rw [List.map_append, undated]
  exact turn engine _ action sound taken before

/-- A property of engine and ledger that every turn keeps holds after every run without a restore.
-/
theorem run_induction {p : Engine → List Entry → Prop} {first : Engine} (sound : first.Sound)
    {steps : List Step}
    (noRestore : ∀ step ∈ steps, ∀ snapshot, step.operation? ≠ some (.restore snapshot))
    (start : p first [])
    (turn : ∀ (engine : Engine) (log : List Entry) (action : Action), engine.Sound →
      Turn engine action.now (engine.perform action.now action.operation).2.entries
        (engine.act action).registry (engine.act action).tally
        (engine.act action).metrics.transitions →
      p engine log →
        p (engine.act action) (log ++ (engine.perform action.now action.operation).2.entries)) :
    p (first.run steps) (first.entries steps) := by
  have whole := ledger_induction turn (steps.flatMap Step.actions) sound
    (noRestore_actions noRestore) start
  rwa [← run_eq_follow, ← entries_eq_ledger] at whole

end Engine

end Headroom
