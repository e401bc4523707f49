import Headroom.Proofs.Engine.Effects
import Headroom.Proofs.History

/-!
# Runs of an engine

An engine is driven by steps.  A step is a single operation or a batch of
readings, and a batch acts like its readings taken one by one, so a run comes
down to a sequence of operations, each at its own time: nothing is assumed
about how the clock moves from one to the next.  What an operation may do to registry and
history is listed once, as its effect; what holds in every state that a run
reaches is proved by cases on the effect.
-/

namespace Headroom.Engine

inductive Operation where
  | submit (reading : Reading Float)
  | register (request : Registration)
  | decommission (id : String)
  | recompute (id : String)
  | sweep
  | restore (snapshot : Snapshot)
  | snapshot
  | statistics
  | get (id : String)
  | list (category : Option Category)
  | transitions (id : Option String) (limit : Nat)

inductive Answer where
  | submitted (result : Except Refusal Receipt)
  | registered (result : Except Refusal (Node × Bool))
  | decommissioned (result : Except UnknownNode (Option Transition))
  | recomputed (result : Except UnknownNode (Scores Float))
  | swept (sweep : Sweep)
  | restored (count : Nat)
  | snapshot (snapshot : Snapshot)
  | statistics (statistics : Statistics)
  | record (node : Option Node)
  | records (nodes : List Node)
  | changes (transitions : List Transition)

def perform (engine : Engine) (now : Int64) : Operation → Engine × Answer
  | .submit reading =>
    let (after, result) := engine.submit now reading
    (after, .submitted result)
  | .register request =>
    let (after, result) := engine.register now request
    (after, .registered result)
  | .decommission id =>
    let (after, result) := engine.decommission now id
    (after, .decommissioned result)
  | .recompute id =>
    let (after, result) := engine.recompute id
    (after, .recomputed result)
  | .sweep =>
    let (after, report) := engine.sweep now
    (after, .swept report)
  | .restore snapshot =>
    let (after, count) := engine.restore snapshot
    (after, .restored count)
  | .snapshot =>
    let (after, snapshot) := engine.snapshot now
    (after, .snapshot snapshot)
  | .statistics =>
    let (after, statistics) := engine.statistics now
    (after, .statistics statistics)
  | .get id => (engine, .record (engine.get? id))
  | .list category => (engine, .records (engine.list category))
  | .transitions id limit => (engine, .changes (engine.transitions id limit))

structure Action where
  now : Int64
  operation : Operation

def act (engine : Engine) (action : Action) : Engine :=
  (engine.perform action.now action.operation).1

def follow (engine : Engine) (actions : List Action) : Engine := actions.foldl act engine

/-- What an engine is asked for at once: an operation, or readings that are handed in together,
each of which is taken at its own time. -/
inductive Step where
  | single (now : Int64) (operation : Operation)
  | batch (readings : List (Int64 × Reading Float))

@[simp]
def Step.operation? : Step → Option Operation
  | single _ operation => some operation
  | batch _ => none

inductive Response where
  | single (answer : Answer)
  | batch (outcomes : List Outcome)

def execute (engine : Engine) : Step → Engine × Response
  | .single now operation =>
    let (after, answer) := engine.perform now operation
    (after, .single answer)
  | .batch readings =>
    let (after, outcomes) := engine.submitEach readings
    (after, .batch outcomes)

def run (engine : Engine) (steps : List Step) : Engine :=
  steps.foldl (fun engine step => (engine.execute step).1) engine

/-- A reading of a batch is taken as if it were handed in alone. -/
def Action.ofReading (timed : Int64 × Reading Float) : Action := ⟨timed.1, .submit timed.2⟩

def Step.actions : Step → List Action
  | single now operation => [⟨now, operation⟩]
  | batch readings => readings.map .ofReading

theorem follow_append (engine : Engine) (first second : List Action) :
    engine.follow (first ++ second) = (engine.follow first).follow second :=
  List.foldl_append

theorem submitEach_cons (engine : Engine) (now : Int64) (reading : Reading Float)
    (rest : List (Int64 × Reading Float)) :
    engine.submitEach ((now, reading) :: rest) =
      (((engine.submit now reading).1.submitEach rest).1,
        outcome reading.id (engine.submit now reading).2 ::
          ((engine.submit now reading).1.submitEach rest).2) := rfl

theorem submitEach_eq_follow (readings : List (Int64 × Reading Float)) :
    ∀ engine : Engine,
      (engine.submitEach readings).1 = engine.follow (readings.map Action.ofReading) := by
  induction readings with
  | nil => exact fun _ => rfl
  | cons timed rest ih => exact fun engine => ih (engine.submit timed.1 timed.2).1

theorem execute_eq_follow (engine : Engine) (step : Step) :
    (engine.execute step).1 = engine.follow step.actions := by
  cases step with
  | single now operation => rfl
  | batch readings => exact submitEach_eq_follow readings engine

/-- A run comes down to its actions. -/
theorem run_eq_follow (steps : List Step) :
    ∀ engine : Engine, engine.run steps = engine.follow (steps.flatMap Step.actions) := by
  induction steps with
  | nil => exact fun _ => rfl
  | cons step rest ih =>
    intro engine
    rw [List.flatMap_cons, follow_append, ← execute_eq_follow]
    exact ih _

/-- What holds of the single operations of a run and of all readings holds of its actions. -/
theorem forall_operations {p : Operation → Prop} {steps : List Step}
    (submit : ∀ reading, p (.submit reading))
    (single : ∀ step ∈ steps, ∀ operation, step.operation? = some operation → p operation) :
    ∀ action ∈ steps.flatMap Step.actions, p action.operation := by
  intro action member
  obtain ⟨step, inside, member⟩ := List.mem_flatMap.mp member
  cases step with
  | single now operation =>
    cases List.mem_singleton.mp member
    exact single _ inside operation rfl
  | batch readings =>
    obtain ⟨timed, _, rfl⟩ := List.mem_map.mp member
    exact submit timed.2

theorem noRestore_actions {steps : List Step}
    (noRestore : ∀ step ∈ steps, ∀ snapshot, step.operation? ≠ some (.restore snapshot)) :
    ∀ action ∈ steps.flatMap Step.actions, ∀ snapshot, action.operation ≠ .restore snapshot := by
  refine forall_operations (p := fun operation => ∀ snapshot, operation ≠ .restore snapshot)
    (fun _ _ => nofun) fun step member operation asked snapshot same => ?_
  exact noRestore step member snapshot (asked.trans (congrArg _ same))

/-! ## Effects -/

/-- What an operation may do to registry and history. -/
inductive Effect (engine : Engine) (now : Int64) : Operation → Registry → History → Prop where
  | nothing {operation : Operation} :
      Effect engine now operation engine.registry engine.history
  | observed {reading : Reading Float} (accepted : engine.refusal? now reading = none) :
      Effect engine now (.submit reading)
        (engine.registry.store reading.id (engine.observed now reading))
        ((engine.receiptFor now reading).transition.elim engine.history engine.history.record)
  | described {request : Registration} (named : request.id.isEmpty = false)
      (room : engine.registry.admits request.id = true) :
      Effect engine now (.register request)
        (engine.registry.store request.id (engine.described now request)) engine.history
  | retired {id : String} {slot : Slot} (found : engine.registry.slots.get? id = some slot)
      (active : slot.node.category ≠ .sundown) :
      Effect engine now (.decommission id)
        (engine.registry.store id { slot with node := slot.node.retired now })
        (engine.history.record (farewell slot id now))
  | rescored {id : String} {slot : Slot} (found : engine.registry.slots.get? id = some slot) :
      Effect engine now (.recompute id)
        (engine.registry.store id (rescored engine.settings slot)) engine.history
  | swept : Effect engine now .sweep (engine.swept now) engine.history
  | restored {snapshot : Snapshot} :
      Effect engine now (.restore snapshot) (engine.registry.restore snapshot.nodes).1
        engine.history

/-- Every operation has one of the effects, and none touches the settings. -/
theorem effect_act {engine : Engine} (sound : engine.registry.Sound) (action : Action) :
    (engine.act action).settings = engine.settings ∧
      Effect engine action.now action.operation (engine.act action).registry
        (engine.act action).history := by
  obtain ⟨now, operation⟩ := action
  cases operation with
  | submit reading =>
    rw [act, perform]
    cases verdict : engine.refusal? now reading with
    | some refusal =>
      rw [submit_refused sound verdict]
      exact ⟨rfl, .nothing⟩
    | none =>
      rw [submit_accepted sound verdict]
      simpa [accepted] using Effect.observed verdict
  | register request =>
    rw [act, perform]
    cases unnamed : request.id.isEmpty with
    | true =>
      rw [register_unnamed unnamed]
      exact ⟨rfl, .nothing⟩
    | false =>
      cases room : engine.registry.admits request.id with
      | false =>
        rw [register_full sound unnamed room]
        exact ⟨rfl, .nothing⟩
      | true =>
        rw [register_admitted sound unnamed room]
        exact ⟨rfl, .described unnamed room⟩
  | decommission id =>
    rw [act, perform]
    cases found : engine.registry.slots.get? id with
    | none =>
      rw [decommission_absent sound found]
      exact ⟨rfl, .nothing⟩
    | some slot =>
      by_cases gone : slot.node.category = .sundown
      · rw [decommission_again sound found gone]
        exact ⟨rfl, .nothing⟩
      · rw [decommission_active sound found gone]
        exact ⟨rfl, .retired found gone⟩
  | recompute id =>
    rw [act, perform]
    cases found : engine.registry.slots.get? id with
    | none =>
      rw [recompute_absent sound found]
      exact ⟨rfl, .nothing⟩
    | some slot =>
      rw [recompute_tracked sound found]
      exact ⟨rfl, .rescored found⟩
  | sweep => simpa [act, perform] using (.swept : Effect engine now .sweep _ _)
  | restore snapshot => exact ⟨rfl, .restored⟩
  | snapshot => exact ⟨rfl, .nothing⟩
  | statistics => exact ⟨rfl, .nothing⟩
  | get id => exact ⟨rfl, .nothing⟩
  | list category => exact ⟨rfl, .nothing⟩
  | transitions id limit => exact ⟨rfl, .nothing⟩

/-! ## What every run preserves -/

structure Sound (engine : Engine) : Prop where
  registry : engine.registry.Sound
  bounds : engine.registry.bounds =
    (engine.settings.window.limits, engine.settings.registry.capacity.map UInt64.toNat)
  capacity : engine.history.capacity = engine.settings.registry.auditLogSize.toNat
  named : ∀ id slot, engine.registry.slots.get? id = some slot → id.isEmpty = false

theorem sound_fresh (settings : Settings Float) (name : String) : (fresh settings name).Sound where
  registry := Registry.sound_empty _ _
  bounds := rfl
  capacity := rfl
  named := fun _ _ found => by cases found

theorem Sound.limits {engine : Engine} (sound : engine.Sound) :
    engine.registry.limits = engine.settings.window.limits :=
  congrArg Prod.fst sound.bounds

namespace Effect

variable {engine : Engine} {now : Int64} {operation : Operation}
variable {registry : Registry} {history : History}

/-- Whatever an operation does to a registry leaves it sound. -/
theorem sound (effect : Effect engine now operation registry history)
    (before : engine.registry.Sound) : registry.Sound := by
  cases effect with
  | nothing => exact before
  | observed accepted =>
    exact before.store (before.seat_live _ _ _) (before.seat_id _ _ _)
      (Registry.admits_iff.mp (admits_of_accepted accepted))
  | described named room =>
    exact before.store (before.seat_live _ _ _) (before.seat_id _ _ _) (Registry.admits_iff.mp room)
  | retired found active => exact before.replace found rfl rfl
  | rescored found => exact before.replace found rfl rfl
  | swept => exact sound_swept before now
  | restored => exact before.restore _

theorem bounds (effect : Effect engine now operation registry history)
    (before : engine.registry.Sound) : registry.bounds = engine.registry.bounds := by
  cases effect with
  | restored => exact before.bounds_restore _
  | _ => rfl

theorem capacity (effect : Effect engine now operation registry history) :
    history.capacity = engine.history.capacity := by
  cases effect with
  | observed accepted =>
    cases (engine.receiptFor now _).transition <;> simp
  | retired found active => exact History.capacity_record _ _
  | _ => rfl

/-- What holds of every slot holds of every slot after an operation, if it holds of the slots
that the operation may store. -/
theorem forall_slots {p : String → Slot → Prop}
    (effect : Effect engine now operation registry history) (sound : engine.registry.Sound)
    (before : ∀ id slot, engine.registry.slots.get? id = some slot → p id slot)
    (observed : ∀ reading, engine.refusal? now reading = none →
      p reading.id (engine.observed now reading))
    (described : ∀ request : Registration, request.id.isEmpty = false →
      p request.id (engine.described now request))
    (retired : ∀ id slot, p id slot → p id { slot with node := slot.node.retired now })
    (rescored : ∀ id slot, p id slot →
      p id (Engine.rescored engine.settings slot))
    (flagged : ∀ id slot time, p id slot → p id { slot with node := { slot.node with
      stale := slot.node.isSilent time engine.settings.registry.silenceTimeout } })
    (restored : ∀ snapshot, operation = .restore snapshot → ∀ node ∈ snapshot.nodes,
      node.id.isEmpty = false → p node.id (.fresh node)) :
    ∀ id slot, registry.slots.get? id = some slot → p id slot := by
  have stored {name : String} {changed : Slot} (holds : p name changed) (id : String) (slot : Slot)
      (found : (engine.registry.store name changed).slots.get? id = some slot) : p id slot := by
    rw [Registry.lookup_store] at found
    split at found
    · rename_i same
      cases found
      exact same ▸ holds
    · exact before id slot found
  intro id slot found
  cases effect with
  | nothing => exact before id slot found
  | observed accepted => exact stored (observed _ accepted) id slot found
  | described named room => exact stored (described _ named) id slot found
  | retired tracked active => exact stored (retired _ _ (before _ _ tracked)) id slot found
  | rescored tracked => exact stored (rescored _ _ (before _ _ tracked)) id slot found
  | swept =>
    obtain ⟨kept, tracked, rfl⟩ := lookup_swept sound found
    exact flagged id kept now (before id kept tracked)
  | restored =>
    rcases sound.lookup_restore _ found with tracked | ⟨node, member, rfl, named, rfl⟩
    · exact before id slot tracked
    · exact restored _ rfl node member named

end Effect

namespace Sound

/-- Every action keeps an engine sound. -/
theorem act {engine : Engine} (sound : engine.Sound) (action : Action) :
    (engine.act action).Sound := by
  obtain ⟨sameSettings, effect⟩ := effect_act sound.registry action
  exact {
    registry := effect.sound sound.registry
    bounds := by rw [sameSettings, effect.bounds sound.registry, sound.bounds]
    capacity := by rw [sameSettings, effect.capacity, sound.capacity]
    named := effect.forall_slots sound.registry sound.named
      (fun _ accepted => Reading.named_of_validate (valid_of_accepted accepted))
      (fun _ named => named) (fun _ _ named => named) (fun _ _ named => named)
      (fun _ _ _ named => named) (fun _ _ _ _ named => named) }

theorem submit {engine : Engine} (sound : engine.Sound) (now : Int64)
    (reading : Reading Float) : (engine.submit now reading).1.Sound :=
  sound.act ⟨now, .submit reading⟩

theorem follow (actions : List Action) :
    ∀ {engine : Engine}, engine.Sound → (engine.follow actions).Sound := by
  induction actions with
  | nil => exact id
  | cons action rest ih => exact fun sound => ih (sound.act action)

/-- Whatever an engine is asked for, in whatever order and at whatever times. -/
theorem run (steps : List Step) {engine : Engine} (sound : engine.Sound) :
    (engine.run steps).Sound := by
  rw [run_eq_follow]
  exact follow _ sound

theorem settings_follow (actions : List Action) :
    ∀ {engine : Engine}, engine.Sound → (engine.follow actions).settings = engine.settings := by
  induction actions with
  | nil => exact fun _ => rfl
  | cons action rest ih =>
    exact fun sound => (ih (sound.act action)).trans (effect_act sound.registry action).1

theorem settings_run (steps : List Step) {engine : Engine} (sound : engine.Sound) :
    (engine.run steps).settings = engine.settings := by
  rw [run_eq_follow]
  exact settings_follow _ sound

end Sound

end Headroom.Engine
