import Headroom.Proofs.Engine.Occasions
import Headroom.Proofs.Engine.Trail

/-!
# Silent nodes

A sweep flags the nodes that are silent for too long, and reports which of them were not
flagged before and which no longer are.  The flag is also taken down by a reading and by a
decommission.  So while the clock does not go back, a flag that is up is always justified:
whatever could end the silence of a node has taken its flag down already, and a sweep finds
nobody to report as recovered.

Silence is counted from the time that the last reading was given, which need not be the time
at which it arrived.
-/

namespace Headroom

theorem Node.isSilent_iff {node : Node} {now timeout : Int64} :
    node.isSilent now timeout = true ↔
      node.category ≠ .sundown ∧ timeout ≤ Time.elapsed now node.silentSince := by
  simp [isSilent]

theorem Node.isSilent_mono {node : Node} {now later timeout : Int64} (forward : now ≤ later)
    (silent : node.isSilent now timeout = true) : node.isSilent later timeout = true := by
  rw [isSilent_iff] at silent ⊢
  exact ⟨silent.1, Int64.le_trans silent.2 (Time.elapsed_mono forward _)⟩

/-- A silent node is not about to be collected. -/
theorem Node.not_isExpired_of_isSilent {node : Node} {now timeout other retention : Int64}
    (silent : node.isSilent now timeout = true) : node.isExpired other retention = false := by
  simp [isExpired, (isSilent_iff.mp silent).1]

namespace Engine

/-! ## What a sweep reports -/

section Sweep

variable {engine : Engine} (sound : engine.registry.Sound)

include sound

theorem mem_nodes_cleared {now : Int64} {node : Node} :
    node ∈ (engine.cleared now).nodes ↔ engine.get? node.id = some node ∧
      node.isExpired now engine.settings.registry.sundownRetention = false := by
  rw [(sound_cleared sound now).mem_nodes, cleared, sound.get?_collect,
    Option.filter_eq_some_iff, Bool.not_eq_true']
  rfl

/-- A sweep reports the silent nodes that were not flagged. -/
theorem mem_newlyStale {now : Int64} {id : String} :
    id ∈ (engine.sweep now).2.newlyStale ↔ ∃ node, engine.get? id = some node ∧
      node.isSilent now engine.settings.registry.silenceTimeout = true ∧ node.stale = false := by
  rw [sweep_report]
  simp only [Registry.flagSilent, List.mem_map, List.mem_filter, mem_nodes_cleared sound,
    Bool.and_eq_true, Bool.not_eq_true']
  constructor
  · rintro ⟨node, ⟨⟨found, _⟩, silent, unflagged⟩, rfl⟩
    exact ⟨node, found, silent, unflagged⟩
  · rintro ⟨node, found, silent, unflagged⟩
    have own : node.id = id := sound.get?_id found
    subst own
    exact ⟨node, ⟨⟨found, Node.not_isExpired_of_isSilent silent⟩, silent, unflagged⟩, rfl⟩

def recoveredAt (engine : Engine) (now : Int64) : List String :=
  ((engine.cleared now).flagSilent now engine.settings.registry.silenceTimeout).2.recovered

theorem mem_recoveredAt {now : Int64} {id : String} :
    id ∈ engine.recoveredAt now → ∃ node, engine.get? id = some node ∧
      node.isSilent now engine.settings.registry.silenceTimeout = false ∧ node.stale = true := by
  simp only [recoveredAt, Registry.flagSilent, List.mem_map, List.mem_filter,
    mem_nodes_cleared sound, Bool.and_eq_true, Bool.not_eq_true']
  rintro ⟨node, ⟨⟨found, _⟩, heard, flagged⟩, rfl⟩
  exact ⟨node, found, heard, flagged⟩

end Sweep

/-! ## Recoveries in the journal -/

section Journal

variable (engine : Engine)

@[simp]
theorem journal_log (event : Event) : (engine.log event).journal = engine.journal ++ [event] := rfl

@[simp]
theorem journal_noteTransition (transition : Transition) :
    (engine.noteTransition transition).journal = engine.journal ++ [.transition transition] := rfl

@[simp]
theorem journal_noteAccepted (receipt : Receipt) :
    (engine.noteAccepted receipt).journal =
      engine.journal ++ (receipt.transition.map .transition).toList := by
  cases change : receipt.transition <;> simp [noteAccepted, change]

theorem recovery_collect {now : Int64} {ids : List String}
    (reported : .recovery ids ∈ (engine.collect now).1.journal) :
    .recovery ids ∈ engine.journal := by
  simp only [collect] at reported
  split at reported
  · exact reported
  · simpa using reported

/-- Setting the flags reports a recovery only of nodes whose flag was up. -/
theorem recovery_flagSilent {now : Int64} {ids : List String}
    (reported : .recovery ids ∈ (engine.flagSilent now).1.journal) :
    .recovery ids ∈ engine.journal ∨
      ids = (engine.flagSilent now).2.recovered ∧ ids ≠ [] := by
  generalize silence : (engine.flagSilent now).2 = found
  simp only [flagSilent] at reported silence
  rw [silence] at reported
  by_cases none : found.recovered.isEmpty = true
  · rw [if_pos none] at reported
    split at reported
    · exact .inl reported
    · simp only [journal_log, List.mem_append, List.mem_singleton, reduceCtorEq, or_false]
        at reported
      exact .inl reported
  · rw [if_neg none] at reported
    have recovered : found.recovered ≠ [] := fun empty => none (List.isEmpty_iff.mpr empty)
    split at reported
    · rw [journal_log, List.mem_append, List.mem_singleton, Event.recovery.injEq] at reported
      exact reported.imp_right fun same => ⟨same, same ▸ recovered⟩
    · simp only [journal_log, List.mem_append, List.mem_singleton, reduceCtorEq, or_false,
        Event.recovery.injEq] at reported
      exact reported.imp_right fun same => ⟨same, same ▸ recovered⟩

/-- A sweep reports a recovery only if it found one. -/
theorem recovery_sweep {now : Int64} {ids : List String}
    (reported : .recovery ids ∈ (engine.sweep now).1.journal) :
    .recovery ids ∈ engine.journal ∨ ids = engine.recoveredAt now ∧ ids ≠ [] := by
  have recovered : ((engine.collect now).1.flagSilent now).2.recovered =
      engine.recoveredAt now := by
    simp only [flagSilent, registry_collect, settings_collect, recoveredAt]
  have journal : (engine.sweep now).1.journal =
      ((engine.collect now).1.flagSilent now).1.journal := by
    simp only [sweep, snapshot]
  rw [journal] at reported
  rw [← recovered]
  exact (recovery_flagSilent _ reported).imp_left (recovery_collect engine)

variable {engine}

/-- Only sweeps report recoveries. -/
theorem recovery_act (sound : engine.registry.Sound) {action : Action} {ids : List String}
    (reported : .recovery ids ∈ (engine.act action).journal) :
    .recovery ids ∈ engine.journal ∨
      action.operation = .sweep ∧ ids = engine.recoveredAt action.now ∧ ids ≠ [] := by
  obtain ⟨now, operation⟩ := action
  cases operation with
  | submit reading =>
    cases verdict : engine.refusal? now reading with
    | some refusal =>
      rw [act, perform, submit_refused sound verdict] at reported
      simpa [noteRejected] using reported
    | none =>
      rw [act, perform, submit_accepted sound verdict] at reported
      simpa [accepted] using reported
  | register request =>
    cases unnamed : request.id.isEmpty with
    | true =>
      rw [act, perform, register_unnamed unnamed] at reported
      exact .inl reported
    | false =>
      cases room : engine.registry.admits request.id with
      | false =>
        rw [act, perform, register_full sound unnamed room] at reported
        exact .inl reported
      | true =>
        rw [act, perform, register_admitted sound unnamed room] at reported
        simpa using reported
  | decommission id =>
    cases found : engine.registry.slots.get? id with
    | none =>
      rw [act, perform, decommission_absent sound found] at reported
      exact .inl reported
    | some slot =>
      by_cases gone : slot.node.category = .sundown
      · rw [act, perform, decommission_again sound found gone] at reported
        exact .inl reported
      · rw [act, perform, decommission_active sound found gone] at reported
        simpa using reported
  | recompute id =>
    cases found : engine.registry.slots.get? id with
    | none =>
      rw [act, perform, recompute_absent sound found] at reported
      exact .inl reported
    | some slot =>
      rw [act, perform, recompute_tracked sound found] at reported
      exact .inl reported
  | sweep => exact (recovery_sweep engine reported).imp_right fun found => ⟨rfl, found⟩
  | _ => exact .inl reported

end Journal

/-! ## Flags while the clock goes forward -/

/-- The clock of an engine went forward up to `now`: its flags are justified, and no node was
ever found to have recovered. -/
structure Steady (engine : Engine) (now : Int64) : Prop where
  sound : engine.Sound
  justified : ∀ id node, engine.get? id = some node → node.stale = true →
    node.isSilent now engine.settings.registry.silenceTimeout = true
  unrecovered : ∀ ids, .recovery ids ∉ engine.journal

theorem steady_fresh (settings : Settings Float) (name : String) (now : Int64) :
    (fresh settings name).Steady now where
  sound := sound_fresh settings name
  justified := fun _ _ found => by cases found
  unrecovered := fun _ => List.not_mem_nil

section Effect

variable {engine : Engine} {now : Int64} {operation : Operation}
variable {registry : Registry} {history : History}

/-- While time stands still, every operation leaves only flags up that are justified. -/
theorem Effect.justified (effect : Effect engine now operation registry history)
    (sound : engine.registry.Sound) (noRestore : ∀ snapshot, operation ≠ .restore snapshot)
    (before : ∀ id node, engine.get? id = some node → node.stale = true →
      node.isSilent now engine.settings.registry.silenceTimeout = true) :
    ∀ id node, registry.get? id = some node → node.stale = true →
      node.isSilent now engine.settings.registry.silenceTimeout = true := by
  have after := effect.sound sound
  have stored {name : String} {changed : Slot}
      (soundAfter : (engine.registry.store name changed).Sound)
      (own : changed.node.stale = true →
        changed.node.isSilent now engine.settings.registry.silenceTimeout = true)
      (id : String) (node : Node)
      (found : (engine.registry.store name changed).get? id = some node)
      (flagged : node.stale = true) :
      node.isSilent now engine.settings.registry.silenceTimeout = true := by
    rw [sound.get?_store soundAfter] at found
    split at found
    · cases found
      exact own flagged
    · exact before id node found flagged
  cases effect with
  | nothing => exact before
  | observed accepted => exact stored after fun flagged => absurd flagged Bool.false_ne_true
  | @described request named room =>
    refine stored after fun flagged => ?_
    rw [Engine.described, Registry.seat] at flagged ⊢
    cases found : engine.registry.slots.get? request.id with
    | none =>
      rw [found] at flagged
      cases flagged
    | some slot =>
      rw [found] at flagged
      exact before request.id slot.node (sound.get?_tracked found) flagged
  | retired found active => exact stored after fun flagged => absurd flagged Bool.false_ne_true
  | @rescored id slot found => exact stored after (before id slot.node (sound.get?_tracked found))
  | swept =>
    intro id node found flagged
    rw [get?_swept sound, Option.map_eq_some_iff] at found
    obtain ⟨kept, found, rfl⟩ := found
    exact flagged
  | restored => exact absurd rfl (noRestore _)

/-- A justified flag stays up until the node reports or is decommissioned. -/
theorem Effect.flagged (effect : Effect engine now operation registry history)
    (sound : engine.registry.Sound) {id : String} {node : Node}
    (found : engine.get? id = some node) (flagged : node.stale = true)
    (silent : node.isSilent now engine.settings.registry.silenceTimeout = true)
    (unheard : ∀ reading, operation = .submit reading → engine.refusal? now reading = none →
      id ≠ reading.id)
    (inService : operation ≠ .decommission id)
    (noRestore : ∀ snapshot, operation ≠ .restore snapshot) :
    ∃ after, registry.get? id = some after ∧ after.stale = true := by
  have after := effect.sound sound
  cases effect with
  | nothing => exact ⟨node, found, flagged⟩
  | @observed reading accepted =>
    rw [sound.get?_store after, if_neg (unheard reading rfl accepted)]
    exact ⟨node, found, flagged⟩
  | @described request named room =>
    rw [sound.get?_store after]
    split
    · rename_i own
      subst own
      refine ⟨_, rfl, ?_⟩
      rw [get?_seat sound request.id request.name now] at found
      split at found
      · cases found
        exact flagged
      · cases found
    · exact ⟨node, found, flagged⟩
  | @retired other slot tracked active =>
    rw [sound.get?_store after, if_neg fun own => inService (congrArg _ own.symm)]
    exact ⟨node, found, flagged⟩
  | @rescored other slot tracked =>
    rw [sound.get?_store after]
    split
    · rename_i own
      subst own
      cases (sound.get?_tracked tracked).symm.trans found
      exact ⟨_, rfl, flagged⟩
    · exact ⟨node, found, flagged⟩
  | swept =>
    rw [get?_swept sound, found, Option.filter_some, Node.not_isExpired_of_isSilent silent]
    exact ⟨_, rfl, silent⟩
  | restored => exact absurd rfl (noRestore _)

end Effect

namespace Steady

variable {engine : Engine} {now : Int64}

theorem later (steady : engine.Steady now) {finish : Int64} (forward : now ≤ finish) :
    engine.Steady finish where
  sound := steady.sound
  justified := fun id node found flagged =>
    Node.isSilent_mono forward (steady.justified id node found flagged)
  unrecovered := steady.unrecovered

/-- A sweep finds no node to have recovered. -/
theorem recoveredAt_eq_nil (steady : engine.Steady now) : engine.recoveredAt now = [] := by
  refine List.eq_nil_iff_forall_not_mem.mpr fun id recovered => ?_
  obtain ⟨node, found, heard, flagged⟩ := mem_recoveredAt steady.sound.registry recovered
  rw [steady.justified id node found flagged] at heard
  cases heard

/-- An action at a later time keeps an engine steady. -/
theorem act (steady : engine.Steady now) {action : Action} (forward : now ≤ action.now)
    (noRestore : ∀ snapshot, action.operation ≠ .restore snapshot) :
    (engine.act action).Steady action.now := by
  have reached := steady.later forward
  have sound := steady.sound.registry
  obtain ⟨sameSettings, effect⟩ := effect_act sound action
  exact {
    sound := steady.sound.act action
    justified := by
      rw [sameSettings]
      exact effect.justified sound noRestore reached.justified
    unrecovered := fun ids reported => by
      rcases recovery_act sound reported with earlier | ⟨_, found, some⟩
      · exact steady.unrecovered ids earlier
      · exact some (found.trans reached.recoveredAt_eq_nil) }

/-- A sequence of actions in the order of time keeps an engine steady. -/
theorem follow (actions : List Action) :
    ∀ {engine : Engine} {now : Int64}, engine.Steady now →
      actions.Pairwise (fun earlier later => earlier.now ≤ later.now) →
      (∀ action ∈ actions, now ≤ action.now) →
      (∀ action ∈ actions, ∀ snapshot, action.operation ≠ .restore snapshot) →
      ∀ {finish : Int64}, now ≤ finish → (∀ action ∈ actions, action.now ≤ finish) →
        (engine.follow actions).Steady finish := by
  induction actions with
  | nil => exact fun steady _ _ _ _ forward _ => steady.later forward
  | cons action rest ih =>
    intro engine now steady ordered begun noRestore finish _ ended
    obtain ⟨next, ordered⟩ := List.pairwise_cons.mp ordered
    rw [List.forall_mem_cons] at begun noRestore ended
    exact ih (steady.act begun.1 noRestore.1) ordered next noRestore.2 ended.1 ended.2

/-- A flag that is up stays up over actions that bring no report and no decommission. -/
theorem follow_flagged (actions : List Action) :
    ∀ {engine : Engine} {now : Int64}, engine.Steady now →
      actions.Pairwise (fun earlier later => earlier.now ≤ later.now) →
      (∀ action ∈ actions, now ≤ action.now) →
      (∀ action ∈ actions, ∀ snapshot, action.operation ≠ .restore snapshot) →
      ∀ {id : String}, (∀ action ∈ actions, action.operation ≠ .decommission id) →
        (∀ arrived reading, .reported arrived reading ∉ engine.occasions id actions) →
        (∃ node, engine.get? id = some node ∧ node.stale = true) →
        ∃ node, (engine.follow actions).get? id = some node ∧ node.stale = true := by
  induction actions with
  | nil => exact fun _ _ _ _ _ _ _ flagged => flagged
  | cons action rest ih =>
    intro engine now steady ordered begun noRestore id inService unheard ⟨node, found, flagged⟩
    obtain ⟨next, ordered⟩ := List.pairwise_cons.mp ordered
    rw [List.forall_mem_cons] at begun noRestore inService
    simp only [occasions, List.mem_append, not_or, Option.mem_toList] at unheard
    have silent := (steady.later begun.1).justified id node found flagged
    have effect := (effect_act steady.sound.registry action).2
    refine ih (steady.act begun.1 noRestore.1) ordered next noRestore.2 inService.2
      (fun arrived reading => (unheard arrived reading).2) ?_
    refine effect.flagged steady.sound.registry found flagged silent ?_ inService.1 noRestore.1
    intro reading asked accepted own
    refine (unheard action.now reading).1 ?_
    obtain ⟨arrived, operation⟩ := action
    subst asked own
    exact occasion?_of_accepted steady.sound accepted

end Steady

/-! ## Whole runs -/

/-- The clock does not go back in a run, neither from one step to a later one nor within a
batch. -/
def Forward (steps : List Step) : Prop :=
  (steps.flatMap Step.actions).Pairwise fun earlier later => earlier.now ≤ later.now

theorem forward_append {first second : List Step} :
    Forward (first ++ second) ↔ Forward first ∧ Forward second ∧
      ∀ earlier ∈ first.flatMap Step.actions, ∀ later ∈ second.flatMap Step.actions,
        earlier.now ≤ later.now := by
  rw [Forward, List.flatMap_append]
  exact List.pairwise_append

theorem forward_single {now : Int64} {operation : Operation} {rest : List Step} :
    Forward (.single now operation :: rest) ↔
      (∀ action ∈ rest.flatMap Step.actions, now ≤ action.now) ∧ Forward rest :=
  List.pairwise_cons

/-- What a run without a restore makes of an engine whose clock is not yet past its steps. -/
theorem Steady.run {engine : Engine} {now finish : Int64} (steady : engine.Steady now)
    {steps : List Step} (forward : Forward steps)
    (begun : ∀ action ∈ steps.flatMap Step.actions, now ≤ action.now)
    (noRestore : ∀ step ∈ steps, ∀ snapshot, step.operation? ≠ some (.restore snapshot))
    (lasts : now ≤ finish) (ended : ∀ action ∈ steps.flatMap Step.actions, action.now ≤ finish) :
    (engine.run steps).Steady finish := by
  rw [run_eq_follow]
  exact steady.follow _ forward begun (noRestore_actions noRestore) lasts ended

theorem noDecommission_actions {id : String} {steps : List Step}
    (inService : ∀ step ∈ steps, step.operation? ≠ some (.decommission id)) :
    ∀ action ∈ steps.flatMap Step.actions, action.operation ≠ .decommission id := by
  refine forall_operations (p := fun operation => operation ≠ .decommission id)
    (fun _ other => by cases other) fun step member operation asked same => ?_
  exact inService step member (asked.trans (congrArg _ same))

theorem act_sweep (engine : Engine) (now : Int64) :
    engine.act ⟨now, .sweep⟩ = (engine.sweep now).1 := rfl

theorem Steady.sweep {engine : Engine} {now : Int64} (steady : engine.Steady now) :
    (engine.sweep now).1.Steady now := by
  rw [← act_sweep]
  exact steady.act (Int64.le_refl _) fun _ other => by cases other

/-- A node that a sweep reports as newly stale is flagged after it. -/
theorem flagged_of_newlyStale {engine : Engine} (sound : engine.registry.Sound) {now : Int64}
    {id : String} (stale : id ∈ (engine.sweep now).2.newlyStale) :
    ∃ node, (engine.sweep now).1.get? id = some node ∧ node.stale = true := by
  obtain ⟨node, found, silent, _⟩ := (mem_newlyStale sound).mp stale
  refine ⟨{ node with stale := true }, ?_, rfl⟩
  rw [get?] at found
  rw [get?, registry_sweep, get?_swept sound, get?, found, Option.filter_some,
    Node.not_isExpired_of_isSilent silent, Bool.not_false, if_pos rfl, Option.map_some, silent]

/-- Between two sweeps that report a node as newly stale, one of its readings was accepted. -/
theorem Steady.reported_between {engine : Engine} {start finish : Int64}
    (steady : engine.Steady start) {between : List Step} (forward : Forward between)
    (begun : ∀ action ∈ between.flatMap Step.actions, start ≤ action.now)
    (noRestore : ∀ step ∈ between, ∀ snapshot, step.operation? ≠ some (.restore snapshot))
    {id : String} (inService : ∀ step ∈ between, step.operation? ≠ some (.decommission id))
    (stale : id ∈ (engine.sweep start).2.newlyStale)
    (again : id ∈ (((engine.sweep start).1.run between).sweep finish).2.newlyStale) :
    ∃ arrived reading, .reported arrived reading ∈
      (engine.sweep start).1.occasions id (between.flatMap Step.actions) := by
  have swept := steady.sweep
  have flagged := flagged_of_newlyStale steady.sound.registry stale
  by_contra unheard
  have quiet (arrived : Int64) (reading : Reading Float) : .reported arrived reading ∉
      (engine.sweep start).1.occasions id (between.flatMap Step.actions) :=
    fun reported => unheard ⟨arrived, reading, reported⟩
  -- Without a reading the flag stays up, and a node that is flagged is not newly stale.
  have stillFlagged := swept.follow_flagged _ forward begun (noRestore_actions noRestore)
    (noDecommission_actions inService) quiet flagged
  rw [← run_eq_follow] at stillFlagged
  obtain ⟨node, found, up⟩ := stillFlagged
  obtain ⟨other, sameFound, _, down⟩ := (mem_newlyStale (swept.sound.run between).registry).mp again
  cases found.symm.trans sameFound
  exact absurd (down.symm.trans up) Bool.false_ne_true

/-- While the clock goes forward and nothing is restored, no sweep ever reports a recovery.  The
sweeps that report one node as newly stale alternate with its readings instead: between two of
them a reading of it was accepted, unless it was decommissioned. -/
theorem run_alternation (settings : Settings Float) (name : String) (steps : List Step)
    (noRestore : ∀ step ∈ steps, ∀ snapshot, step.operation? ≠ some (.restore snapshot))
    (forward : Forward steps) :
    (∀ ids, .recovery ids ∉ ((fresh settings name).run steps).journal) ∧
    ∀ earlier between later start finish,
      steps = earlier ++ .single start .sweep :: between ++ .single finish .sweep :: later →
      let first := ((fresh settings name).run earlier).sweep start
      let second := (first.1.run between).sweep finish
      ∀ id, id ∈ first.2.newlyStale → id ∈ second.2.newlyStale →
        (∀ step ∈ between, step.operation? ≠ some (.decommission id)) →
        ∃ arrived reading,
          .reported arrived reading ∈ first.1.occasions id (between.flatMap Step.actions) := by
  have steady := steady_fresh settings name Int64.minValue
  constructor
  · have whole : ((fresh settings name).run steps).Steady Int64.maxValue :=
      steady.run forward (fun _ _ => Int64.minValue_le _) noRestore (Int64.minValue_le _)
        fun _ _ => Int64.le_maxValue _
    exact whole.unrecovered
  · intro earlier between later start finish split first second id stale again inService
    rw [split] at noRestore forward
    obtain ⟨front, _, _⟩ := forward_append.mp forward
    obtain ⟨early, middle, beforeStart⟩ := forward_append.mp front
    obtain ⟨afterStart, middle⟩ := forward_single.mp middle
    simp only [List.forall_mem_append, List.forall_mem_cons] at noRestore
    obtain ⟨⟨earlyKept, _, middleKept⟩, _⟩ := noRestore
    have begun : ((fresh settings name).run earlier).Steady start :=
      steady.run early (fun _ _ => Int64.minValue_le _) earlyKept (Int64.minValue_le _)
        fun action member => beforeStart action member _ List.mem_cons_self
    exact begun.reported_between middle afterStart middleKept inService stale again

/-- A node that fell silent, reported and fell silent again. -/
theorem run_alternation_silent_again :
    let earlier : List Step := [.single 0 (.submit (.loaded "node" none 0.0))]
    let between : List Step := [.single 60000 (.submit (.loaded "node" none 0.0))]
    ∃ arrived reading, .reported arrived reading ∈
      (((fresh .default "engine").run earlier).sweep 60000).1.occasions "node"
        (between.flatMap Step.actions) := by
  intro earlier between
  let steps : List Step :=
    earlier ++ .single 60000 .sweep :: between ++ .single 120000 .sweep :: []
  have noRestore : ∀ step ∈ steps, ∀ snapshot, step.operation? ≠ some (.restore snapshot) := by
    simp [steps, earlier, between]
  have forward : Forward steps := by
    simp [Forward, Step.actions, steps, earlier, between]
  have stale : "node" ∈ (((fresh .default "engine").run earlier).sweep 60000).2.newlyStale := by
    decide +kernel
  have again : "node" ∈ ((((fresh .default "engine").run earlier).sweep 60000).1.run
      between |>.sweep 120000).2.newlyStale := by
    decide +kernel
  exact (run_alternation .default "engine" steps noRestore forward).2
    earlier between [] 60000 120000 rfl "node" stale again (by simp [between])

/-- A node that was reported as stale reports with the time of the clock.  The next sweep, at
that same time, says nothing of it, and after another silence it is reported as stale anew. -/
theorem no_recovery_reported :
    let report : Step := .single 60000 (.submit (.loaded "node" none 0.0))
    let begun := (fresh .default "engine").run [.single 0 (.submit (.loaded "node" none 0.0))]
    let first := begun.sweep 60000
    let second := (first.1.run [report]).sweep 60000
    let third := second.1.sweep 120000
    first.2.newlyStale = ["node"] ∧
      (first.1.get? "node").map Node.stale = some true ∧
      (first.1.execute report).1.tally.accepted = 2 ∧
      second.2 = ⟨[], [], 0, 1⟩ ∧
      third.2.newlyStale = ["node"] ∧
      (third.1.journal.any fun event => event matches .recovery _) = false := by
  decide +kernel

/-! ## Since when a node is silent -/

theorem Occasion.Marks.isSilent_iff {scoring : Scoring Float} {occasion : Occasion} {slot : Slot}
    (marks : occasion.Marks scoring slot) (settings : RegistrySettings) (now : Int64) :
    slot.node.isSilent now settings.silenceTimeout = true ↔ slot.node.category ≠ .sundown ∧
      settings.silenceTimeout.toInt ≤ now.toInt - occasion.since.toInt := by
  have nonneg : 0 ≤ settings.silenceTimeout := Time.ofSeconds_nonneg _
  rw [Node.isSilent_iff, marks.silent, Time.le_elapsed_iff nonneg]

/-- Right after a sweep, whatever came before it, a node is flagged exactly when it is in service
and the timeout has passed since its latest occasion.  For a node that was entered this is the
time of the clock, for a node that reported it is the time that its reading bears, whenever it
arrived; the time of arrival counts only if the reading bears none. -/
theorem run_silence (settings : Settings Float) (name : String) (steps : List Step) (now : Int64) :
    let engine := (fresh settings name).run steps
    ∀ id node, (engine.sweep now).1.get? id = some node →
      ∃ latest,
        ((fresh settings name).occasions id (steps.flatMap Step.actions)).getLast? = some latest ∧
        (node.stale = true ↔ node.category ≠ .sundown ∧
          settings.registry.silenceTimeout.toInt ≤ now.toInt - latest.since.toInt) := by
  intro engine id node found
  have sound : engine.Sound := (sound_fresh settings name).run steps
  have configured : engine.settings = settings := (sound_fresh settings name).settings_run steps
  rw [get?, registry_sweep, get?_swept sound.registry, Option.map_eq_some_iff] at found
  obtain ⟨kept, found, rfl⟩ := found
  obtain ⟨before, _⟩ := Option.filter_eq_some_iff.mp found
  obtain ⟨slot, tracked, rfl⟩ := sound.registry.get?_eq_some_iff.mp before
  obtain ⟨latest, last, marks⟩ := recalls_run settings name steps id slot tracked
  refine ⟨latest, last, ?_⟩
  rw [configured, marks.isSilent_iff]

/-- A node whose reading bears the time of its arrival. -/
theorem run_silence_reported :
    let steps : List Step := [.single 5000 (.submit (.loaded "node" none 0.0))]
    let swept := (((fresh .default "engine").run steps).sweep 70000).1
    ∃ node, swept.get? "node" = some node ∧
      (node.stale = true ↔ node.category ≠ .sundown ∧ (60000 : Int) ≤ 70000 - 5000) := by
  intro steps swept
  have tracked : (swept.get? "node").isSome = true := by decide +kernel
  obtain ⟨node, found⟩ := Option.isSome_iff_exists.mp tracked
  obtain ⟨latest, last, flagged⟩ := run_silence .default "engine" steps 70000 "node" node found
  have since : (((fresh .default "engine").occasions "node"
      (steps.flatMap Step.actions)).getLast?.map Occasion.since) = some 5000 := by
    decide +kernel
  rw [last] at since
  rw [Option.some.inj since] at flagged
  exact ⟨node, found, flagged⟩

/-- A node whose reading arrived at this moment is flagged for the time that the reading bears.  A
node of which nothing arrived for as long as the timeout is not flagged, because its reading bears
the time of the sweep. -/
theorem silence_of_skewed_readings :
    let behind := (fresh .default "engine").run
      [.single 60000 (.submit (.loaded "node" (some 0) 0.0))]
    let ahead := (fresh .default "engine").run
      [.single 0 (.submit (.loaded "node" (some 60000) 0.0))]
    let flag := fun (engine : Engine) =>
      ((engine.sweep 60000).1.get? "node").map fun node => (node.lastUpdated, node.stale)
    (Settings.default : Settings Float).registry.silenceTimeout = 60000 ∧
      flag behind = some (60000, true) ∧ flag ahead = some (0, false) := by
  decide +kernel

end Engine

end Headroom
