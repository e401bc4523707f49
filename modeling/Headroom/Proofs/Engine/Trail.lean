import Headroom.Proofs.Engine.Runs

/-!
# The trail of category changes

The history is written at the same time as the categories change, in three
different places.  Here the changes are read off the registries before and after
an operation, without looking at the history, and their sequence is compared with
what the history keeps.  For one node the changes link up: each starts where the
last one ended, except that a decommissioned node may be collected and start over.
-/

namespace Headroom

structure Change where
  id : String
  source : Category
  target : Category
  deriving DecidableEq, Repr

def Transition.change (transition : Transition) : Change :=
  ⟨transition.id, transition.source, transition.target⟩

/-- A change may come after another one of the same node: it starts where that one ended, or
the node was decommissioned, collected and created again. -/
def Change.Succeeds (earlier later : Change) : Prop :=
  later.source = earlier.target ∨ earlier.target = .sundown ∧ later.source = .initial

namespace Engine

def category? (registry : Registry) (id : String) : Option Category :=
  (registry.get? id).map (·.category)

/-- The changes between an engine and a later registry, in the order of the ids.  A node that is
new starts as initial. -/
def changesTo (engine : Engine) (later : Registry) : List Change :=
  later.nodes.filterMap fun node =>
    if node.category = engine.standing node.id then none
    else some ⟨node.id, engine.standing node.id, node.category⟩

def trail (engine : Engine) : List Action → List Change
  | [] => []
  | action :: rest =>
    engine.changesTo (engine.act action).registry ++ (engine.act action).trail rest

/-! ## One operation -/

theorem filterMap_single {α β : Type} {change : α → Option β} {element : α} {elements : List α}
    (distinct : elements.Nodup) (member : element ∈ elements)
    (others : ∀ other ∈ elements, other ≠ element → change other = none) :
    elements.filterMap change = (change element).toList := by
  induction elements with
  | nil => cases member
  | cons head tail ih =>
    obtain ⟨headOutside, tailDistinct⟩ := List.nodup_cons.mp distinct
    by_cases same : head = element
    · subst same
      have tailSilent : tail.filterMap change = [] :=
        List.filterMap_eq_nil_iff.mpr fun other inTail =>
          others other (List.mem_cons_of_mem _ inTail) fun equal => headOutside (equal ▸ inTail)
      cases found : change head <;> simp [found, tailSilent]
    · have inTail : element ∈ tail := (List.mem_cons.mp member).resolve_left (Ne.symm same)
      rw [List.filterMap_cons_none (others head List.mem_cons_self same)]
      exact ih tailDistinct inTail fun other inside =>
        others other (List.mem_cons_of_mem _ inside)

section Changes

variable {engine : Engine}

theorem changesTo_eq_nil {later : Registry} (sound : later.Sound)
    (same : ∀ id node, later.get? id = some node → node.category = engine.standing id) :
    engine.changesTo later = [] := by
  refine List.filterMap_eq_nil_iff.mpr fun node member => ?_
  rw [if_pos (same node.id node (sound.mem_nodes.mp member))]

theorem standing_of_get? {id : String} {node : Node} (found : engine.get? id = some node) :
    engine.standing id = node.category := by
  rw [standing, found]
  rfl

theorem standing_of_category? {id : String} {category : Category}
    (found : category? engine.registry id = some category) : engine.standing id = category :=
  congrArg (Option.getD · Category.initial) found

/-- Keeping a slot changes the category of its node or nothing. -/
theorem changesTo_store (sound : engine.registry.Sound) {id : String} {slot : Slot}
    (after : (engine.registry.store id slot).Sound) :
    engine.changesTo (engine.registry.store id slot) =
      if slot.node.category = engine.standing id then []
      else [⟨id, engine.standing id, slot.node.category⟩] := by
  have stored : (engine.registry.store id slot).get? id = some slot.node := by
    rw [sound.get?_store after, if_pos rfl]
  have keyed : slot.node.id = id := after.get?_id stored
  have member : slot.node ∈ (engine.registry.store id slot).nodes :=
    after.mem_nodes.mpr (keyed.symm ▸ stored)
  rw [changesTo, filterMap_single after.nodes_nodup member ?_, keyed]
  · split <;> rfl
  · intro other inside differs
    have found := after.mem_nodes.mp inside
    rw [sound.get?_store after] at found
    split at found
    · exact absurd (Option.some.inj found).symm differs
    · rw [if_pos (standing_of_get? found).symm]

theorem category_observed (sound : engine.registry.Sound) (now : Int64)
    (reading : Reading Float) :
    (engine.observed now reading).node.category =
      engine.settings.thresholds.next (engine.standing reading.id)
        (engine.observed now reading).node.scores.overall := by
  rw [standing_eq_seat sound reading.id reading.name now]
  rfl

theorem category_described (sound : engine.registry.Sound) (now : Int64)
    (request : Registration) :
    (engine.described now request).node.category = engine.standing request.id := by
  rw [standing_eq_seat sound request.id request.name now]
  rfl

/-- The transition on a receipt records the change of the category. -/
theorem change_receiptFor (sound : engine.registry.Sound) (now : Int64)
    (reading : Reading Float) :
    (engine.receiptFor now reading).transition.map Transition.change =
      if (engine.observed now reading).node.category = engine.standing reading.id then none
      else some ⟨reading.id, engine.standing reading.id,
        (engine.observed now reading).node.category⟩ := by
  rw [category_observed sound, receiptFor, Transition.ofScore?]
  split <;> rfl

end Changes

/-- How the category of a node may pass through an operation that makes at most one change. -/
inductive Passage (id : String) (made : Option Change) :
    Option Category → Option Category → Prop where
  | changes {before : Option Category} {change : Change} (recorded : made = some change)
      (own : change.id = id) (starts : before.getD .initial = change.source) :
      Passage id made before (some change.target)
  | stays {before : Option Category} (others : ∀ change, made = some change → change.id ≠ id) :
      Passage id made before before
  | enters (others : ∀ change, made = some change → change.id ≠ id) :
      Passage id made none (some .initial)
  | leaves (others : ∀ change, made = some change → change.id ≠ id) :
      Passage id made (some .sundown) none

section Passage

variable {engine : Engine} (sound : engine.registry.Sound)

include sound

theorem category?_store {id : String} {slot : Slot}
    (after : (engine.registry.store id slot).Sound) (other : String) :
    category? (engine.registry.store id slot) other =
      if other = id then some slot.node.category else category? engine.registry other := by
  rw [category?, category?, sound.get?_store after]
  split <;> rfl

/-- The passages when one slot is stored and the change of its category is recorded. -/
theorem passage_store {id : String} {slot : Slot}
    (after : (engine.registry.store id slot).Sound) (other : String) :
    Passage other (if slot.node.category = engine.standing id then none
        else some ⟨id, engine.standing id, slot.node.category⟩)
      (category? engine.registry other) (category? (engine.registry.store id slot) other) := by
  rw [category?_store sound after]
  by_cases own : other = id
  · subst own
    rw [if_pos rfl]
    by_cases same : slot.node.category = engine.standing other
    · rw [if_pos same, same, standing, get?, ← category?]
      cases category? engine.registry other with
      | none => exact .enters fun _ made => by cases made
      | some category => exact .stays fun _ made => by cases made
    · rw [if_neg same]
      exact .changes rfl rfl rfl
  · rw [if_neg own]
    refine .stays fun change made => ?_
    split at made
    · cases made
    · cases made
      exact Ne.symm own

/-- A sweep moves no node; it can only take one away. -/
theorem passage_swept (now : Int64) (id : String) :
    Passage id none (category? engine.registry id) (category? (engine.swept now) id) := by
  rw [category?, category?, get?_swept sound, get?]
  cases engine.registry.get? id with
  | none => exact .stays fun _ made => by cases made
  | some node =>
    by_cases expired : node.isExpired now engine.settings.registry.sundownRetention
    · have gone : node.category = .sundown := by
        simp only [Node.isExpired, Bool.and_eq_true, decide_eq_true_eq] at expired
        exact expired.1
      simp only [Option.filter, expired, Option.map_some, gone]
      exact .leaves fun _ made => by cases made
    · simp only [Option.filter, expired, Option.map_some]
      exact .stays fun _ made => by cases made

end Passage

/-- An operation other than a restore records the change that it makes, if it makes one. -/
theorem Effect.passage {engine : Engine} {now : Int64} {operation : Operation}
    {registry : Registry} {history : History}
    (effect : Effect engine now operation registry history) (sound : engine.registry.Sound)
    (noRestore : ∀ snapshot, operation ≠ .restore snapshot) :
    ∃ recorded : Option Transition,
      history = recorded.elim engine.history engine.history.record ∧
      engine.changesTo registry = (recorded.map Transition.change).toList ∧
      ∀ id, Passage id (recorded.map Transition.change) (category? engine.registry id)
        (category? registry id) := by
  have after := effect.sound sound
  cases effect with
  | nothing =>
    exact ⟨none, rfl, changesTo_eq_nil sound fun id node found => (standing_of_get? found).symm,
      fun id => .stays fun _ made => by cases made⟩
  | observed accepted =>
    refine ⟨_, rfl, ?_, fun id => ?_⟩
    · rw [change_receiptFor sound, changesTo_store sound after]
      split <;> rfl
    · rw [change_receiptFor sound]
      exact passage_store sound after id
  | @described request named room =>
    have same := category_described sound now request
    refine ⟨none, rfl, ?_, fun id => ?_⟩
    · rw [changesTo_store sound after, if_pos same]
      rfl
    · simpa [same] using passage_store sound after id
  | @retired id slot found active =>
    have source : engine.standing id = slot.node.category :=
      standing_of_get? (sound.get?_tracked found)
    have moves : ¬ Category.sundown = slot.node.category := fun same => active same.symm
    refine ⟨some (farewell slot id now), rfl, ?_, fun other => ?_⟩
    · rw [changesTo_store sound after]
      simp [Node.retired, moves, source, farewell, Transition.change]
    · have passage := passage_store sound after other
      simpa [Node.retired, moves, source, farewell, Transition.change] using passage
  | @rescored id slot found =>
    have same : (Engine.rescored engine.settings slot).node.category = engine.standing id :=
      (standing_of_get? (sound.get?_tracked found)).symm
    refine ⟨none, rfl, ?_, fun other => ?_⟩
    · rw [changesTo_store sound after, if_pos same]
      rfl
    · simpa [same] using passage_store sound after other
  | swept =>
    refine ⟨none, rfl, changesTo_eq_nil after fun id node found => ?_, passage_swept sound now⟩
    rw [get?_swept sound, Option.map_eq_some_iff] at found
    obtain ⟨kept, found, rfl⟩ := found
    exact (standing_of_get? (Option.filter_eq_some_iff.mp found).1).symm
  | restored => exact absurd rfl (noRestore _)

/-! ## Whole runs -/

def changesOf (id : String) (changes : List Change) : List Change :=
  changes.filter fun change => change.id = id

/-- Where the latest change of a node leaves it. -/
def Rests : Option Change → Option Category → Prop
  | none, none => True
  | none, some current => current = .initial
  | some latest, none => latest.target = .sundown
  | some latest, some current =>
    current = latest.target ∨ latest.target = .sundown ∧ current = .initial

/-- The latest change may be followed by one that starts where the node stands. -/
theorem Rests.succeeds {latest later : Change} {current : Option Category}
    (rests : Rests (some latest) current) (starts : current.getD .initial = later.source) :
    latest.Succeeds later := by
  cases current with
  | none => exact .inr ⟨rests, starts.symm⟩
  | some current =>
    rcases rests with same | ⟨gone, again⟩
    · exact .inl (starts.symm.trans same)
    · exact .inr ⟨gone, starts.symm.trans again⟩

theorem changesOf_append (id : String) (first second : List Change) :
    changesOf id (first ++ second) = changesOf id first ++ changesOf id second :=
  List.filter_append _ _

theorem changesOf_others {id : String} {made : Option Change}
    (others : ∀ change, made = some change → change.id ≠ id) :
    changesOf id made.toList = [] := by
  cases made with
  | none => rfl
  | some change => simp [changesOf, others change rfl]

/-- A passage keeps the changes of a node linked to each other and to its category. -/
theorem Passage.follows {id : String} {made : Option Change} {before after : Option Category}
    (passage : Passage id made before after) {log : List Change}
    (linked : (changesOf id log).IsChain Change.Succeeds)
    (rests : Rests (changesOf id log).getLast? before) :
    (changesOf id (log ++ made.toList)).IsChain Change.Succeeds ∧
      Rests (changesOf id (log ++ made.toList)).getLast? after := by
  rw [changesOf_append]
  cases passage with
  | @changes _ change recorded own starts =>
    have made_eq : changesOf id made.toList = [change] := by simp [recorded, changesOf, own]
    rw [made_eq, List.getLast?_concat]
    refine ⟨linked.append (List.isChain_singleton _) fun latest isLatest later isLater => ?_, .inl rfl⟩
    cases isLater
    rw [Option.mem_def.mp isLatest] at rests
    exact rests.succeeds starts
  | stays others =>
    rw [changesOf_others others, List.append_nil]
    exact ⟨linked, rests⟩
  | enters others =>
    rw [changesOf_others others, List.append_nil]
    refine ⟨linked, ?_⟩
    cases latest : (changesOf id log).getLast? with
    | none => rfl
    | some change =>
      rw [latest] at rests
      exact .inr ⟨rests, rfl⟩
  | leaves others =>
    rw [changesOf_others others, List.append_nil]
    refine ⟨linked, ?_⟩
    cases latest : (changesOf id log).getLast? with
    | none => trivial
    | some change =>
      rw [latest] at rests
      rcases rests with same | ⟨gone, _⟩
      · exact same.symm
      · exact gone

/-- A history that holds the end of a sequence still does after recording its next element. -/
theorem entries_record {history : History} {log : List Change} (transition : Transition)
    (kept : history.entries.map Transition.change = log.drop (log.length - history.capacity)) :
    (history.record transition).entries.map Transition.change =
      (log ++ [transition.change]).drop ((log ++ [transition.change]).length - history.capacity) := by
  have bounded : history.size ≤ history.capacity := by
    have size := congrArg List.length kept
    rw [List.length_map, List.length_drop] at size
    rw [History.size]
    omega
  rw [History.entries_record bounded, map_rtake, List.map_append, kept]
  exact rtake_concat_rtake log transition.change history.capacity

/-- What the changes so far say about an engine. -/
structure Chronicle (engine : Engine) (log : List Change) : Prop where
  sound : engine.Sound
  kept : engine.history.entries.map Transition.change =
    log.drop (log.length - engine.history.capacity)
  linked : ∀ id, (changesOf id log).IsChain Change.Succeeds
  rests : ∀ id, Rests (changesOf id log).getLast? (category? engine.registry id)

theorem chronicle_fresh (settings : Settings Float) (name : String) :
    Chronicle (fresh settings name) [] where
  sound := sound_fresh settings name
  kept := List.drop_nil.symm
  linked := fun _ => .nil
  rests := fun _ => trivial

/-- One more action appends its changes to the chronicle. -/
theorem Chronicle.act {engine : Engine} {log : List Change} (chronicle : Chronicle engine log)
    {action : Action} (noRestore : ∀ snapshot, action.operation ≠ .restore snapshot) :
    Chronicle (engine.act action) (log ++ engine.changesTo (engine.act action).registry) := by
  have sound := chronicle.sound
  have effect := (effect_act sound.registry action).2
  obtain ⟨recorded, history, changes, passage⟩ := effect.passage sound.registry noRestore
  have follows (id : String) := (passage id).follows (chronicle.linked id) (chronicle.rests id)
  rw [changes]
  exact {
    sound := sound.act action
    kept := by
      rw [effect.capacity, history]
      cases recorded with
      | none => simpa using chronicle.kept
      | some transition => exact entries_record transition chronicle.kept
    linked := fun id => (follows id).1
    rests := fun id => (follows id).2 }

/-- A history chronicles every run without a restore. -/
theorem Chronicle.follow (actions : List Action) :
    ∀ {engine : Engine} {log : List Change}, Chronicle engine log →
      (∀ action ∈ actions, ∀ snapshot, action.operation ≠ .restore snapshot) →
      Chronicle (engine.follow actions) (log ++ engine.trail actions) := by
  induction actions with
  | nil =>
    intro engine log chronicle _
    rwa [trail, List.append_nil]
  | cons action rest ih =>
    intro engine log chronicle noRestore
    rw [trail, ← List.append_assoc]
    exact ih (chronicle.act (noRestore action List.mem_cons_self))
      fun later member => noRestore later (List.mem_cons_of_mem _ member)

/-! ## What moves a node -/

def Response.receipts : Response → List Receipt
  | .single (.submitted (.ok receipt)) => [receipt]
  | .single _ => []
  | .batch outcomes => outcomes.filterMap fun
    | .accepted receipt => some receipt
    | .rejected .. => none

/-- The two ways in which a step may move a node that stays tracked: an accepted reading of it
moves it into a band, its decommission out of service.  Neither starts from `sundown`. -/
inductive Moves (step : Step) (response : Response) (id : String) (source target : Category) :
    Prop where
  | scored (active : source ≠ .sundown) (band : target.Scored)
      (accepted : ∃ receipt ∈ response.receipts, receipt.id = id)
  | retired (active : source ≠ .sundown) (gone : target = .sundown)
      (asked : step.operation? = some (.decommission id))

section Moves

variable {engine : Engine}

/-- A reading keeps every tracked node tracked, and moves at most its own. -/
theorem submit_moves (sound : engine.Sound) (now : Int64) (reading : Reading Float) {id : String}
    {source : Category} (before : category? engine.registry id = some source) :
    ∃ target, category? (engine.submit now reading).1.registry id = some target ∧
      (target = source ∨ source ≠ .sundown ∧ target.Scored ∧
        ∃ receipt, (engine.submit now reading).2 = .ok receipt ∧ receipt.id = id) := by
  cases refused : engine.refusal? now reading with
  | some refusal =>
    rw [submit_refused sound.registry refused]
    exact ⟨source, before, .inl rfl⟩
  | none =>
    have after := (sound.submit now reading).registry
    rw [submit_accepted sound.registry refused] at after ⊢
    simp only [accepted, registry_noteAccepted] at after ⊢
    rw [category?_store sound.registry after]
    by_cases own : id = reading.id
    · rw [if_pos own]
      refine ⟨_, rfl, ?_⟩
      rw [category_observed sound.registry, standing_of_category? (own ▸ before)]
      by_cases gone : source = .sundown
      · rw [gone]
        exact .inl rfl
      · exact .inr ⟨gone, Category.scored_next gone, _, rfl, own.symm⟩
    · rw [if_neg own]
      exact ⟨source, before, .inl rfl⟩

/-- A batch moves a tracked node only into bands, and says so in a receipt. -/
theorem submitEach_moves (readings : List (Int64 × Reading Float)) :
    ∀ {engine : Engine}, engine.Sound → ∀ {id : String} {source : Category},
      category? engine.registry id = some source →
      ∃ target, category? (engine.submitEach readings).1.registry id = some target ∧
        (target = source ∨ source ≠ .sundown ∧ target.Scored ∧
          ∃ receipt, .accepted receipt ∈ (engine.submitEach readings).2 ∧ receipt.id = id) := by
  induction readings with
  | nil => exact fun _ _ source before => ⟨source, before, .inl rfl⟩
  | cons timed rest ih =>
    obtain ⟨now, reading⟩ := timed
    intro engine sound id source before
    obtain ⟨middle, between, first⟩ := submit_moves sound now reading before
    obtain ⟨target, after, later⟩ := ih (sound.submit now reading) between
    refine ⟨target, after, ?_⟩
    rw [submitEach_cons]
    have here {receipt : Receipt} (accepted : (engine.submit now reading).2 = .ok receipt) :
        .accepted receipt ∈ outcome reading.id (engine.submit now reading).2 ::
          ((engine.submit now reading).1.submitEach rest).2 := by
      rw [accepted]
      exact List.mem_cons_self
    rcases first with rfl | ⟨active, band, receipt, accepted, own⟩
    · exact later.imp_right fun ⟨active, band, receipt, member, own⟩ =>
        ⟨active, band, receipt, List.mem_cons_of_mem _ member, own⟩
    · rcases later with rfl | ⟨_, band, receipt, member, own⟩
      · exact .inr ⟨active, band, receipt, here accepted, own⟩
      · exact .inr ⟨active, band, receipt, List.mem_cons_of_mem _ member, own⟩

/-- An operation other than a reading and a restore moves a node only by decommissioning it. -/
theorem Effect.moves {now : Int64} {operation : Operation} {registry : Registry}
    {history : History} (effect : Effect engine now operation registry history)
    (sound : engine.registry.Sound) (noReading : ∀ reading, operation ≠ .submit reading)
    (noRestore : ∀ snapshot, operation ≠ .restore snapshot) {id : String}
    {source target : Category} (before : category? engine.registry id = some source)
    (after : category? registry id = some target) (differs : target ≠ source) :
    source ≠ .sundown ∧ target = .sundown ∧ operation = .decommission id := by
  have soundAfter := effect.sound sound
  have same (stays : category? registry id = category? engine.registry id) : False :=
    differs (Option.some.inj (after.symm.trans (stays.trans before)))
  cases effect with
  | nothing => exact (same rfl).elim
  | observed accepted => exact absurd rfl (noReading _)
  | @described request named room =>
    refine (same ?_).elim
    rw [category?_store sound soundAfter]
    split
    · rename_i own
      rw [category_described sound, standing_of_category? (own ▸ before), before]
    · rfl
  | @retired other slot found active =>
    rw [category?_store sound soundAfter] at after
    split at after
    · rename_i own
      cases after
      rw [category?, sound.get?_eq, own, found] at before
      cases before
      exact ⟨active, rfl, by rw [own]⟩
    · exact absurd (Option.some.inj (after.symm.trans before)) differs
  | @rescored other slot found =>
    refine (same ?_).elim
    rw [category?_store sound soundAfter]
    split
    · rename_i own
      rw [category?, sound.get?_eq, own, found]
      rfl
    · rfl
  | swept =>
    have passage := passage_swept sound now id
    rw [before, after] at passage
    cases passage with
    | stays => exact absurd rfl differs
    | changes made => cases made
  | restored => exact absurd rfl (noRestore _)

/-- A step other than a restore moves a node that stays tracked in one of the two ways. -/
theorem execute_moves (sound : engine.Sound) {step : Step}
    (noRestore : ∀ snapshot, step.operation? ≠ some (.restore snapshot)) {id : String}
    {source target : Category} (before : category? engine.registry id = some source)
    (after : category? (engine.execute step).1.registry id = some target)
    (differs : target ≠ source) :
    Moves step (engine.execute step).2 id source target := by
  cases step with
  | batch readings =>
    obtain ⟨reached, found, same | ⟨active, band, receipt, member, own⟩⟩ :=
      submitEach_moves readings sound before
    · exact absurd ((Option.some.inj (after.symm.trans found)).trans same) differs
    · cases after.symm.trans found
      exact .scored active band ⟨receipt, List.mem_filterMap.mpr ⟨_, member, rfl⟩, own⟩
  | single now operation =>
    have effect := (effect_act sound.registry ⟨now, operation⟩).2
    by_cases isReading : ∃ reading, operation = .submit reading
    · obtain ⟨reading, rfl⟩ := isReading
      obtain ⟨reached, found, same | ⟨active, band, receipt, accepted, own⟩⟩ :=
        submit_moves sound now reading before
      · exact absurd ((Option.some.inj (after.symm.trans found)).trans same) differs
      · cases after.symm.trans found
        refine .scored active band ⟨receipt, ?_, own⟩
        simp only [execute, perform, accepted, Response.receipts, List.mem_singleton]
    · have noReading (reading : Reading Float) : operation ≠ .submit reading :=
        fun same => isReading ⟨reading, same⟩
      obtain ⟨active, gone, rfl⟩ := effect.moves sound.registry noReading
        (fun snapshot same => noRestore snapshot (congrArg _ same)) before after differs
      exact .retired active gone rfl

end Moves

/-! ## The theorem -/

theorem changesOf_map (id : String) (transitions : List Transition) :
    changesOf id (transitions.map Transition.change) =
      (transitions.filter fun transition => transition.id = id).map Transition.change :=
  List.filter_map

theorem changesOf_drop (id : String) (changes : List Change) (count : Nat) :
    changesOf id changes = changesOf id (changes.take count) ++ changesOf id (changes.drop count) := by
  rw [← changesOf_append, List.take_append_drop]

/-- In a run without a restore, a step moves a node that stays tracked only by an accepted
reading into a band or by a decommission out of service, and never out of `sundown`.  The
history holds the latest of all changes of the run, as many as it has room for; what it holds
about one node links up, and the newest entry leads to where the node stands. -/
theorem run_trail (settings : Settings Float) (name : String) (steps : List Step)
    (noRestore : ∀ step ∈ steps, ∀ snapshot, step.operation? ≠ some (.restore snapshot)) :
    let engine := (fresh settings name).run steps
    let changes := (fresh settings name).trail (steps.flatMap Step.actions)
    let kept := engine.history.entries
    (∀ step, (∀ snapshot, step.operation? ≠ some (.restore snapshot)) →
      ∀ id source target, category? engine.registry id = some source →
        category? (engine.execute step).1.registry id = some target → target ≠ source →
          Moves step (engine.execute step).2 id source target) ∧
    kept.map Transition.change =
      changes.drop (changes.length - settings.registry.auditLogSize.toNat) ∧
    (∀ id, (kept.filter fun transition => transition.id = id).IsChain fun earlier later =>
      later.source = earlier.target ∨ earlier.target = .sundown ∧ later.source = .initial) ∧
    ∀ id newest, (kept.filter fun transition => transition.id = id).getLast? = some newest →
      match category? engine.registry id with
      | some category =>
        category = newest.target ∨ newest.target = .sundown ∧ category = .initial
      | none => newest.target = .sundown := by
  intro engine changes kept
  have chronicle : Chronicle engine changes := by
    have whole := (chronicle_fresh settings name).follow _ (noRestore_actions noRestore)
    rwa [← run_eq_follow] at whole
  have size : engine.history.capacity = settings.registry.auditLogSize.toNat := by
    rw [chronicle.sound.capacity]
    exact congrArg (fun after : Settings Float => after.registry.auditLogSize.toNat)
      (Sound.settings_run steps (sound_fresh settings name))
  have keptOf (id : String) : changesOf id changes =
      changesOf id (changes.take (changes.length - engine.history.capacity)) ++
        (kept.filter fun transition => transition.id = id).map Transition.change := by
    rw [← changesOf_map, chronicle.kept, ← changesOf_drop]
  refine ⟨fun step isRestore id source target => execute_moves chronicle.sound isRestore,
    size ▸ chronicle.kept, fun id => ?_, fun id newest isNewest => ?_⟩
  · have linked := chronicle.linked id
    rw [keptOf] at linked
    exact (List.isChain_map _).mp linked.right_of_append
  · have rests := chronicle.rests id
    rw [keptOf, List.getLast?_append, List.getLast?_map, isNewest] at rests
    cases found : category? engine.registry id with
    | none =>
      rw [found] at rests
      exact rests
    | some category =>
      rw [found] at rests
      exact rests

/-- A node that is entered and decommissioned leaves one entry. -/
theorem run_trail_decommissioned :
    let steps : List Step :=
      [.single 0 (.register ⟨"a", none, none⟩), .single 1 (.decommission "a")]
    (∀ step ∈ steps, ∀ snapshot, step.operation? ≠ some (.restore snapshot)) ∧
      ((fresh .default defaultInstanceName).run steps).history.entries.map Transition.change =
        [⟨"a", .initial, .sundown⟩] := by
  intro steps
  have noRestore : ∀ step ∈ steps, ∀ snapshot, step.operation? ≠ some (.restore snapshot) := by
    simp [steps]
  have changes : (fresh .default defaultInstanceName).trail (steps.flatMap Step.actions) =
      [⟨"a", .initial, .sundown⟩] := rfl
  refine ⟨noRestore, (run_trail .default defaultInstanceName steps noRestore).2.1.trans ?_⟩
  rw [changes]
  rfl

end Engine

end Headroom
