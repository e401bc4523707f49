import Headroom.Proofs.Engine.Runs
import Headroom.Proofs.Time

/-!
# What befalls a node

A run concerns a node now and then: a registration enters it, one of its readings is
accepted, a restored snapshot has a record of it.  The latest of these occasions says where
the parts of its slot come from: since when it is silent, whether its window holds a sample,
and what its scores were computed from.  Everything else that an engine is asked for leaves
this as it is.
-/

namespace Headroom

/-- The sample that is pushed stays in the window. -/
theorem Window.isEmpty_push {limits : Limits} (nonneg : 0 ≤ limits.maxAge)
    (window : Window Float) (sample : Sample Float) :
    (window.push limits sample).isEmpty = false := by
  rw [isEmpty, List.isEmpty_eq_false_iff, push, Ne, List.dropWhile_eq_nil_iff]
  intro allDropped
  have tooOld := of_decide_eq_true (allDropped sample (List.mem_append_right _ List.mem_cons_self))
  exact absurd (Time.before_le nonneg) (Int64.not_le.mpr tooOld)

theorem WindowSettings.maxAge_nonneg (settings : WindowSettings) : 0 ≤ settings.limits.maxAge :=
  Time.ofSeconds_nonneg _

/-- An empty window has full headroom. -/
theorem Scoring.scores_of_isEmpty (scoring : Scoring Float) {window : Window Float}
    (empty : window.isEmpty = true) :
    scoring.scores window = scoring.combine 1.0 1.0 1.0 1.0 := by
  rw [scores, if_pos empty]

namespace Engine

/-- An occasion on which a node is entered, reports or is taken over. -/
inductive Occasion where
  /-- A registration made the node known. -/
  | entered (now : Int64)
  /-- A reading of the node was accepted. -/
  | reported (now : Int64) (reading : Reading Float)
  /-- A snapshot was restored, and this is the last record of the node in it. -/
  | restored (record : Node)

/-- What an action is for a node, going by the answer. -/
def Action.occasion? (action : Action) (answer : Answer) (id : String) : Option Occasion :=
  match action.operation, answer with
  | .submit reading, .submitted (.ok _) =>
    if reading.id = id then some (.reported action.now reading) else none
  | .register request, .registered (.ok (_, true)) =>
    if request.id = id then some (.entered action.now) else none
  | .restore snapshot, _ => (snapshot.nodes.filter fun node => node.id = id).getLast?.map .restored
  | _, _ => none

def occasion? (engine : Engine) (action : Action) (id : String) : Option Occasion :=
  action.occasion? (engine.perform action.now action.operation).2 id

def occasions (engine : Engine) (id : String) : List Action → List Occasion
  | [] => []
  | action :: rest =>
    (engine.occasion? action id).toList ++ (engine.act action).occasions id rest

namespace Occasion

def since : Occasion → Int64
  | entered now => now
  | reported now reading => timeOf now reading
  | restored record => record.silentSince

def isReport : Occasion → Bool
  | reported .. => true
  | _ => false

/-- The scores that a node has after an occasion without having been scored. -/
def given : Occasion → Option (Scores Float)
  | entered _ => some .initial
  | reported .. => none
  | restored record => some record.scores

/-- What the latest occasion says about the slot of a node. -/
structure Marks (scoring : Scoring Float) (occasion : Occasion) (slot : Slot) : Prop where
  silent : slot.node.silentSince = occasion.since
  window : slot.window.isEmpty = !occasion.isReport
  scores : slot.node.scores = scoring.scores slot.window ∨ occasion.given = some slot.node.scores

end Occasion

/-- A slot that an operation passes on without an occasion for its node. -/
structure Handed (scoring : Scoring Float) (before after : Slot) : Prop where
  silent : after.node.silentSince = before.node.silentSince
  window : after.window = before.window
  scores : after.node.scores = before.node.scores ∨
    after.node.scores = scoring.scores before.window

theorem Handed.refl (scoring : Scoring Float) (slot : Slot) : Handed scoring slot slot :=
  ⟨rfl, rfl, .inl rfl⟩

/-- A slot that is passed on with its window and its times. -/
structure Passed (scoring : Scoring Float) (before after : Slot) : Prop where
  window : after.window = before.window
  created : after.node.createdAt = before.node.createdAt
  last : after.node.lastSampleAt = before.node.lastSampleAt
  scores : after.node.scores = before.node.scores ∨
    after.node.scores = scoring.scores before.window

theorem Passed.refl (scoring : Scoring Float) (slot : Slot) : Passed scoring slot slot :=
  ⟨rfl, rfl, rfl, .inl rfl⟩

theorem Passed.handed {scoring : Scoring Float} {before after : Slot}
    (passed : Passed scoring before after) : Handed scoring before after where
  silent := by rw [Node.silentSince, passed.last, passed.created, Node.silentSince]
  window := passed.window
  scores := passed.scores

theorem Occasion.Marks.handed {scoring : Scoring Float} {occasion : Occasion}
    {before after : Slot} (marks : occasion.Marks scoring before)
    (handed : Handed scoring before after) : occasion.Marks scoring after where
  silent := handed.silent.trans marks.silent
  window := by rw [handed.window, marks.window]
  scores := by
    rcases handed.scores with same | rescored
    · rw [same, handed.window]
      exact marks.scores
    · exact .inl (by rw [rescored, handed.window])

/-! ## One action -/

/-- What is left in a slot after an action: the marks of the occasion that the action was for
the node, or those from before. -/
inductive Aftermath (engine : Engine) (id : String) (slot : Slot) : Option Occasion → Prop where
  | marked {occasion : Occasion} (marks : occasion.Marks engine.settings.scoring slot) :
      Aftermath engine id slot (some occasion)
  | handed {before : Slot} (found : engine.registry.slots.get? id = some before)
      (handed : Handed engine.settings.scoring before slot) : Aftermath engine id slot none

section Action

variable {engine : Engine} {now : Int64} {id : String} {slot : Slot}

theorem limits_nonneg (sound : engine.Sound) : 0 ≤ engine.registry.limits.maxAge := by
  rw [sound.limits]
  exact WindowSettings.maxAge_nonneg _

/-- A slot that is not the one stored is left as it was. -/
theorem aftermath_store {changed : Slot} {name : String} (differs : id ≠ name)
    (found : (engine.registry.store name changed).slots.get? id = some slot) :
    Aftermath engine id slot none := by
  rw [Registry.lookup_store, if_neg differs] at found
  exact .handed found (.refl _ _)

/-- A reading that is accepted marks the slot of its node. -/
theorem aftermath_submit (sound : engine.Sound) {reading : Reading Float}
    (found : (engine.act ⟨now, .submit reading⟩).registry.slots.get? id = some slot) :
    Aftermath engine id slot (engine.occasion? ⟨now, .submit reading⟩ id) := by
  rw [occasion?, perform]
  rw [act, perform] at found
  cases verdict : engine.refusal? now reading with
  | some refusal =>
    rw [submit_refused sound.registry verdict] at found ⊢
    exact .handed found (.refl _ _)
  | none =>
    rw [submit_accepted sound.registry verdict] at found ⊢
    simp only [accepted, registry_noteAccepted] at found
    by_cases own : reading.id = id
    · subst own
      rw [Registry.lookup_store, if_pos rfl] at found
      cases found
      simp only [Action.occasion?, if_true]
      exact .marked {
        silent := rfl
        window := Window.isEmpty_push (limits_nonneg sound) _ _
        scores := .inl rfl }
    · simp only [Action.occasion?, if_neg own]
      exact aftermath_store (Ne.symm own) found

theorem occasion?_of_accepted (sound : engine.Sound) {reading : Reading Float}
    (accepted : engine.refusal? now reading = none) :
    engine.occasion? ⟨now, .submit reading⟩ reading.id = some (.reported now reading) := by
  rw [occasion?, perform, submit_accepted sound.registry accepted]
  simp only [Action.occasion?, if_true]

/-- A registration marks the slot of a node that it enters, and no other one. -/
theorem aftermath_register (sound : engine.Sound) {request : Registration}
    (found : (engine.act ⟨now, .register request⟩).registry.slots.get? id = some slot) :
    Aftermath engine id slot (engine.occasion? ⟨now, .register request⟩ id) := by
  rw [occasion?, perform]
  rw [act, perform] at found
  cases unnamed : request.id.isEmpty with
  | true =>
    rw [register_unnamed unnamed] at found ⊢
    exact .handed found (.refl _ _)
  | false =>
    cases room : engine.registry.admits request.id with
    | false =>
      rw [register_full sound.registry unnamed room] at found ⊢
      exact .handed found (.refl _ _)
    | true =>
      rw [register_admitted sound.registry unnamed room] at found ⊢
      by_cases own : request.id = id
      · subst own
        rw [registry_log, Registry.lookup_store, if_pos rfl] at found
        cases found
        cases tracked : engine.registry.slots.get? request.id with
        | some before =>
          rw [Registry.contains_eq_true tracked]
          refine .handed tracked ?_
          rw [described, Registry.seat_tracked tracked]
          exact ⟨rfl, rfl, .inl rfl⟩
        | none =>
          rw [Registry.contains_eq_false tracked, described, Registry.seat, tracked]
          simp only [Action.occasion?, Bool.not_false, if_true]
          exact .marked ⟨rfl, rfl, .inr rfl⟩
      · rw [registry_log] at found
        cases engine.registry.contains request.id <;>
          simp only [Action.occasion?, Bool.not_true, Bool.not_false, if_neg own] <;>
          exact aftermath_store (Ne.symm own) found

/-- A restore marks the slots of the nodes that it has records of. -/
theorem aftermath_restore (sound : engine.Sound) {snapshot : Snapshot}
    (found : (engine.act ⟨now, .restore snapshot⟩).registry.slots.get? id = some slot) :
    Aftermath engine id slot (engine.occasion? ⟨now, .restore snapshot⟩ id) := by
  have named := (sound.act ⟨now, .restore snapshot⟩).named id slot found
  have last := sound.registry.lookup_restore_last snapshot.nodes named found
  simp only [occasion?, Action.occasion?]
  cases record : (snapshot.nodes.filter fun node => node.id = id).getLast? with
  | some node =>
    rw [record] at last
    rw [last]
    exact .marked ⟨rfl, rfl, .inr rfl⟩
  | none =>
    rw [record] at last
    exact .handed last (.refl _ _)

/-- Operations other than readings, registrations and restores leave windows and times alone;
scores are at most computed again from the window. -/
theorem Effect.passed {operation : Operation} {registry : Registry} {history : History}
    (effect : Effect engine now operation registry history) (sound : engine.Sound)
    (noReading : ∀ reading, operation ≠ .submit reading)
    (noRegistration : ∀ request, operation ≠ .register request)
    (noRestore : ∀ snapshot, operation ≠ .restore snapshot)
    (found : registry.slots.get? id = some slot) :
    ∃ before, engine.registry.slots.get? id = some before ∧
      Passed engine.settings.scoring before slot := by
  have replaced {name : String} {before changed : Slot}
      (found : (engine.registry.store name changed).slots.get? id = some slot)
      (tracked : engine.registry.slots.get? name = some before)
      (passed : Passed engine.settings.scoring before changed) :
      ∃ before, engine.registry.slots.get? id = some before ∧
        Passed engine.settings.scoring before slot := by
    rw [Registry.lookup_store] at found
    split at found
    · rename_i own
      cases found
      exact ⟨before, own ▸ tracked, passed⟩
    · exact ⟨slot, found, .refl _ _⟩
  cases effect with
  | nothing => exact ⟨slot, found, .refl _ _⟩
  | observed accepted => exact absurd rfl (noReading _)
  | described named room => exact absurd rfl (noRegistration _)
  | retired tracked active => exact replaced found tracked ⟨rfl, rfl, rfl, .inl rfl⟩
  | rescored tracked => exact replaced found tracked ⟨rfl, rfl, rfl, .inr rfl⟩
  | swept =>
    obtain ⟨kept, tracked, rfl⟩ := lookup_swept sound.registry found
    exact ⟨kept, tracked, rfl, rfl, rfl, .inl rfl⟩
  | restored => exact absurd rfl (noRestore _)

/-- An action leaves a slot with the marks of what it was for the node. -/
theorem aftermath_act (sound : engine.Sound) (action : Action)
    (found : (engine.act action).registry.slots.get? id = some slot) :
    Aftermath engine id slot (engine.occasion? action id) := by
  obtain ⟨now, operation⟩ := action
  have effect := (effect_act sound.registry ⟨now, operation⟩).2
  cases operation with
  | submit reading => exact aftermath_submit sound found
  | register request => exact aftermath_register sound found
  | restore snapshot => exact aftermath_restore sound found
  | _ =>
    obtain ⟨before, tracked, passed⟩ := effect.passed sound (by simp) (by simp) (by simp) found
    exact .handed tracked passed.handed

end Action

/-! ## Whole runs -/

def Recalls (engine : Engine) (log : String → List Occasion) : Prop :=
  ∀ id slot, engine.registry.slots.get? id = some slot →
    ∃ latest, (log id).getLast? = some latest ∧ latest.Marks engine.settings.scoring slot

/-- One more action leaves the marks of the latest occasion in every slot. -/
theorem Recalls.act {engine : Engine} {log : String → List Occasion}
    (recalls : engine.Recalls log) (sound : engine.Sound) (action : Action) :
    (engine.act action).Recalls fun id => log id ++ (engine.occasion? action id).toList := by
  intro id slot found
  rw [(effect_act sound.registry action).1]
  have aftermath := aftermath_act sound action found
  cases occasion : engine.occasion? action id with
  | some latest =>
    rw [occasion] at aftermath
    cases aftermath with
    | marked marks =>
      refine ⟨latest, ?_, marks⟩
      simp only [occasion, Option.toList_some, List.getLast?_concat]
  | none =>
    rw [occasion] at aftermath
    cases aftermath with
    | handed tracked handed =>
      obtain ⟨latest, last, marks⟩ := recalls id _ tracked
      refine ⟨latest, ?_, marks.handed handed⟩
      simpa only [occasion, Option.toList_none, List.append_nil] using last

theorem Recalls.follow (actions : List Action) :
    ∀ {engine : Engine} {log : String → List Occasion}, engine.Recalls log → engine.Sound →
      (engine.follow actions).Recalls fun id => log id ++ engine.occasions id actions := by
  induction actions with
  | nil =>
    intro engine log recalls _
    simp only [occasions, List.append_nil]
    exact recalls
  | cons action rest ih =>
    intro engine log recalls sound
    simp only [occasions, ← List.append_assoc]
    exact ih (recalls.act sound action) (sound.act action)

/-- In every state that a run reaches, each tracked node bears the marks of its latest
occasion. -/
theorem recalls_run (settings : Settings Float) (name : String) (steps : List Step) :
    ((fresh settings name).run steps).Recalls fun id =>
      (fresh settings name).occasions id (steps.flatMap Step.actions) := by
  have nothingYet : (fresh settings name).Recalls fun _ => [] := fun _ _ found => by cases found
  rw [run_eq_follow]
  simpa only [List.nil_append] using nothingYet.follow _ (sound_fresh settings name)

end Engine

end Headroom
