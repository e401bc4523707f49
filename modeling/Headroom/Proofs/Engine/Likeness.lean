import Headroom.Proofs.Engine.Runs

/-!
# Engines that differ in their windows

What an engine accepts, whom it finds silent and whom it collects depends on the
records of its nodes, but never on their windows, nor on the scores that were
computed from them.  So two engines whose records differ in nothing but scores,
and in which of the three bands a scored node is, stay that way under the same
operations, and answer alike.
-/

namespace Headroom

/-- A record that differs from a node in nothing but its scores, and in its category only where
both categories are bands. -/
inductive Node.Resembles (node : Node) : Node → Prop where
  | intro (scores : Scores Float) (category : Category)
      (near : node.category = category ∨ node.category.Scored ∧ category.Scored) :
      Resembles node { node with scores := scores, category := category }

namespace Category

/-- Whatever the scores, both categories stay where they are or move into bands. -/
theorem near_next {thresholds : Thresholds Float} {left right : Category}
    (near : left = right ∨ left.Scored ∧ right.Scored) (leftScore rightScore : Float) :
    thresholds.next left leftScore = thresholds.next right rightScore ∨
      (thresholds.next left leftScore).Scored ∧ (thresholds.next right rightScore).Scored := by
  rcases near with rfl | ⟨leftScored, rightScored⟩
  · by_cases gone : left = .sundown
    · subst gone
      exact .inl rfl
    · exact .inr ⟨scored_next gone, scored_next gone⟩
  · exact .inr ⟨scored_next leftScored.ne_sundown, scored_next rightScored.ne_sundown⟩

end Category

namespace Node.Resembles

theorem refl (node : Node) : node.Resembles node := .intro node.scores node.category (.inl rfl)

variable {left right : Node} (resembles : left.Resembles right)

include resembles

theorem id : left.id = right.id := by cases resembles; rfl

theorem lastSampleAt : left.lastSampleAt = right.lastSampleAt := by cases resembles; rfl

theorem stale : left.stale = right.stale := by cases resembles; rfl

theorem near : left.category = right.category ∨
    left.category.Scored ∧ right.category.Scored := by
  cases resembles with
  | intro scores category near => exact near

theorem sundown_iff : left.category = .sundown ↔ right.category = .sundown := by
  rcases resembles.near with same | ⟨leftScored, rightScored⟩
  · rw [same]
  · exact iff_of_false leftScored.ne_sundown rightScored.ne_sundown

theorem isSilent (now timeout : Int64) :
    left.isSilent now timeout = right.isSilent now timeout := by
  have active : decide (left.category ≠ .sundown) = decide (right.category ≠ .sundown) :=
    decide_eq_decide.mpr (not_congr resembles.sundown_iff)
  have since : left.silentSince = right.silentSince := by cases resembles; rfl
  rw [Node.isSilent, Node.isSilent, active, since]

theorem isExpired (now retention : Int64) :
    left.isExpired now retention = right.isExpired now retention := by
  have gone : decide (left.category = .sundown) = decide (right.category = .sundown) :=
    decide_eq_decide.mpr resembles.sundown_iff
  have updated : left.lastUpdated = right.lastUpdated := by cases resembles; rfl
  rw [Node.isExpired, Node.isExpired, gone, updated]

theorem described (name : Option String) (container : Option Container) :
    (left.described name container).Resembles (right.described name container) := by
  cases resembles with
  | intro scores category near => exact .intro scores category near

theorem retired (now : Int64) : (left.retired now).Resembles (right.retired now) := by
  cases resembles with
  | intro scores category near => exact .intro scores .sundown (.inl rfl)

theorem flagged (flag : Bool) :
    ({ left with stale := flag } : Node).Resembles { right with stale := flag } := by
  cases resembles with
  | intro scores category near => exact .intro scores category near

theorem rescored (leftScores rightScores : Scores Float) :
    ({ left with scores := leftScores } : Node).Resembles { right with scores := rightScores } := by
  cases resembles with
  | intro scores category near => exact .intro rightScores category near

theorem observed (timestamp now : Int64) (leftScores rightScores : Scores Float)
    {leftCategory rightCategory : Category} (usage : Usage Float)
    (near : leftCategory = rightCategory ∨ leftCategory.Scored ∧ rightCategory.Scored) :
    (left.observed timestamp now leftScores leftCategory usage).Resembles
      (right.observed timestamp now rightScores rightCategory usage) := by
  cases resembles with
  | intro scores category _ => exact .intro rightScores rightCategory near

end Node.Resembles

section Lists

variable {α β : Type} {related : α → α → Prop} {lefts rights : List α}

/-- Lists with the same keys are related item by item if items with one key are. -/
theorem forall₂_of_keys {key : α → β} (sameKeys : lefts.map key = rights.map key)
    (pairs : ∀ left ∈ lefts, ∀ right ∈ rights, key left = key right → related left right) :
    List.Forall₂ related lefts rights := by
  induction lefts generalizing rights with
  | nil =>
    rw [List.map_eq_nil_iff.mp sameKeys.symm]
    exact .nil
  | cons head tail ih =>
    obtain ⟨other, others, rfl, sameHead, sameTail⟩ := List.map_eq_cons_iff.mp sameKeys.symm
    refine .cons (pairs _ List.mem_cons_self _ List.mem_cons_self sameHead.symm) (ih sameTail.symm ?_)
    exact fun left member right inside =>
      pairs left (List.mem_cons_of_mem _ member) right (List.mem_cons_of_mem _ inside)

theorem map_filter_eq {keep : α → Bool} {read : α → β}
    (pairs : List.Forall₂ related lefts rights)
    (sameKeep : ∀ left right, related left right → keep left = keep right)
    (sameRead : ∀ left right, related left right → read left = read right) :
    (lefts.filter keep).map read = (rights.filter keep).map read := by
  induction pairs with
  | nil => rfl
  | cons pair _ ih =>
    rw [List.filter_cons, List.filter_cons, sameKeep _ _ pair]
    split
    · rw [List.map_cons, List.map_cons, sameRead _ _ pair, ih]
    · exact ih

end Lists

namespace Registry

structure Resembles (left right : Registry) : Prop where
  soundLeft : left.Sound
  soundRight : right.Sound
  bounds : left.bounds = right.bounds
  nodes : ∀ id, Option.Rel Node.Resembles (left.get? id) (right.get? id)

namespace Resembles

variable {left right : Registry} (resembles : left.Resembles right)

include resembles

/-- Under an id there is no slot, or there are two with records that resemble each other. -/
theorem slots (id : String) :
    (left.slots.get? id = none ∧ right.slots.get? id = none) ∨
      ∃ leftSlot rightSlot, left.slots.get? id = some leftSlot ∧
        right.slots.get? id = some rightSlot ∧ leftSlot.node.Resembles rightSlot.node := by
  have related := resembles.nodes id
  rw [resembles.soundLeft.get?_eq, resembles.soundRight.get?_eq] at related
  cases foundLeft : left.slots.get? id <;> cases foundRight : right.slots.get? id <;>
    rw [foundLeft, foundRight] at related
  · exact .inl ⟨rfl, rfl⟩
  · cases related
  · cases related
  · cases related with
    | some related => exact .inr ⟨_, _, rfl, rfl, related⟩

theorem contains (id : String) : left.contains id = right.contains id := by
  rcases resembles.slots id with ⟨absentLeft, absentRight⟩ | ⟨_, _, foundLeft, foundRight, _⟩
  · rw [contains_eq_false absentLeft, contains_eq_false absentRight]
  · rw [contains_eq_true foundLeft, contains_eq_true foundRight]

/-- Registries that resemble each other list the same ids. -/
theorem map_id : left.nodes.map (·.id) = right.nodes.map (·.id) := by
  have sameMembers (id : String) : id ∈ left.slots.keys ↔ id ∈ right.slots.keys := by
    rw [Dictionary.mem_keys, Dictionary.mem_keys, ← Dictionary.contains_iff,
      ← Dictionary.contains_iff]
    exact Bool.eq_iff_iff.mp (resembles.contains id)
  have nodup (registry : Registry) : registry.slots.keys.Nodup :=
    registry.slots.keys_sorted.imp Dictionary.ne_of_less
  rw [resembles.soundLeft.map_id_nodes, resembles.soundRight.map_id_nodes]
  refine ((List.perm_ext_iff_of_nodup (nodup left) (nodup right)).mpr sameMembers).eq_of_pairwise
    (fun first second _ _ below above => ?_) left.slots.keys_sorted right.slots.keys_sorted
  exact absurd (below.trans above) (lt_irrefl _)

/-- The listings resemble each other record by record. -/
theorem forall₂_nodes : List.Forall₂ Node.Resembles left.nodes right.nodes := by
  refine forall₂_of_keys resembles.map_id fun node member other inside same => ?_
  have related := resembles.nodes node.id
  rw [resembles.soundLeft.mem_nodes.mp member, same, resembles.soundRight.mem_nodes.mp inside] at related
  cases related with
  | some related => exact related

theorem count : left.count = right.count := by
  rw [← resembles.soundLeft.length_nodes, ← resembles.soundRight.length_nodes]
  exact resembles.forall₂_nodes.length_eq

theorem capacity : left.capacity = right.capacity := congrArg Prod.snd resembles.bounds

theorem admits (id : String) : left.admits id = right.admits id := by
  simp only [Registry.admits, isFull, resembles.contains id, resembles.capacity, resembles.count]

/-- Both registries start an update of a node from records that resemble each other. -/
theorem seat (id : String) (name : Option String) (now : Int64) :
    (left.seat id name now).node.Resembles (right.seat id name now).node := by
  rcases resembles.slots id with
    ⟨absentLeft, absentRight⟩ | ⟨leftSlot, rightSlot, foundLeft, foundRight, related⟩
  · rw [Registry.seat, Registry.seat, absentLeft, absentRight]
    exact .refl _
  · rw [seat_tracked foundLeft, seat_tracked foundRight]
    exact related

theorem store {id : String} {leftSlot rightSlot : Slot}
    (leftSound : (left.store id leftSlot).Sound) (rightSound : (right.store id rightSlot).Sound)
    (related : leftSlot.node.Resembles rightSlot.node) :
    (left.store id leftSlot).Resembles (right.store id rightSlot) where
  soundLeft := leftSound
  soundRight := rightSound
  bounds := resembles.bounds
  nodes := fun other => by
    rw [resembles.soundLeft.get?_store leftSound, resembles.soundRight.get?_store rightSound]
    split
    · exact .some related
    · exact resembles.nodes other

omit resembles in
theorem collect_ids (sound : left.Sound) (now retention : Int64) :
    (left.collect now retention).2 =
      (left.nodes.filter fun node => node.isExpired now retention).map (·.id) := by
  rw [sound.nodes_eq, Registry.collect, Dictionary.keys, Dictionary.filter, Dictionary.values,
    List.map_map, List.filter_map, List.map_map]
  refine List.map_congr_left fun entry member => ?_
  exact (sound.keyed entry.1 entry.2
    (Dictionary.mem_entries.mp (List.mem_of_mem_filter member))).symm

/-- The same nodes expire in both registries, because no expiry depends on scores. -/
theorem collect (now retention : Int64) :
    (left.collect now retention).1.Resembles (right.collect now retention).1 where
  soundLeft := resembles.soundLeft.collect now retention
  soundRight := resembles.soundRight.collect now retention
  bounds := resembles.bounds
  nodes := fun id => by
    have related := resembles.nodes id
    rw [resembles.soundLeft.get?_collect, resembles.soundRight.get?_collect]
    generalize left.get? id = before at related ⊢
    generalize right.get? id = other at related ⊢
    cases related with
    | none => exact .none
    | some related =>
      rw [Option.filter_some, Option.filter_some, related.isExpired]
      split
      · exact .some related
      · exact .none

theorem flagSilent (now timeout : Int64) :
    (left.flagSilent now timeout).1.Resembles (right.flagSilent now timeout).1 where
  soundLeft := resembles.soundLeft.flagSilent now timeout
  soundRight := resembles.soundRight.flagSilent now timeout
  bounds := resembles.bounds
  nodes := fun id => by
    have related := resembles.nodes id
    rw [resembles.soundLeft.get?_flagSilent, resembles.soundRight.get?_flagSilent]
    generalize left.get? id = before at related ⊢
    generalize right.get? id = other at related ⊢
    cases related with
    | none => exact .none
    | some related =>
      rw [Option.map_some, Option.map_some, related.isSilent]
      exact .some (related.flagged _)

/-- Both registries find the same nodes silent. -/
theorem silence (now timeout : Int64) :
    (left.flagSilent now timeout).2 = (right.flagSilent now timeout).2 := by
  have pairs := resembles.forall₂_nodes
  have newlyStale := map_filter_eq pairs
    (fun _ _ related => congrArg₂ (fun silent stale => silent && !stale)
      (related.isSilent now timeout) related.stale) fun _ _ related => related.id
  have recovered := map_filter_eq pairs
    (fun _ _ related => congrArg₂ (fun silent stale => !silent && stale)
      (related.isSilent now timeout) related.stale) fun _ _ related => related.id
  have silent := map_filter_eq pairs (fun _ _ related => related.isSilent now timeout)
    fun _ _ related => related.id
  have staleTotal := congrArg List.length silent
  rw [List.length_map, List.length_map] at staleTotal
  rw [Registry.flagSilent, Registry.flagSilent]
  simp only [newlyStale, recovered, staleTotal]

end Resembles

end Registry

namespace Engine

structure Resembles (left right : Engine) : Prop where
  settings : left.settings = right.settings
  registry : left.registry.Resembles right.registry

/-- Two answers that differ in nothing but scores and bands, and where an operation reads the
history, the tally or the nodes of one category, in what it reads.  What a sweep collected may be
listed in another order, which is that of the table of nodes. -/
inductive Answer.Matches : Answer → Answer → Prop where
  | refused (refusal : Refusal) :
      Matches (.submitted (.error refusal)) (.submitted (.error refusal))
  | accepted {left right : Receipt} (id : left.id = right.id)
      (timestamp : left.timestamp = right.timestamp) (created : left.created = right.created) :
      Matches (.submitted (.ok left)) (.submitted (.ok right))
  | notRegistered (refusal : Refusal) :
      Matches (.registered (.error refusal)) (.registered (.error refusal))
  | registered {left right : Node} (node : left.Resembles right) (created : Bool) :
      Matches (.registered (.ok (left, created))) (.registered (.ok (right, created)))
  | unknown (error : UnknownNode) :
      Matches (.decommissioned (.error error)) (.decommissioned (.error error))
  | gone : Matches (.decommissioned (.ok none)) (.decommissioned (.ok none))
  | retired (left right : Transition) :
      Matches (.decommissioned (.ok (some left))) (.decommissioned (.ok (some right)))
  | unscored (error : UnknownNode) :
      Matches (.recomputed (.error error)) (.recomputed (.error error))
  | rescored (left right : Scores Float) :
      Matches (.recomputed (.ok left)) (.recomputed (.ok right))
  | swept {left right : Sweep} (collected : left.collected.Perm right.collected)
      (newlyStale : left.newlyStale = right.newlyStale)
      (staleTotal : left.staleTotal = right.staleTotal)
      (nodesTracked : left.nodesTracked = right.nodesTracked) :
      Matches (.swept left) (.swept right)
  | snapshot {left right : List Node} (takenAt : Int64)
      (nodes : List.Forall₂ Node.Resembles left right) :
      Matches (.snapshot ⟨takenAt, left⟩) (.snapshot ⟨takenAt, right⟩)
  | statistics (left right : Statistics) : Matches (.statistics left) (.statistics right)
  | record {left right : Option Node} (node : Option.Rel Node.Resembles left right) :
      Matches (.record left) (.record right)
  | records (left right : List Node) : Matches (.records left) (.records right)
  | changes (left right : List Transition) : Matches (.changes left) (.changes right)

namespace Resembles

variable {left right : Engine} (resembles : left.Resembles right)

include resembles

/-- Both engines refuse the same readings, for the same reasons. -/
theorem refusal? (now : Int64) (reading : Reading Float) :
    left.refusal? now reading = right.refusal? now reading := by
  have sameLast : (left.get? reading.id).bind (·.lastSampleAt) =
      (right.get? reading.id).bind (·.lastSampleAt) := by
    have related := resembles.registry.nodes reading.id
    rw [get?, get?]
    generalize left.registry.get? reading.id = before at related ⊢
    generalize right.registry.get? reading.id = other at related ⊢
    cases related with
    | none => rfl
    | some related => exact related.lastSampleAt
  simp only [Engine.refusal?, sameLast, resembles.registry.admits, resembles.registry.capacity]

theorem observed (now : Int64) (reading : Reading Float) :
    (left.observed now reading).node.Resembles (right.observed now reading).node := by
  have seats := resembles.registry.seat reading.id reading.name now
  rw [Engine.observed, Engine.observed, resembles.settings]
  exact (seats.observed _ _ _ _ _ (Category.near_next seats.near _ _)).described _ _

/-- Both engines answer a reading alike and stay alike. -/
theorem submit (now : Int64) (reading : Reading Float) :
    Resembles (left.submit now reading).1 (right.submit now reading).1 ∧
      Answer.Matches (.submitted (left.submit now reading).2)
        (.submitted (right.submit now reading).2) := by
  have soundLeft := resembles.registry.soundLeft
  have soundRight := resembles.registry.soundRight
  have sameRefusal := resembles.refusal? now reading
  cases refused : left.refusal? now reading with
  | some refusal =>
    rw [submit_refused soundLeft refused, submit_refused soundRight (sameRefusal ▸ refused)]
    exact ⟨⟨resembles.settings, resembles.registry⟩, .refused refusal⟩
  | none =>
    have afterLeft := (effect_act soundLeft ⟨now, .submit reading⟩).2.sound soundLeft
    have afterRight := (effect_act soundRight ⟨now, .submit reading⟩).2.sound soundRight
    simp only [act, perform, submit_accepted soundLeft refused, accepted,
      registry_noteAccepted] at afterLeft
    simp only [act, perform, submit_accepted soundRight (sameRefusal ▸ refused), accepted,
      registry_noteAccepted] at afterRight
    rw [submit_accepted soundLeft refused, submit_accepted soundRight (sameRefusal ▸ refused)]
    constructor
    · constructor
      · simpa [accepted] using resembles.settings
      · simpa [accepted] using
          resembles.registry.store afterLeft afterRight (resembles.observed now reading)
    · exact .accepted rfl rfl (congrArg not (resembles.registry.contains reading.id))

/-- Both engines find room for the same registrations. -/
theorem register (now : Int64) (request : Registration) :
    Resembles (left.register now request).1 (right.register now request).1 ∧
      Answer.Matches (.registered (left.register now request).2)
        (.registered (right.register now request).2) := by
  have soundLeft := resembles.registry.soundLeft
  have soundRight := resembles.registry.soundRight
  have sameRoom := resembles.registry.admits request.id
  cases unnamed : request.id.isEmpty with
  | true =>
    rw [register_unnamed unnamed, register_unnamed unnamed]
    exact ⟨resembles, .notRegistered _⟩
  | false =>
    cases room : left.registry.admits request.id with
    | false =>
      rw [register_full soundLeft unnamed room, register_full soundRight unnamed (sameRoom ▸ room),
        resembles.registry.capacity]
      exact ⟨resembles, .notRegistered _⟩
    | true =>
      have afterLeft := (effect_act soundLeft ⟨now, .register request⟩).2.sound soundLeft
      have afterRight := (effect_act soundRight ⟨now, .register request⟩).2.sound soundRight
      have related : (left.described now request).node.Resembles
          (right.described now request).node :=
        (resembles.registry.seat request.id request.name now).described _ _
      simp only [act, perform, register_admitted soundLeft unnamed room,
        registry_log] at afterLeft
      simp only [act, perform, register_admitted soundRight unnamed (sameRoom ▸ room),
        registry_log] at afterRight
      rw [register_admitted soundLeft unnamed room,
        register_admitted soundRight unnamed (sameRoom ▸ room)]
      constructor
      · exact ⟨resembles.settings, resembles.registry.store afterLeft afterRight related⟩
      · rw [resembles.registry.contains]
        exact .registered related _

/-- Both engines decommission the same nodes. -/
theorem decommission (now : Int64) (id : String) :
    Resembles (left.decommission now id).1 (right.decommission now id).1 ∧
      Answer.Matches (.decommissioned (left.decommission now id).2)
        (.decommissioned (right.decommission now id).2) := by
  have soundLeft := resembles.registry.soundLeft
  have soundRight := resembles.registry.soundRight
  rcases resembles.registry.slots id with
    ⟨absentLeft, absentRight⟩ | ⟨leftSlot, rightSlot, foundLeft, foundRight, related⟩
  · rw [decommission_absent soundLeft absentLeft, decommission_absent soundRight absentRight]
    exact ⟨resembles, .unknown _⟩
  · by_cases gone : leftSlot.node.category = .sundown
    · rw [decommission_again soundLeft foundLeft gone,
        decommission_again soundRight foundRight (related.sundown_iff.mp gone)]
      exact ⟨resembles, .gone⟩
    · have activeRight := mt related.sundown_iff.mpr gone
      rw [decommission_active soundLeft foundLeft gone,
        decommission_active soundRight foundRight activeRight]
      refine ⟨⟨resembles.settings, ?_⟩, .retired _ _⟩
      exact resembles.registry.store (soundLeft.replace foundLeft rfl rfl)
        (soundRight.replace foundRight rfl rfl) (related.retired now)

theorem recompute (id : String) :
    Resembles (left.recompute id).1 (right.recompute id).1 ∧
      Answer.Matches (.recomputed (left.recompute id).2) (.recomputed (right.recompute id).2) := by
  have soundLeft := resembles.registry.soundLeft
  have soundRight := resembles.registry.soundRight
  rcases resembles.registry.slots id with
    ⟨absentLeft, absentRight⟩ | ⟨_, _, foundLeft, foundRight, related⟩
  · rw [recompute_absent soundLeft absentLeft, recompute_absent soundRight absentRight]
    exact ⟨resembles, .unscored _⟩
  · rw [recompute_tracked soundLeft foundLeft, recompute_tracked soundRight foundRight]
    refine ⟨⟨resembles.settings, ?_⟩, .rescored _ _⟩
    exact resembles.registry.store (soundLeft.replace foundLeft rfl rfl)
      (soundRight.replace foundRight rfl rfl) (related.rescored _ _)

/-- Both engines collect and flag the same nodes. -/
theorem sweep (now : Int64) :
    Resembles (left.sweep now).1 (right.sweep now).1 ∧
      Answer.Matches (.swept (left.sweep now).2) (.swept (right.sweep now).2) := by
  have collected := resembles.registry.collect now right.settings.registry.sundownRetention
  have flagged := collected.flagSilent now right.settings.registry.silenceTimeout
  have silence := collected.silence now right.settings.registry.silenceTimeout
  have sameIds := map_filter_eq resembles.registry.forall₂_nodes
    (fun _ _ related => related.isExpired now right.settings.registry.sundownRetention)
    fun _ _ related => related.id
  constructor
  · refine ⟨by simpa using resembles.settings, ?_⟩
    simpa [swept, cleared, resembles.settings] using flagged
  · rw [sweep_report, sweep_report, cleared, cleared, swept, swept, cleared, cleared,
      resembles.settings]
    refine .swept ?_ (congrArg Silence.newlyStale silence) (congrArg Silence.staleTotal silence)
      flagged.forall₂_nodes.length_eq
    rw [Registry.Resembles.collect_ids resembles.registry.soundLeft,
      Registry.Resembles.collect_ids resembles.registry.soundRight, sameIds]

/-- Under the same operation, engines that resemble each other answer alike and still resemble
each other. -/
theorem perform (now : Int64) {operation : Operation}
    (noRestore : ∀ snapshot, operation ≠ .restore snapshot) :
    Resembles (left.perform now operation).1 (right.perform now operation).1 ∧
      Answer.Matches (left.perform now operation).2 (right.perform now operation).2 := by
  cases operation with
  | submit reading => exact resembles.submit now reading
  | register request => exact resembles.register now request
  | decommission id => exact resembles.decommission now id
  | recompute id => exact resembles.recompute id
  | sweep =>
    exact resembles.sweep now
  | restore snapshot => exact absurd rfl (noRestore snapshot)
  | snapshot =>
    exact ⟨⟨resembles.settings, resembles.registry⟩, .snapshot now resembles.registry.forall₂_nodes⟩
  | statistics => exact ⟨⟨resembles.settings, resembles.registry⟩, .statistics _ _⟩
  | get id => exact ⟨resembles, .record (resembles.registry.nodes id)⟩
  | list category => exact ⟨resembles, .records _ _⟩
  | transitions id limit => exact ⟨resembles, .changes _ _⟩

end Resembles

/-! ## Whole runs -/

inductive Outcome.Matches : Outcome → Outcome → Prop where
  | accepted {left right : Receipt} (id : left.id = right.id)
      (timestamp : left.timestamp = right.timestamp) (created : left.created = right.created) :
      Matches (.accepted left) (.accepted right)
  | rejected (id code error : String) : Matches (.rejected id code error) (.rejected id code error)

inductive Response.Matches : Response → Response → Prop where
  | single {left right : Answer} (answer : left.Matches right) :
      Matches (.single left) (.single right)
  | batch {left right : List Outcome} (outcomes : List.Forall₂ Outcome.Matches left right) :
      Matches (.batch left) (.batch right)

def responses (engine : Engine) : List Step → List Response
  | [] => []
  | step :: rest => (engine.execute step).2 :: (engine.execute step).1.responses rest

theorem outcome_matches (id : String) {left right : Except Refusal Receipt}
    (answers : Answer.Matches (.submitted left) (.submitted right)) :
    Outcome.Matches (outcome id left) (outcome id right) := by
  cases answers with
  | refused refusal => exact .rejected _ _ _
  | accepted id timestamp created => exact .accepted id timestamp created

namespace Resembles

theorem submitEach (readings : List (Int64 × Reading Float)) :
    ∀ {left right : Engine}, left.Resembles right →
      Resembles (left.submitEach readings).1 (right.submitEach readings).1 ∧
        List.Forall₂ Outcome.Matches (left.submitEach readings).2
          (right.submitEach readings).2 := by
  induction readings with
  | nil => exact fun resembles => ⟨resembles, .nil⟩
  | cons timed rest ih =>
    intro left right resembles
    obtain ⟨after, answers⟩ := resembles.submit timed.1 timed.2
    obtain ⟨last, outcomes⟩ := ih after
    exact ⟨last, .cons (outcome_matches timed.2.id answers) outcomes⟩

/-- Every step other than a restore is answered alike and leaves both engines alike. -/
theorem execute {left right : Engine} (resembles : left.Resembles right) {step : Step}
    (noRestore : ∀ snapshot, step.operation? ≠ some (.restore snapshot)) :
    Resembles (left.execute step).1 (right.execute step).1 ∧
      Response.Matches (left.execute step).2 (right.execute step).2 := by
  cases step with
  | single now operation =>
    obtain ⟨after, answers⟩ :=
      resembles.perform now fun snapshot same => noRestore snapshot (congrArg _ same)
    exact ⟨after, .single answers⟩
  | batch readings =>
    obtain ⟨after, outcomes⟩ := submitEach readings resembles
    exact ⟨after, .batch outcomes⟩

/-- Engines that resemble each other answer every sequence of steps alike. -/
theorem run (steps : List Step) :
    ∀ {left right : Engine}, left.Resembles right →
      (∀ step ∈ steps, ∀ snapshot, step.operation? ≠ some (.restore snapshot)) →
      (left.run steps).Resembles (right.run steps) ∧
        List.Forall₂ Response.Matches (left.responses steps) (right.responses steps) := by
  induction steps with
  | nil => exact fun resembles _ => ⟨resembles, .nil⟩
  | cons step rest ih =>
    intro left right resembles noRestore
    obtain ⟨after, response⟩ := resembles.execute (noRestore step List.mem_cons_self)
    obtain ⟨last, responses⟩ :=
      ih after fun later member => noRestore later (List.mem_cons_of_mem _ member)
    exact ⟨last, .cons response responses⟩

end Resembles

end Engine

end Headroom
