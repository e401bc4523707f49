import Headroom.Proofs.Engine.Ledger
import Headroom.Proofs.Engine.Trail

/-!
# The accounts balance

An engine counts what it does in several places: in its tally, in the metrics, and through the
nodes that it tracks.  All of them can be checked against the ledger, which holds only what was
answered.  The nodes balance by category: a node is in a category because it was created there
or a transition led it there, and it left by a transition or by being collected.
-/

namespace Headroom.Engine

def Entry.isCreation : Entry → Bool
  | accepted receipt => receipt.created
  | registered _ created => created
  | _ => false

def Entry.isRejected (code : RejectionCode) : Entry → Bool
  | rejected word => word == code.word
  | _ => false

def Entry.collections : Entry → List String
  | collected ids => ids
  | _ => []

def collectedOf (log : List Entry) : List String := log.flatMap Entry.collections

def arrivals (category : Category) (log : List Entry) : Nat :=
  (transitionsOf log).countP fun transition => transition.target = category

def departures (category : Category) (log : List Entry) : Nat :=
  (transitionsOf log).countP fun transition => transition.source = category

theorem arrivals_append (category : Category) (log added : List Entry) :
    arrivals category (log ++ added) = arrivals category log + arrivals category added := by
  rw [arrivals, transitionsOf_append, List.countP_append]
  rfl

theorem departures_append (category : Category) (log added : List Entry) :
    departures category (log ++ added) = departures category log + departures category added := by
  rw [departures, transitionsOf_append, List.countP_append]
  rfl

theorem collectedOf_append (log added : List Entry) :
    collectedOf (log ++ added) = collectedOf log ++ collectedOf added :=
  List.flatMap_append

end Headroom.Engine

namespace Headroom.Registry

def census (registry : Registry) (category : Category) : Nat :=
  (registry.slots.filter fun _ slot => slot.node.category = category).size

theorem Sound.length_filter_nodes {registry : Registry} (sound : registry.Sound)
    (category : Category) :
    (registry.nodes.filter fun node => node.category = category).length =
      registry.census category := by
  rw [sound.nodes_eq, Dictionary.values, List.map_map, List.filter_map, List.length_map]
  rfl

/-- Keeping one slot moves at most one node from its category to another one. -/
theorem census_store {registry : Registry} (sound : registry.Sound) (id : String) (slot : Slot)
    (category : Category) :
    (registry.store id slot).census category +
        (if Engine.category? registry id = some category then 1 else 0) =
      registry.census category + if slot.node.category = category then 1 else 0 := by
  have counted := Dictionary.size_filter_insert
    (fun _ (other : Slot) => decide (other.node.category = category)) registry.slots id slot
  have same : ((registry.slots.get? id).any fun other : Slot =>
      decide (other.node.category = category)) =
        decide (Engine.category? registry id = some category) := by
    rw [Engine.category?, sound.get?_eq]
    cases registry.slots.get? id <;> simp
  simp only [same, decide_eq_true_eq] at counted
  exact counted

end Headroom.Registry

namespace Headroom.Engine

theorem sundown_of_isExpired {node : Node} {now retention : Int64}
    (expired : node.isExpired now retention = true) : node.category = .sundown := by
  simp only [Node.isExpired, Bool.and_eq_true, decide_eq_true_eq] at expired
  exact expired.1

/-- Only decommissioned nodes expire, so the other categories keep all their nodes. -/
theorem countP_expired (now retention : Int64) (category : Category)
    (entries : List (String × Slot)) :
    (entries.countP fun entry =>
        decide (entry.2.node.category = category) && !entry.2.node.isExpired now retention) +
      (if category = .sundown then
        entries.countP fun entry => entry.2.node.isExpired now retention else 0) =
    entries.countP fun entry => entry.2.node.category = category := by
  induction entries with
  | nil => simp
  | cons entry rest ih =>
    rw [List.countP_cons, List.countP_cons, List.countP_cons, ← ih]
    cases expired : entry.2.node.isExpired now retention with
    | true =>
      rw [sundown_of_isExpired expired]
      by_cases gone : category = .sundown
      · simp [gone]
        omega
      · simp [gone, Ne.symm gone]
    | false =>
      simp only [Bool.not_false, Bool.and_true, Bool.false_eq_true, if_false, Nat.add_zero]
      omega

/-- A sweep takes nodes out of no category but the last one. -/
theorem census_swept {engine : Engine} (sound : engine.registry.Sound) (now : Int64)
    (category : Category) :
    (engine.swept now).census category +
        (if category = .sundown then
          (engine.registry.collect now engine.settings.registry.sundownRetention).2.length else 0) =
      engine.registry.census category := by
  rw [swept, Registry.census, (sound_cleared sound now).slots_flagSilent, Engine.cleared]
  simp only [Registry.collect, Registry.census, Dictionary.filter, Dictionary.map, Dictionary.size,
    Dictionary.keys, List.filter_map, List.length_map, ← List.countP_eq_length_filter,
    List.countP_filter]
  exact countP_expired now engine.settings.registry.sundownRetention category _

/-- The nodes of each category are those that were created in it or moved there and have neither
left it nor been collected. -/
def Balanced (registry : Registry) (log : List Entry) : Prop :=
  ∀ category, registry.census category + departures category log +
      (if category = .sundown then (collectedOf log).length else 0) =
    arrivals category log + if category = .initial then log.countP Entry.isCreation else 0

/-- A balance stays one as long as nodes and ledger change together. -/
theorem Balanced.append {registry changed : Registry} {log added : List Entry}
    (balanced : Balanced registry log)
    (change : ∀ category, changed.census category + departures category added +
        (if category = .sundown then (collectedOf added).length else 0) =
      registry.census category + arrivals category added +
        if category = .initial then added.countP Entry.isCreation else 0) :
    Balanced changed (log ++ added) := by
  intro category
  have before := balanced category
  have after := change category
  rw [arrivals_append, departures_append, collectedOf_append, List.countP_append,
    List.length_append]
  split_ifs at before after ⊢ <;> omega

/-- A node that enters or moves keeps the balance if its transition is in the ledger. -/
theorem Balanced.store {registry : Registry} {log added : List Entry}
    (balanced : Balanced registry log) (sound : registry.Sound) {id : String} {slot : Slot}
    (made : Option Transition) (returned : transitionsOf added = made.toList)
    (uncollected : collectedOf added = [])
    (created : added.countP Entry.isCreation = if (category? registry id).isSome then 0 else 1)
    (moves : made.map Transition.change =
      if slot.node.category = (category? registry id).getD .initial then none
      else some ⟨id, (category? registry id).getD .initial, slot.node.category⟩) :
    Balanced (registry.store id slot) (log ++ added) := by
  refine balanced.append fun category => ?_
  have stored := Registry.census_store sound id slot category
  -- A node that is new counts as created where it is about to stand.
  have entered : (if category? registry id = some category then 1 else 0) +
      (if category = .initial then added.countP Entry.isCreation else 0) =
        if (category? registry id).getD .initial = category then 1 else 0 := by
    rw [created]
    cases category? registry id <;> simp [eq_comm]
  rw [arrivals, departures, returned, uncollected]
  split at moves
  · rename_i stays
    rw [Option.map_eq_none_iff.mp moves]
    rw [stays] at stored
    simp only [Option.toList_none, List.countP_nil, List.length_nil, ite_self]
    omega
  · obtain ⟨transition, rfl, change⟩ := Option.map_eq_some_iff.mp moves
    have source : transition.source = (category? registry id).getD .initial :=
      congrArg Change.source change
    have target : transition.target = slot.node.category := congrArg Change.target change
    simp only [Option.toList_some, List.countP_singleton, source, target, decide_eq_true_eq,
      List.length_nil, ite_self]
    omega

section Categories

variable {registry : Registry} (sound : registry.Sound) (id : String)

include sound

theorem isSome_category? : (category? registry id).isSome = registry.contains id := by
  rw [category?, sound.get?_eq, Registry.contains, Dictionary.contains]
  cases registry.slots.get? id <;> rfl

theorem category?_tracked {slot : Slot} (found : registry.slots.get? id = some slot) :
    category? registry id = some slot.node.category := by
  rw [category?, sound.get?_tracked found]
  rfl

end Categories

section Turn

variable {engine : Engine} {log added : List Entry} {now : Int64} {registry : Registry}
variable {tally : Tally} {table : PerCategory (PerCategory UInt64)}

/-- Every turn keeps the balance. -/
theorem balanced_turn (sound : engine.registry.Sound)
    (turn : Turn engine now added registry tally table) (balanced : Balanced engine.registry log) :
    Balanced registry (log ++ added) := by
  cases turn with
  | nothing => rwa [List.append_nil]
  | @refused refusal => exact balanced.append fun category => by cases category <;> rfl
  | @accepted reading isAccepted =>
    refine balanced.store sound (engine.receiptFor now reading).transition
      (transitionsOf_accepted _) rfl ?_ (change_receiptFor sound now reading)
    rw [isSome_category? sound]
    cases tracked : engine.registry.contains reading.id <;>
      simp [Entry.isCreation, receiptFor, tracked]
  | @registered request room =>
    refine balanced.store sound none rfl rfl ?_ ?_
    · rw [isSome_category? sound]
      cases engine.registry.contains request.id <;> simp [Entry.isCreation]
    · exact (if_pos (category_described sound now request)).symm
  | @retired id slot found active =>
    have tracked := category?_tracked sound id found
    refine balanced.store sound (some (farewell slot id now)) rfl rfl ?_ ?_
    · rw [tracked]
      rfl
    · have moves : ¬ Category.sundown = slot.node.category := fun same => active same.symm
      rw [tracked]
      exact (if_neg moves).symm
  | @rescored id slot found =>
    have tracked := category?_tracked sound id found
    refine balanced.store sound none rfl rfl ?_ ?_
    · rw [tracked]
      rfl
    · rw [tracked]
      exact (if_pos rfl).symm
  | @swept ids expired =>
    refine balanced.append fun category => ?_
    have cleared := census_swept sound now category
    have gone : collectedOf [.collected ids] = ids := List.append_nil ids
    rw [← expired] at cleared
    rw [gone, ← cleared]
    cases category <;> rfl

end Turn

/-! ## The counters -/

/-- No returned transition leads out of the last category or into the first one. -/
def Onward (log : List Entry) : Prop :=
  ∀ transition ∈ transitionsOf log, transition.source ≠ .sundown ∧ transition.target ≠ .initial

/-- The counters are the counts of the ledger, in 64 bits.  The table of transitions may have
counted others already, because it is kept for all engines together. -/
structure Tallied (already : PerCategory (PerCategory UInt64)) (tally : Tally)
    (table : PerCategory (PerCategory UInt64)) (log : List Entry) : Prop where
  accepted : tally.accepted = .ofNat (log.countP Entry.isAccepted)
  rejected : ∀ code, tally.rejected.get code = .ofNat (log.countP (Entry.isRejected code))
  transitions : tally.transitions = .ofNat (transitionsOf log).length
  collected : tally.collected = .ofNat (collectedOf log).length
  moves : ∀ source target, (table.get source).get target = (already.get source).get target +
    .ofNat ((transitionsOf log).countP fun transition =>
      transition.source = source ∧ transition.target = target)
  answered : log.countP Entry.isAccepted +
    (RejectionCode.all.map fun code => log.countP (Entry.isRejected code)).sum =
      log.countP Entry.isReading

/-- A transition is counted where it came from and where it led. -/
theorem get_moved (table : PerCategory (PerCategory UInt64)) (transition : Transition)
    (source target : Category) :
    ((moved table transition).get source).get target =
      (table.get source).get target + .ofNat ([transition].countP fun transition =>
        transition.source = source ∧ transition.target = target) := by
  simp only [moved, PerCategory.get_modify, List.countP_singleton, eq_comm (a := source)]
  by_cases out : transition.source = source
  · by_cases into : transition.target = target <;> simp [out, into, eq_comm (a := target)]
  · simp [out]

theorem word_eq_word (code other : RejectionCode) :
    (code.word == other.word) = decide (code = other) := by
  cases code <;> cases other <;> decide +kernel

/-- What is counted is added to the ledger, and nothing else is. -/
theorem Tallied.append {already table changed : PerCategory (PerCategory UInt64)}
    {before after : Tally} {log added : List Entry} (tallied : Tallied already before table log)
    (accepted : after.accepted = before.accepted + .ofNat (added.countP Entry.isAccepted))
    (rejected : ∀ code, after.rejected.get code =
      before.rejected.get code + .ofNat (added.countP (Entry.isRejected code)))
    (transitions : after.transitions = before.transitions + .ofNat (transitionsOf added).length)
    (collected : after.collected = before.collected + .ofNat (collectedOf added).length)
    (moves : ∀ source target, (changed.get source).get target =
      (table.get source).get target + .ofNat ((transitionsOf added).countP fun transition =>
        transition.source = source ∧ transition.target = target))
    (answered : added.countP Entry.isAccepted +
      (RejectionCode.all.map fun code => added.countP (Entry.isRejected code)).sum =
        added.countP Entry.isReading) :
    Tallied already after changed (log ++ added) where
  accepted := by rw [accepted, tallied.accepted, List.countP_append, UInt64.ofNat_add]
  rejected := fun code => by
    rw [rejected, tallied.rejected, List.countP_append, UInt64.ofNat_add]
  transitions := by
    rw [transitions, tallied.transitions, transitionsOf_append, List.length_append,
      UInt64.ofNat_add]
  collected := by
    rw [collected, tallied.collected, collectedOf_append, List.length_append, UInt64.ofNat_add]
  moves := fun source target => by
    rw [moves, tallied.moves, transitionsOf_append, List.countP_append, UInt64.ofNat_add,
      UInt64.add_assoc]
  answered := by
    have before := tallied.answered
    simp only [RejectionCode.all, List.map_cons, List.map_nil, List.sum_cons, List.sum_nil,
      List.countP_append] at before answered ⊢
    omega

section Turn

variable {engine : Engine} {log added : List Entry} {now : Int64} {registry : Registry}
variable {tally : Tally} {table : PerCategory (PerCategory UInt64)}

/-- No turn leads out of the last category or back into the first one. -/
theorem onward_turn (turn : Turn engine now added registry tally table) (onward : Onward log) :
    Onward (log ++ added) := by
  intro transition member
  rw [transitionsOf_append] at member
  rcases List.mem_append.mp member with before | returned
  · exact onward transition before
  cases turn with
  | @accepted reading isAccepted =>
    have made : (engine.receiptFor now reading).transition = some transition := by
      rwa [transitionsOf_accepted, Option.mem_toList] at returned
    obtain ⟨moves, rfl⟩ := Transition.ofScore?_eq_some.mp made
    exact ⟨fun gone => moves ((Thresholds.next_eq_sundown.mpr gone).trans gone.symm),
      Thresholds.next_ne_initial⟩
  | @retired id slot found active =>
    cases List.mem_singleton.mp returned
    exact ⟨active, fun same => by cases same⟩
  | _ => cases returned

/-- Every turn is counted where it is entered in the ledger. -/
theorem tallied_turn {already : PerCategory (PerCategory UInt64)}
    (turn : Turn engine now added registry tally table)
    (tallied : Tallied already engine.tally engine.metrics.transitions log) :
    Tallied already tally table (log ++ added) := by
  have none (count : UInt64) : count = count + .ofNat 0 := (UInt64.add_zero _).symm
  cases turn with
  | nothing => rwa [List.append_nil]
  | @refused refusal =>
    refine tallied.append (none _) (fun code => ?_) (none _) (none _) (fun _ _ => none _) ?_
    · have counted : [Entry.rejected refusal.code.word].countP (Entry.isRejected code) =
          if code = refusal.code then 1 else 0 := by
        simp [Entry.isRejected, word_eq_word, eq_comm]
      rw [Rejections.get_count, counted]
      split
      · rfl
      · exact none _
    · simp only [Entry.isRejected, List.countP_singleton, word_eq_word]
      cases refusal.code <;> rfl
  | @accepted reading isAccepted =>
    refine tallied.append rfl (fun _ => none _) ?_ (none _) (fun source target => ?_) rfl
    · rw [transitionsOf_accepted]
      cases (engine.receiptFor now reading).transition <;> rfl
    · rw [transitionsOf_accepted]
      cases (engine.receiptFor now reading).transition with
      | none => exact none _
      | some transition => exact get_moved _ transition source target
  | @registered request room =>
    exact tallied.append (none _) (fun _ => none _) (none _) (none _) (fun _ _ => none _) rfl
  | @retired id slot found active =>
    exact tallied.append (none _) (fun _ => none _) rfl (none _) (get_moved _ _) rfl
  | @rescored id slot found => rwa [List.append_nil]
  | @swept ids expired =>
    refine tallied.append (none _) (fun _ => none _) (none _) ?_ (fun _ _ => none _) rfl
    rw [collectedOf, List.flatMap_singleton]
    rfl

end Turn

/-! ## Sums over the categories -/

/-- Every element has one category. -/
theorem sum_countP_category {α : Type} (category : α → Category) (elements : List α) :
    (Category.all.map fun each => elements.countP fun element => category element = each).sum =
      elements.length := by
  induction elements with
  | nil => rfl
  | cons element rest ih =>
    rw [List.length_cons, ← ih]
    simp only [Category.all, List.map_cons, List.map_nil, List.sum_cons, List.sum_nil,
      List.countP_cons, decide_eq_true_eq]
    cases category element <;> simp <;> omega

theorem sum_ofNat (counts : List Nat) :
    (counts.map UInt64.ofNat).sum = .ofNat counts.sum := by
  induction counts with
  | nil => rfl
  | cons count rest ih => rw [List.map_cons, List.sum_cons, ih, List.sum_cons, UInt64.ofNat_add]

theorem sum_add {α : Type} (elements : List α) (first second : α → UInt64) :
    (elements.map fun element => first element + second element).sum =
      (elements.map first).sum + (elements.map second).sum := by
  induction elements with
  | nil => rfl
  | cons element rest ih =>
    simp only [List.map_cons, List.sum_cons, ih]
    ac_rfl

section Sums

variable {already table : PerCategory (PerCategory UInt64)} {tally : Tally} {log : List Entry}
  (tallied : Tallied already tally table log) (category : Category)

include tallied

/-- The column of a category in the table of transitions grows by its arrivals. -/
theorem Tallied.sum_column :
    (Category.all.map fun source => (table.get source).get category).sum =
      (Category.all.map fun source => (already.get source).get category).sum +
        .ofNat (arrivals category log) := by
  rw [arrivals, List.countP_eq_length_filter, ← sum_countP_category Transition.source,
    ← sum_ofNat, List.map_map, ← sum_add]
  refine congrArg List.sum (List.map_congr_left fun source _ => ?_)
  rw [tallied.moves, Function.comp_apply, List.countP_filter]
  simp

/-- The row of a category in the table of transitions grows by its departures. -/
theorem Tallied.sum_row :
    (Category.all.map fun target => (table.get category).get target).sum =
      (Category.all.map fun target => (already.get category).get target).sum +
        .ofNat (departures category log) := by
  rw [departures, List.countP_eq_length_filter, ← sum_countP_category Transition.target,
    ← sum_ofNat, List.map_map, ← sum_add]
  refine congrArg List.sum (List.map_congr_left fun target _ => ?_)
  rw [tallied.moves, Function.comp_apply, List.countP_filter]
  simp [Bool.and_comm]

end Sums

theorem sum_census {registry : Registry} (sound : registry.Sound) :
    (Category.all.map registry.census).sum = registry.nodes.length := by
  rw [← sum_countP_category Node.category]
  refine congrArg List.sum (List.map_congr_left fun category _ => ?_)
  rw [← sound.length_filter_nodes, List.countP_eq_length_filter]

end Headroom.Engine

namespace Headroom

theorem PerCategory.get?_toDictionary {β : Type} (table : PerCategory β) (category : Category) :
    table.toDictionary.get? category = some (table.get category) := by
  cases category <;> rfl

theorem Rejections.entries_toDictionary (rejections : Rejections) :
    rejections.toDictionary.entries =
      [("invalid_value", rejections.invalidValue), ("registry_full", rejections.registryFull),
        ("stale_sample", rejections.staleSample)] := by
  have staleAfter : "invalid_value" < "stale_sample" ∧ ¬ "stale_sample" < "invalid_value" := by
    decide
  have fullBetween : "invalid_value" < "registry_full" ∧ ¬ "registry_full" < "invalid_value" ∧
      "registry_full" < "stale_sample" := by
    decide
  simp [toDictionary, RejectionCode.all, RejectionCode.word, get, Dictionary.ofList,
    Dictionary.insert, Dictionary.empty, Dictionary.place, staleAfter, fullBetween]

theorem Rejections.get?_toDictionary (rejections : Rejections) (code : RejectionCode) :
    rejections.toDictionary.get? code.word = some (rejections.get code) := by
  rw [Dictionary.get?, entries_toDictionary]
  cases code <;> simp [Dictionary.lookup, RejectionCode.word, get]

theorem Rejections.sum_toDictionary (rejections : Rejections) :
    rejections.toDictionary.values.sum = (RejectionCode.all.map rejections.get).sum := by
  rw [Dictionary.values, entries_toDictionary]
  simp only [RejectionCode.all, List.map_cons, List.map_nil, List.sum_cons, List.sum_nil, get]
  rw [UInt64.add_zero, UInt64.add_zero, UInt64.add_comm rejections.registryFull]

namespace Engine

/-- What an engine reports agrees with its ledger, the table of transitions has grown by what was
returned, and the nodes that the engine tracks are those that were created and not collected,
category by category. -/
structure Reconciled (already : Metrics) (engine : Engine) (statistics : Statistics)
    (log : List Entry) (handed : Nat) : Prop where
  accepted : statistics.samplesAccepted = .ofNat (log.countP Entry.isAccepted)
  rejected : ∀ code : RejectionCode, statistics.samplesRejected.get? code.word =
    some (.ofNat (log.countP (Entry.isRejected code)))
  answered : log.countP Entry.isAccepted +
    (RejectionCode.all.map fun code => log.countP (Entry.isRejected code)).sum = handed
  samples : statistics.samplesAccepted + statistics.samplesRejected.values.sum = .ofNat handed
  transitions : statistics.transitions = .ofNat (transitionsOf log).length
  collected : statistics.nodesCollected = .ofNat (collectedOf log).length
  present : engine.registry.nodes.length + (collectedOf log).length = log.countP Entry.isCreation
  tracked : statistics.nodesTracked = .ofNat engine.registry.nodes.length
  remaining : statistics.nodesTracked =
    .ofNat (log.countP Entry.isCreation) - statistics.nodesCollected
  summed : statistics.nodesTracked = statistics.nodesByCategory.values.sum
  moves : ∀ source target, (engine.metrics.transitions.get source).get target =
    (already.transitions.get source).get target +
      .ofNat ((transitionsOf log).countP fun transition =>
        transition.source = source ∧ transition.target = target)
  columns : ∀ category,
    (Category.all.map fun source => (engine.metrics.transitions.get source).get category).sum =
      (Category.all.map fun source => (already.transitions.get source).get category).sum +
        .ofNat (arrivals category log)
  rows : ∀ category,
    (Category.all.map fun target => (engine.metrics.transitions.get category).get target).sum =
      (Category.all.map fun target => (already.transitions.get category).get target).sum +
        .ofNat (departures category log)
  listed : ∀ category, statistics.nodesByCategory.get? category =
    some (.ofNat (engine.list (some category)).length)
  scored : ∀ category : Category, category.Scored →
    (engine.list (some category)).length + departures category log = arrivals category log
  retired : (engine.list (some .sundown)).length + (collectedOf log).length =
    arrivals .sundown log
  waiting : (engine.list (some .initial)).length + departures .initial log =
    log.countP Entry.isCreation

/-- What was accepted and what was refused is what was handed in. -/
theorem Tallied.samples {already table : PerCategory (PerCategory UInt64)} {tally : Tally}
    {log : List Entry} (tallied : Tallied already tally table log) :
    tally.accepted + tally.rejected.toDictionary.values.sum =
      .ofNat (log.countP Entry.isReading) := by
  have codes : tally.rejected.get =
      UInt64.ofNat ∘ fun code => log.countP (Entry.isRejected code) :=
    funext tallied.rejected
  rw [Rejections.sum_toDictionary, codes, ← List.map_map, sum_ofNat, tallied.accepted,
    ← UInt64.ofNat_add, tallied.answered]

/-- The statistics count the nodes of every category, none left out. -/
theorem get?_nodesByCategory (engine : Engine) (now : Int64) (category : Category) :
    (engine.statistics now).2.nodesByCategory.get? category =
      some (.ofNat (engine.list (some category)).length) := by
  change ((engine.view now).countByCategory.toDictionary.map
    fun _ count => UInt64.ofNat count).get? category = _
  rw [Dictionary.get?_map, PerCategory.get?_toDictionary, Snapshot.countByCategory,
    PerCategory.get_ofFunction]
  rfl

theorem Onward.arrivals_initial {log : List Entry} (onward : Onward log) :
    arrivals .initial log = 0 :=
  List.countP_eq_zero.mpr fun transition member => by simpa using (onward transition member).2

theorem Onward.departures_sundown {log : List Entry} (onward : Onward log) :
    departures .sundown log = 0 :=
  List.countP_eq_zero.mpr fun transition member => by simpa using (onward transition member).1

/-- Every transition has a source and a target, so the balances of all categories add up. -/
theorem Balanced.length_nodes {registry : Registry} {log : List Entry}
    (balanced : Balanced registry log) (sound : registry.Sound) :
    registry.nodes.length + (collectedOf log).length = log.countP Entry.isCreation := by
  have left : (Category.all.map fun category => departures category log).sum =
      (transitionsOf log).length := sum_countP_category Transition.source _
  have entered : (Category.all.map fun category => arrivals category log).sum =
      (transitionsOf log).length := sum_countP_category Transition.target _
  have present := sum_census sound
  have initial := balanced .initial
  have low := balanced .low
  have medium := balanced .medium
  have high := balanced .high
  have sundown := balanced .sundown
  simp only [Category.all, List.map_cons, List.map_nil, List.sum_cons, List.sum_nil]
    at left entered present
  simp only [reduceCtorEq, if_true, if_false] at initial low medium high sundown
  omega

/-- A balance, right counters and transitions that lead onward give all that is reported. -/
theorem reconciled {already : Metrics} {engine : Engine} {log : List Entry} {now : Int64}
    (sound : engine.registry.Sound) (balanced : Balanced engine.registry log)
    (tallied : Tallied already.transitions engine.tally engine.metrics.transitions log)
    (onward : Onward log) :
    Reconciled already engine (engine.statistics now).2 log (log.countP Entry.isReading) := by
  have listed (category : Category) :
      (engine.list (some category)).length = engine.registry.census category :=
    sound.length_filter_nodes category
  have present := balanced.length_nodes sound
  exact {
    accepted := tallied.accepted
    rejected := fun code => by
      rw [← tallied.rejected]
      exact engine.tally.rejected.get?_toDictionary code
    answered := tallied.answered
    samples := tallied.samples
    transitions := tallied.transitions
    collected := tallied.collected
    present := present
    tracked := rfl
    remaining := by
      change UInt64.ofNat engine.registry.nodes.length = _ - engine.tally.collected
      rw [← present, tallied.collected, UInt64.ofNat_add, UInt64.add_sub_cancel]
    summed := by
      change UInt64.ofNat engine.registry.nodes.length =
        ((Category.all.map fun category => (engine.list (some category)).length).map
          UInt64.ofNat).sum
      rw [sum_ofNat, funext listed, sum_census sound]
    moves := tallied.moves
    columns := tallied.sum_column
    rows := tallied.sum_row
    listed := get?_nodesByCategory engine now
    scored := fun category scored => by
      rw [listed]
      have balance := balanced category
      have started : category ≠ .initial := scored.ne_initial
      have present : category ≠ .sundown := scored.ne_sundown
      rw [if_neg started, if_neg present] at balance
      omega
    retired := by
      rw [listed]
      have balance := balanced .sundown
      simpa [onward.departures_sundown] using balance
    waiting := by
      rw [listed]
      have balance := balanced .initial
      simpa [onward.arrivals_initial] using balance }

/-- After every run without a restore the accounts are balanced, whatever the metrics of the
process have counted before. -/
theorem run_accounts (settings : Settings Float) (name : String) (already : Metrics)
    (steps : List Step) (now : Int64)
    (noRestore : ∀ step ∈ steps, ∀ snapshot, step.operation? ≠ some (.restore snapshot)) :
    let first := { fresh settings name with metrics := already }
    let engine := first.run steps
    Reconciled already engine (engine.statistics now).2 (first.entries steps)
      (steps.flatMap Step.readings).length := by
  intro first engine
  have started : first.Sound :=
    have sound := sound_fresh settings name
    ⟨sound.registry, sound.bounds, sound.capacity, sound.named⟩
  have sound : engine.registry.Sound := (started.run steps).registry
  have balanced : Balanced engine.registry (first.entries steps) :=
    run_induction (p := fun engine log => Balanced engine.registry log) started noRestore
      (fun category => by cases category <;> rfl)
      fun _ _ _ sound turn => balanced_turn sound.registry turn
  have tallied : Tallied already.transitions engine.tally engine.metrics.transitions
      (first.entries steps) :=
    run_induction
      (p := fun engine log =>
        Tallied already.transitions engine.tally engine.metrics.transitions log)
      started noRestore
      ⟨rfl, fun code => by cases code <;> rfl, rfl, rfl,
        fun source target => (UInt64.add_zero _).symm, rfl⟩
      fun _ _ _ _ => tallied_turn
  have onward : Onward (first.entries steps) :=
    run_induction (p := fun _ log => Onward log) started noRestore
      (fun _ member => by cases member) fun _ _ _ _ => onward_turn
  rw [← countP_entries steps first]
  exact reconciled sound balanced tallied onward

/-- Of two nodes that report and a reading without an id, one node is left after the other was
decommissioned and collected, in a process whose table of transitions stood at seven. -/
theorem run_accounts_collected :
    let already : Metrics := { Metrics.zero with transitions := .uniform (.uniform 7) }
    let steps : List Step :=
      [.batch [(0, .loaded "a" none 1.0), (0, .loaded "" none 0.5), (1, .loaded "b" none 0.5)],
        .single 1 (.decommission "a"), .single 1000000000 .sweep]
    let first := { fresh .default "engine" with metrics := already }
    let engine := first.run steps
    let statistics := (engine.statistics 1000000000).2
    statistics.samplesAccepted + statistics.samplesRejected.values.sum = 3 ∧
      statistics.nodesCollected = 1 ∧ statistics.nodesTracked = 1 ∧
        statistics.transitions = 3 ∧ (engine.metrics.transitions.get .initial).get .high = 8 := by
  intro already steps first engine statistics
  have noRestore : ∀ step ∈ steps, ∀ snapshot, step.operation? ≠ some (.restore snapshot) := by
    simp [steps]
  have reconciled := run_accounts .default "engine" already steps 1000000000 noRestore
  have counts : let log := first.entries steps
      log.countP Entry.isCreation = 2 ∧ (collectedOf log).length = 1 ∧
        (transitionsOf log).length = 3 ∧ (transitionsOf log).countP (fun transition =>
          transition.source = .initial ∧ transition.target = .high) = 1 := by
    decide +kernel
  obtain ⟨created, collected, transitions, risen⟩ := counts
  have one : statistics.nodesCollected = 1 := by
    rw [reconciled.collected, collected]
    rfl
  refine ⟨reconciled.samples, one, ?_, ?_, ?_⟩
  · rw [reconciled.remaining, created, one]
    rfl
  · rw [reconciled.transitions, transitions]
    rfl
  · rw [reconciled.moves, risen]
    rfl

end Engine

end Headroom
