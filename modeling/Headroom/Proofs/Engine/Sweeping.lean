import Headroom.Proofs.Engine.Retention

/-!
# What a sweep does

A sweep works in two passes: it collects the nodes that expired, then it sets the flags of the
nodes that are left.  The totals that it reports are taken between and after the passes, and
they agree with what the engine shows once it is over.  The passes do not undo each other: a
sweep that follows at the same time finds nothing to do.
-/

namespace Headroom

namespace Registry

variable {registry : Registry} {now : Int64}

/-- Where nothing has expired, nothing is collected. -/
theorem collect_of_lasting {retention : Int64}
    (lasting : ∀ id slot, registry.slots.get? id = some slot →
      slot.node.isExpired now retention = false) :
    registry.collect now retention = (registry, []) := by
  have kept : registry.slots.filter (fun _ slot => !slot.node.isExpired now retention) =
      registry.slots := by
    refine Dictionary.ext_get? fun id => ?_
    rw [Dictionary.get?_filter]
    cases found : registry.slots.get? id with
    | none => rfl
    | some slot => rw [Option.filter_some, lasting id slot found, Bool.not_false, if_pos rfl]
  have expired : (registry.slots.filter fun _ slot => slot.node.isExpired now retention) =
      .empty := by
    refine Dictionary.ext_get? fun id => ?_
    rw [Dictionary.get?_filter, Dictionary.get?_empty, Option.filter_eq_none_iff]
    intro slot found
    simp [lasting id slot found]
  rw [collect, kept, expired]
  rfl

namespace Sound

variable (sound : registry.Sound)

include sound

/-- The listing after the flags were set. -/
theorem nodes_flagSilent (timeout : Int64) :
    (registry.flagSilent now timeout).1.nodes = registry.nodes.map fun node =>
      { node with stale := node.isSilent now timeout } := by
  rw [(sound.flagSilent now timeout).nodes_eq, sound.nodes_eq, sound.slots_flagSilent]
  simp only [Dictionary.values, Dictionary.map, List.map_map]
  rfl

/-- Where the flags are right, setting them changes nothing. -/
theorem flagSilent_of_settled {timeout : Int64}
    (settled : ∀ id slot, registry.slots.get? id = some slot →
      slot.node.stale = slot.node.isSilent now timeout) :
    (registry.flagSilent now timeout).1 = registry := by
  have kept : (registry.flagSilent now timeout).1.slots = registry.slots := by
    rw [sound.slots_flagSilent]
    refine Dictionary.ext_get? fun id => ?_
    rw [Dictionary.get?_map]
    cases found : registry.slots.get? id with
    | none => rfl
    | some slot => rw [Option.map_some, ← settled id slot found]
  exact congrArg (fun slots => { registry with slots := slots }) kept

end Sound

end Registry

theorem Sweep.eq_mk {sweep : Sweep} {collected newlyStale : List String}
    {staleTotal nodesTracked : Nat} (sameCollected : sweep.collected = collected)
    (sameStale : sweep.newlyStale = newlyStale) (sameTotal : sweep.staleTotal = staleTotal)
    (sameTracked : sweep.nodesTracked = nodesTracked) :
    sweep = ⟨collected, newlyStale, staleTotal, nodesTracked⟩ := by
  subst sameCollected sameStale sameTotal sameTracked
  rfl

namespace Engine

/-- What there is to say of a sweep: the engines before and after it, and its report. -/
structure SweptAt (settings : Settings Float) (now : Int64) (before after : Engine)
    (report : Sweep) : Prop where
  collected : ∀ id, id ∈ report.collected ↔ ∃ node, before.get? id = some node ∧
    node.category = .sundown ∧
    settings.registry.sundownRetention ≤ Time.elapsed now node.lastUpdated
  once : report.collected.Nodup
  gone : ∀ id, after.get? id = none ↔ before.get? id = none ∨ id ∈ report.collected
  /-- A record that is left differs in its flag at most, and its window does not differ. -/
  remaining : ∀ id node, after.get? id = some node → ∃ kept, before.get? id = some kept ∧
    node = { kept with stale := node.stale } ∧
    (node.stale = true ↔ kept.category ≠ .sundown ∧
      settings.registry.silenceTimeout ≤
        Time.elapsed now (kept.lastSampleAt.getD kept.createdAt)) ∧
    after.registry.window? id = before.registry.window? id
  newlyStale : ∀ id, id ∈ report.newlyStale ↔ ∃ kept node, before.get? id = some kept ∧
    after.get? id = some node ∧ kept.stale = false ∧ node.stale = true
  ascending : report.newlyStale.Pairwise (· < ·)
  disjoint : ∀ id ∈ report.newlyStale, id ∉ report.collected
  totals : report.staleTotal = ((after.list none).filter (·.stale)).length ∧
    report.nodesTracked = (after.list none).length
  statistics : ∀ time, (after.statistics time).2.staleNodes = .ofNat report.staleTotal ∧
    (after.statistics time).2.nodesTracked = .ofNat report.nodesTracked
  gauges : after.metrics.nodesStale = report.staleTotal ∧
    after.metrics.nodesTracked = report.nodesTracked
  /-- The table of nodes has no order of its own.  In whichever it is scanned, the same nodes are
  collected, -/
  scanned : ∀ slots, slots.Perm before.registry.slots.entries →
    (Registry.expiredAmong now settings.registry.sundownRetention slots).Perm report.collected
  /-- and the nodes whose flags change are reported in the order of their ids. -/
  sorted : ∀ slots, slots.Perm (before.cleared now).slots.values →
    Registry.silenceOf now settings.registry.silenceTimeout slots =
      ⟨report.newlyStale, before.recoveredAt now, report.staleTotal⟩

section Sweep

variable {engine : Engine} (sound : engine.registry.Sound) (now : Int64)

/-- The gauges are set from the report. -/
theorem gauges_sweep :
    (engine.sweep now).1.metrics.nodesStale = (engine.sweep now).2.staleTotal ∧
      (engine.sweep now).1.metrics.nodesTracked = (engine.sweep now).2.nodesTracked :=
  ⟨rfl, rfl⟩

include sound

theorem nodes_swept :
    (engine.swept now).nodes = (engine.cleared now).nodes.map fun node =>
      { node with stale := node.isSilent now engine.settings.registry.silenceTimeout } :=
  (sound_cleared sound now).nodes_flagSilent _

theorem totals_sweep :
    (engine.sweep now).2.staleTotal = ((engine.swept now).nodes.filter (·.stale)).length ∧
      (engine.sweep now).2.nodesTracked = (engine.swept now).nodes.length := by
  rw [sweep_report]
  refine ⟨?_, rfl⟩
  dsimp only
  rw [nodes_swept sound, List.filter_map, List.length_map]
  rfl

theorem newlyStale_ascending : (engine.sweep now).2.newlyStale.Pairwise (· < ·) := by
  have sorted := (sound_cleared sound now).nodes_sorted
  rw [sweep_report]
  apply List.pairwise_map.mpr
  exact sorted.filter _

omit sound in
theorem collected_nodup : (engine.sweep now).2.collected.Nodup := by
  rw [sweep_report]
  exact (Dictionary.keys_sorted _).imp fun below same => (same ▸ below).false

/-- The window of a node that a sweep leaves is the one before. -/
theorem window?_swept {id : String} {node : Node} (found : (engine.swept now).get? id = some node) :
    (engine.swept now).window? id = engine.registry.window? id := by
  obtain ⟨slot, tracked, rfl⟩ := (sound_swept sound now).get?_eq_some_iff.mp found
  obtain ⟨kept, before, same⟩ := lookup_swept sound tracked
  rw [(sound_swept sound now).window?_eq, sound.window?_eq, tracked, before, same]
  rfl

/-- A record that a sweep leaves is one from before with its flag set anew. -/
theorem get?_before_sweep {id : String} {node : Node}
    (found : (engine.sweep now).1.get? id = some node) :
    ∃ kept, engine.get? id = some kept ∧
      node = { kept with stale := kept.isSilent now engine.settings.registry.silenceTimeout } := by
  rw [get?_sweep sound, Option.map_eq_some_iff] at found
  obtain ⟨kept, lasting, rfl⟩ := found
  exact ⟨kept, (Option.filter_eq_some_iff.mp lasting).1, rfl⟩

/-- The nodes that are reported as newly stale are those whose flag changed. -/
theorem mem_newlyStale_iff_flagged (id : String) :
    id ∈ (engine.sweep now).2.newlyStale ↔ ∃ kept node, engine.get? id = some kept ∧
      (engine.sweep now).1.get? id = some node ∧ kept.stale = false ∧ node.stale = true := by
  rw [mem_newlyStale sound]
  constructor
  · rintro ⟨kept, found, silent, unflagged⟩
    refine ⟨kept, { kept with
      stale := kept.isSilent now engine.settings.registry.silenceTimeout }, found, ?_,
      unflagged, silent⟩
    rw [get?_sweep sound, found, Option.filter_some, Node.not_isExpired_of_isSilent silent,
      Bool.not_false, if_pos rfl, Option.map_some]
  · rintro ⟨kept, node, found, after, unflagged, flagged⟩
    obtain ⟨other, same, rfl⟩ := get?_before_sweep sound now after
    cases found.symm.trans same
    exact ⟨kept, found, flagged, unflagged⟩

/-- No node expires and falls silent in one sweep. -/
theorem not_mem_collected_of_newlyStale {id : String}
    (stale : id ∈ (engine.sweep now).2.newlyStale) : id ∉ (engine.sweep now).2.collected := by
  intro collected
  obtain ⟨node, found, silent, _⟩ := (mem_newlyStale sound).mp stale
  obtain ⟨other, same, expired⟩ := (mem_collected sound).mp collected
  cases found.symm.trans same
  rw [Node.not_isExpired_of_isSilent silent] at expired
  cases expired

/-- A sweep does what is to be said of it, in every sound state. -/
theorem sweptAt_sweep :
    SweptAt engine.settings now engine (engine.sweep now).1 (engine.sweep now).2 := by
  refine { collected := ?collected, once := collected_nodup now, gone := ?gone,
           remaining := ?remaining, newlyStale := mem_newlyStale_iff_flagged sound now,
           ascending := newlyStale_ascending sound now,
           disjoint := fun id => not_mem_collected_of_newlyStale sound now,
           totals := ?totals, statistics := ?statistics, gauges := gauges_sweep now,
           scanned := ?scanned, sorted := ?sorted }
  case collected =>
    intro id
    simp only [mem_collected sound, Node.isExpired_iff]
  case gone =>
    intro id
    cases found : engine.get? id with
    | none => simp [get?_sweep sound, found]
    | some node => simp [get?_sweep_eq_none sound found]
  case remaining =>
    intro id node found
    have tracked : (engine.swept now).get? id = some node := by
      rw [← registry_sweep]
      exact found
    have window := window?_swept sound now tracked
    obtain ⟨kept, before, rfl⟩ := get?_before_sweep sound now found
    refine ⟨kept, before, rfl, Node.isSilent_iff, ?_⟩
    rw [registry_sweep, window]
  case totals =>
    rw [list, registry_sweep]
    exact totals_sweep sound now
  case statistics =>
    intro time
    obtain ⟨stale, tracked⟩ := totals_sweep sound now
    rw [stale, tracked, ← registry_sweep]
    exact ⟨rfl, rfl⟩
  case scanned =>
    intro slots order
    rw [sweep_report]
    exact Registry.Sound.expiredAmong_perm now _ order
  case sorted =>
    intro slots order
    rw [(sound_cleared sound now).silenceOf_perm now _ order, sweep_report]
    rfl

/-- After a sweep nothing is left to collect, and every flag is right. -/
theorem sweep_settled (id : String) (slot : Slot)
    (found : (engine.swept now).slots.get? id = some slot) :
    slot.node.isExpired now engine.settings.registry.sundownRetention = false ∧
      slot.node.stale = slot.node.isSilent now engine.settings.registry.silenceTimeout := by
  rw [slot_swept sound, Option.map_eq_some_iff] at found
  obtain ⟨kept, found, rfl⟩ := found
  have lasts := (Option.filter_eq_some_iff.mp found).2
  rw [Bool.not_eq_true'] at lasts
  exact ⟨lasts, rfl⟩

/-- A second sweep at the same time changes no record. -/
theorem swept_sweep : (engine.sweep now).1.swept now = engine.swept now ∧
    ((engine.sweep now).1.sweep now).2.collected = [] := by
  have collected : (engine.swept now).collect now engine.settings.registry.sundownRetention =
      (engine.swept now, []) :=
    Registry.collect_of_lasting fun id slot found => (sweep_settled sound now id slot found).1
  constructor
  · rw [Engine.swept, Engine.cleared, registry_sweep, settings_sweep, collected]
    exact (sound_swept sound now).flagSilent_of_settled fun id slot found =>
      (sweep_settled sound now id slot found).2
  · rw [sweep_report, registry_sweep, settings_sweep, collected]

/-- A second sweep at the same time reports the totals of the first, and nothing else. -/
theorem sweep_sweep : ((engine.sweep now).1.sweep now).2 =
    ⟨[], [], (engine.sweep now).2.staleTotal, (engine.sweep now).2.nodesTracked⟩ := by
  obtain ⟨unchanged, nothingCollected⟩ := swept_sweep sound now
  have soundFirst : (engine.sweep now).1.registry.Sound := by
    rw [registry_sweep]
    exact sound_swept sound now
  have nothingNew : ((engine.sweep now).1.sweep now).2.newlyStale = [] := by
    refine List.eq_nil_iff_forall_not_mem.mpr fun id stale => ?_
    obtain ⟨node, found, silent, unflagged⟩ := (mem_newlyStale soundFirst).mp stale
    obtain ⟨slot, tracked, rfl⟩ := soundFirst.get?_eq_some_iff.mp found
    rw [registry_sweep] at tracked
    rw [settings_sweep, ← (sweep_settled sound now id slot tracked).2, unflagged] at silent
    cases silent
  obtain ⟨staleTotal, nodesTracked⟩ := totals_sweep sound now
  obtain ⟨staleAgain, trackedAgain⟩ := totals_sweep soundFirst now
  rw [unchanged, ← staleTotal] at staleAgain
  rw [unchanged, ← nodesTracked] at trackedAgain
  exact Sweep.eq_mk nothingCollected nothingNew staleAgain trackedAgain

end Sweep

/-- A sweep removes the decommissioned nodes whose retention is over, sets the flags of the
others and changes nothing else, and says so in its report, whatever was restored before and
whatever the clock does.  A second sweep at the same time changes no record and reports nothing
but the same totals. -/
theorem run_sweep (settings : Settings Float) (name : String) (steps : List Step) (now : Int64) :
    let engine := (fresh settings name).run steps
    let first := engine.sweep now
    let second := first.1.sweep now
    SweptAt settings now engine first.1 first.2 ∧
      second.2 = ⟨[], [], first.2.staleTotal, first.2.nodesTracked⟩ ∧
      second.1.registry = first.1.registry := by
  intro engine first second
  have sound : engine.Sound := (sound_fresh settings name).run steps
  have configured : engine.settings = settings := (sound_fresh settings name).settings_run steps
  have described := sweptAt_sweep sound.registry now
  rw [configured] at described
  refine ⟨described, sweep_sweep sound.registry now, ?_⟩
  rw [registry_sweep, registry_sweep, (swept_sweep sound.registry now).1]

end Engine

end Headroom
