import Headroom.Maintenance
import Headroom.Proofs.Double.Quotients
import Headroom.Proofs.Engine.Totals
import Headroom.Proofs.Health
import Headroom.Proofs.Load
import Headroom.Proofs.Storage.Interruption

/-!
# Maintenance passes

A pass judges the intake by how far the totals have grown since the pass before.  The totals that
it remembers are those of the engine at that time, so the growth is what was answered in between,
whatever was judged earlier and whatever the passes themselves did to the engine.  The registry is
judged, and the snapshot taken, after the sweep of the same pass.
-/

namespace Headroom

/-- What is measured does not matter for soundness. -/
theorem Engine.Sound.remeasured {engine : Engine} (sound : engine.Sound) (metrics : Metrics) :
    { engine with metrics := metrics }.Sound :=
  ⟨sound.registry, sound.bounds, sound.capacity, sound.named⟩

namespace Maintenance

/-! ## Verdicts -/

/-- A counter that does not overflow counts. -/
theorem toNat_counted {before : UInt64} {count : Nat} (fits : before.toNat + count < 2 ^ 64) :
    (before + .ofNat count).toNat = before.toNat + count := by
  have small : count < 2 ^ 64 := (Nat.le_add_left _ _).trans_lt fits
  rw [UInt64.toNat_add, UInt64.toNat_ofNat_of_lt' small, Nat.mod_eq_of_lt fits]

/-- A counter that does not overflow has grown by what was counted. -/
theorem growth_counted {before : UInt64} {count : Nat} (fits : before.toNat + count < 2 ^ 64) :
    growth before (before + .ofNat count) = .ofNat count := by
  have grown : before ≤ before + .ofNat count := by
    rw [UInt64.le_iff_toNat_le, toNat_counted fits]
    exact Nat.le_add_right _ _
  rw [growth, if_pos grown, UInt64.add_comm, UInt64.add_sub_cancel]

/-- A part is more than half of the whole exactly if twice the part is more than the whole. -/
theorem rejectionShare_lt_iff {refused seen : Nat} (some : 0 < seen) :
    (rejectionShare : ℚ) < (refused : ℚ) / (seen : ℚ) ↔ seen < 2 * refused := by
  have half : (rejectionShare : ℚ) = 1 / 2 := by norm_num [rejectionShare]
  have positive : (0 : ℚ) < seen := Nat.cast_pos.mpr some
  calc (rejectionShare : ℚ) < (refused : ℚ) / (seen : ℚ)
      ↔ (1 : ℚ) / 2 * seen < refused := by rw [half, lt_div_iff₀ positive]
    _ ↔ (seen : ℚ) < 2 * refused := by constructor <;> intro less <;> linarith
    _ ↔ seen < 2 * refused := by exact_mod_cast Iff.rfl

section Ingest

variable {accepted refused : Nat}

/-- The verdict on the intake by the numbers of readings. -/
theorem ingestProblem_counted {α : Type} [Scalar α] (fits : accepted + refused < 2 ^ 64) :
    ingestProblem α (.ofNat accepted) (.ofNat refused) =
      if accepted + refused < 10 then none
      else if (rejectionShare : α) <
          Scalar.ofCount refused / Scalar.ofCount (accepted + refused) then
        some (Decimal.digitsOf refused ++ " of " ++ Decimal.digitsOf (accepted + refused) ++
          " samples rejected since last pass")
      else none := by
  have seen : (UInt64.ofNat accepted + UInt64.ofNat refused).toNat = accepted + refused := by
    rw [← UInt64.ofNat_add, UInt64.toNat_ofNat_of_lt' fits]
  have refusedOnly : (UInt64.ofNat refused).toNat = refused :=
    UInt64.toNat_ofNat_of_lt' ((Nat.le_add_left _ _).trans_lt fits)
  have few : UInt64.ofNat accepted + UInt64.ofNat refused < leastSamples ↔
      accepted + refused < 10 := by
    rw [UInt64.lt_iff_toNat_lt, seen]
    rfl
  simp only [ingestProblem, few, seen, refusedOnly]

/-- In exact arithmetic, the intake is objected to when ten or more readings were answered and
more than half of them refused. -/
theorem isSome_ingestProblem (fits : accepted + refused < 2 ^ 64) :
    (ingestProblem ℚ (.ofNat accepted) (.ofNat refused)).isSome = true ↔
      10 ≤ accepted + refused ∧ accepted + refused < 2 * refused := by
  rw [ingestProblem_counted fits]
  by_cases small : accepted + refused < 10
  · rw [if_pos small]
    constructor
    · intro found
      cases found
    · intro many
      have enough : 10 ≤ accepted + refused := many.1
      omega
  · rw [if_neg small]
    have enough : 10 ≤ accepted + refused := not_lt.mp small
    have above :
        (rejectionShare : ℚ) < Scalar.ofCount refused / Scalar.ofCount (accepted + refused) ↔
          accepted + refused < 2 * refused :=
      rejectionShare_lt_iff (by omega)
    by_cases most : accepted + refused < 2 * refused
    · rw [if_pos (above.mpr most)]
      constructor
      · intro found
        exact ⟨enough, most⟩
      · intro many
        rfl
    · rw [if_neg (mt above.mp most)]
      constructor
      · intro found
        cases found
      · intro many
        exact absurd many.2 most

/-- Up to 2 ^ 52 readings, rounding does not change the verdict. -/
theorem ingestProblem_exact (few : accepted + refused ≤ 2 ^ 52) :
    ingestProblem Float (.ofNat accepted) (.ofNat refused) =
      ingestProblem ℚ (.ofNat accepted) (.ofNat refused) := by
  have fits : accepted + refused < 2 ^ 64 := few.trans_lt (by decide)
  rw [ingestProblem_counted fits, ingestProblem_counted fits]
  by_cases small : accepted + refused < 10
  · rw [if_pos small, if_pos small]
  · have some : 0 < accepted + refused := by omega
    have rounded := Double.half_lt_share_iff (Nat.le_add_left refused accepted) some few
    have same : (rejectionShare : Float) <
          Scalar.ofCount refused / Scalar.ofCount (accepted + refused) ↔
        (rejectionShare : ℚ) < Scalar.ofCount refused / Scalar.ofCount (accepted + refused) :=
      rounded.trans (rejectionShare_lt_iff some).symm
    rw [if_neg small, if_neg small]
    simp only [same]

end Ingest

/-- The registry is objected to when there is a capacity and the nodes have reached it. -/
theorem isSome_registryProblem {engine : Engine} (sound : engine.Sound) (now : Int64) :
    (registryProblem (engine.statistics now).2).isSome = true ↔
      ∃ capacity, engine.settings.registry.capacity = some capacity ∧
        capacity.toNat ≤ engine.registry.nodes.length := by
  have configured : (engine.statistics now).2.capacity = engine.settings.registry.capacity := by
    change engine.registry.capacity.map UInt64.ofNat = _
    rw [show engine.registry.capacity = _ from congrArg Prod.snd sound.bounds, Option.map_map]
    cases engine.settings.registry.capacity with
    | none => rfl
    | some capacity => exact congrArg some UInt64.ofNat_toNat
  rw [registryProblem, configured]
  cases bound : engine.settings.registry.capacity with
  | none => simp
  | some capacity =>
    have fits : engine.registry.nodes.length < 2 ^ 64 := by
      have bounded := sound.registry.bounded capacity.toNat
        (by rw [show engine.registry.capacity = _ from congrArg Prod.snd sound.bounds, bound]; rfl)
      rw [sound.registry.length_nodes]
      exact bounded.trans_lt capacity.toNat_lt
    have reached : capacity ≤ (engine.statistics now).2.nodesTracked ↔
        capacity.toNat ≤ engine.registry.nodes.length := by
      change capacity ≤ UInt64.ofNat engine.registry.nodes.length ↔ _
      rw [UInt64.le_iff_toNat_le, UInt64.toNat_ofNat_of_lt' fits]
    simp only [reached]
    by_cases full : capacity.toNat ≤ engine.registry.nodes.length
    · rw [if_pos full]
      constructor
      · intro found
        exact ⟨capacity, rfl, full⟩
      · intro _
        rfl
    · rw [if_neg full]
      constructor
      · intro found
        cases found
      · rintro ⟨other, same, enough⟩
        cases same
        exact absurd enough full

/-! ## What a pass does -/

section Verdicts

variable (health : Health) (now : Int64) (ingest registry : Option String)

def verdicts : Health :=
  health.setHealthy now Component.maintenance.name
    |>.note now Component.ingest.name ingest
    |>.note now Component.registry.name registry

theorem shows_verdicts :
    (verdicts health now ingest registry).Shows .ingest (ingest.isSome = true) ∧
      (verdicts health now ingest registry).Shows .registry (registry.isSome = true) ∧
      (verdicts health now ingest registry).Shows .maintenance False := by
  have healthy : (health.setHealthy now Component.maintenance.name).Shows .maintenance False :=
    (Health.shows_note now .maintenance none).congr (iff_false_intro Bool.false_ne_true)
  refine ⟨?_, Health.shows_note _ _ _, ?_⟩
  · exact (Health.shows_note _ _ _).note _ _ (by decide)
  · exact (healthy.note _ _ (by decide)).note _ _ (by decide)

/-- The verdicts are about three components. -/
theorem get?_verdicts {name : String} (foreign : ∀ component : Component,
    component.name = name → component = .snapshotStore) :
    (verdicts health now ingest registry).components.get? name = health.components.get? name := by
  have differs (component : Component) (reported : component ≠ .snapshotStore) :
      name ≠ component.name := fun same => reported (foreign component same.symm)
  rw [verdicts, Health.get?_note, if_neg (differs .registry (by decide)), Health.get?_note,
    if_neg (differs .ingest (by decide)), Health.get?_setHealthy,
    if_neg (differs .maintenance (by decide))]

end Verdicts

/-- Asking for the numbers does not change what is shown. -/
theorem view_statistics (engine : Engine) (asked now : Int64) :
    (engine.statistics asked).1.view now = engine.view now := rfl

section Pass

variable (α : Type) [Scalar α] (maintenance : Maintenance) (clock : Clock) (service : Service)

def swept : Engine := (service.engine.sweep clock.engine).1

def judged : Service where
  engine := ((swept clock service).statistics clock.engine).1
  health := verdicts service.health clock.wall
    (ingestProblem α (growth maintenance.accepted (swept clock service).tally.accepted)
      (growth maintenance.rejected (swept clock service).tally.rejected.total))
    (registryProblem ((swept clock service).statistics clock.engine).2)
  disk := service.disk

theorem passBy_eq :
    maintenance.passBy α clock service =
      ({ maintenance with
          accepted := (swept clock service).tally.accepted
          rejected := (swept clock service).tally.rejected.total },
        maintenance.persist clock (maintenance.judged α clock service),
        (service.engine.sweep clock.engine).2) := rfl

/-- What is saved is what the sweep left. -/
theorem view_judged (now : Int64) :
    (maintenance.judged α clock service).engine.view now = (swept clock service).view now :=
  view_statistics (swept clock service) clock.engine now

/-- The verdicts as they are shown. -/
theorem shows_judged :
    let judged := maintenance.judged α clock service
    let tally := (swept clock service).tally
    judged.health.Shows .ingest ((ingestProblem α (growth maintenance.accepted tally.accepted)
        (growth maintenance.rejected tally.rejected.total)).isSome = true) ∧
      judged.health.Shows .registry
        ((registryProblem ((swept clock service).statistics clock.engine).2).isSome = true) ∧
      judged.health.Shows .maintenance False :=
  shows_verdicts _ _ _ _

/-- What is remembered does not depend on the numbers that a pass judges in. -/
theorem passBy_fst : (maintenance.passBy α clock service).1 = (maintenance.pass clock service).1 :=
  rfl

/-- A pass does what it would do in exact arithmetic, if the verdict on the intake is the same. -/
theorem pass_eq_passBy (exact :
    let tally := (swept clock service).tally
    ingestProblem Float (growth maintenance.accepted tally.accepted)
        (growth maintenance.rejected tally.rejected.total) =
      ingestProblem ℚ (growth maintenance.accepted tally.accepted)
        (growth maintenance.rejected tally.rejected.total)) :
    maintenance.pass clock service = maintenance.passBy ℚ clock service := by
  have same : maintenance.judged Float clock service = maintenance.judged ℚ clock service := by
    rw [judged, judged, exact]
  rw [pass, passBy_eq, passBy_eq, same]

/-- Saving leaves the engine, apart from the metrics. -/
theorem engine_persist :
    ∃ metrics, (maintenance.persist clock service).engine =
      { service.engine with metrics := metrics } := by
  rw [persist]
  split <;> exact ⟨_, rfl⟩

/-- A pass leaves the engine as its sweep does, apart from the metrics. -/
theorem engine_passBy :
    ∃ metrics, (maintenance.passBy α clock service).2.1.engine =
      { swept clock service with metrics := metrics } :=
  engine_persist maintenance clock (maintenance.judged α clock service)

end Pass

section Saving

variable (maintenance : Maintenance) (clock : Clock) (service : Service)

theorem persist_unsaved (unsaved : maintenance.store = none) :
    maintenance.persist clock service = service := by
  rw [persist, unsaved]

/-- Saving writes one file and reports one component. -/
theorem persist_saved {file : SnapshotFile} {disk : Disk} {result : Except SaveFault Unit}
    (saves : maintenance.store = some file)
    (saved : file.save service.disk (service.engine.view clock.engine) = (disk, result)) :
    (maintenance.persist clock service).disk = disk ∧
      ∃ problem : Option String, (problem.isSome = true ↔ result ≠ .ok ()) ∧
        (maintenance.persist clock service).health =
          service.health.note clock.wall Component.snapshotStore.name problem := by
  simp only [persist, saves, Engine.snapshot, saved, true_and]
  cases result with
  | ok done => exact ⟨none, by simp, rfl⟩
  | error fault => exact ⟨some fault.chain, by simp, rfl⟩

/-- Saving leaves the reports of the other components. -/
theorem get?_persist {name : String} (differs : name ≠ Component.snapshotStore.name) :
    (maintenance.persist clock service).health.components.get? name =
      service.health.components.get? name := by
  cases store : maintenance.store with
  | none => rw [persist_unsaved maintenance clock service store]
  | some file =>
    obtain ⟨_, problem, _, noted⟩ := persist_saved maintenance clock service store rfl
    rw [noted, Health.get?_note, if_neg differs]

/-- After a save, the disk is the one it left and the reports say whether it succeeded; after a
success, the file has the engine's snapshot. -/
theorem holds_persist {file : SnapshotFile} {snapshot : Snapshot} {disk : Disk}
    {result : Except SaveFault Unit} (saves : maintenance.store = some file)
    (shown : service.engine.view clock.engine = snapshot)
    (saved : file.save service.disk snapshot = (disk, result)) :
    let after := maintenance.persist clock service
    after.disk = disk ∧ after.health.Shows .snapshotStore (result ≠ .ok ()) ∧
      (result = .ok () → after.disk.readFile? file.path = some (SnapshotFile.encode snapshot) ∧
        file.Holds after.disk snapshot) := by
  subst shown
  obtain ⟨written, problem, failed, noted⟩ := persist_saved maintenance clock service saves saved
  refine ⟨written, ?_, ?_⟩
  · rw [noted]
    exact (Health.shows_note _ _ _).congr failed
  · rintro rfl
    have held := SnapshotFile.readFile?_save saved
    rw [written]
    exact ⟨held, SnapshotFile.holds_of_readFile? held⟩

theorem shows_persist {component : Component} {problem : Prop}
    (shown : service.health.Shows component problem) (differs : component ≠ .snapshotStore) :
    (maintenance.persist clock service).health.Shows component problem := by
  have kept := Health.conditionOf?_congr
    (get?_persist maintenance clock service (Component.name_injective.ne differs))
  constructor
  · intro holds
    rw [kept]
    exact shown.degraded holds
  · intro fails
    rw [kept]
    exact shown.healthy fails

end Saving

/-! ## Rounds -/

/-- What leads to a pass: what the engine is asked for since the pass before, the time of the
pass, and the reports and the disk as it finds them, which others may have changed. -/
structure Round where
  steps : List Engine.Step
  clock : Clock
  health : Health
  disk : Disk

namespace Round

def readings (round : Round) : List (Reading Float) := round.steps.flatMap Engine.Step.readings

def found (round : Round) (engine : Engine) : Service :=
  ⟨engine.run round.steps, round.health, round.disk⟩

end Round

def follow (maintenance : Maintenance) (engine : Engine) : List Round → Maintenance × Engine
  | [] => (maintenance, engine)
  | round :: rest =>
    let (next, service, _) := maintenance.pass round.clock (round.found engine)
    next.follow service.engine rest

/-- The totals that maintenance remembers are those of the engine, and as many readings as were
handed in are in them. -/
structure Remembers (settings : Settings Float) (store : Option SnapshotFile) (handed : Nat)
    (maintenance : Maintenance) (engine : Engine) : Prop where
  sound : engine.Sound
  settings : engine.settings = settings
  store : maintenance.store = store
  accepted : maintenance.accepted = engine.tally.accepted
  rejected : maintenance.rejected = engine.tally.rejected.total
  counted : handed < 2 ^ 64 → maintenance.accepted.toNat + maintenance.rejected.toNat = handed

theorem remembers_fresh (settings : Settings Float) (name : String)
    (store : Option SnapshotFile) :
    Remembers settings store 0 (fresh store) (Engine.fresh settings name) where
  sound := Engine.sound_fresh settings name
  settings := rfl
  store := rfl
  accepted := rfl
  rejected := rfl
  counted := fun _ => rfl

namespace Remembers

variable {settings : Settings Float} {store : Option SnapshotFile} {handed : Nat}
variable {maintenance : Maintenance} {engine : Engine}

/-- The totals of the engine when a pass judges them, by those that are remembered. -/
theorem totals (remembers : Remembers settings store handed maintenance engine) (round : Round) :
    let tally := (swept round.clock (round.found engine)).tally
    let answers := engine.entries round.steps
    tally.accepted = maintenance.accepted + .ofNat (answers.countP Engine.Entry.isAccepted) ∧
      tally.rejected.total =
        maintenance.rejected + .ofNat (answers.countP Engine.Entry.isRefused) := by
  have grows := Engine.grows_run round.steps remembers.sound
  rw [swept, Round.found, Engine.tally_sweep, remembers.accepted, remembers.rejected]
  exact ⟨grows.accepted, grows.rejected⟩

/-- The counters do not overflow as long as the readings can be counted. -/
theorem fits (remembers : Remembers settings store handed maintenance engine) (round : Round)
    (countable : handed + round.readings.length < 2 ^ 64) :
    let answers := engine.entries round.steps
    maintenance.accepted.toNat + answers.countP Engine.Entry.isAccepted < 2 ^ 64 ∧
      maintenance.rejected.toNat + answers.countP Engine.Entry.isRefused < 2 ^ 64 := by
  have answered := Engine.answered_run round.steps engine
  have counted := remembers.counted ((Nat.le_add_right _ _).trans_lt countable)
  rw [Round.readings] at countable
  dsimp only
  omega

/-- A pass counts the readings of its own round. -/
theorem growths (remembers : Remembers settings store handed maintenance engine) (round : Round)
    (countable : handed + round.readings.length < 2 ^ 64) :
    let tally := (swept round.clock (round.found engine)).tally
    let answers := engine.entries round.steps
    growth maintenance.accepted tally.accepted = .ofNat (answers.countP Engine.Entry.isAccepted) ∧
      growth maintenance.rejected tally.rejected.total =
        .ofNat (answers.countP Engine.Entry.isRefused) := by
  intro tally answers
  obtain ⟨accepted, rejected⟩ := remembers.totals round
  obtain ⟨acceptedFits, rejectedFits⟩ := remembers.fits round countable
  rw [show tally.accepted = _ from accepted, show tally.rejected.total = _ from rejected]
  exact ⟨growth_counted acceptedFits, growth_counted rejectedFits⟩

theorem swept (remembers : Remembers settings store handed maintenance engine) (round : Round) :
    (swept round.clock (round.found engine)).Sound ∧
      (Maintenance.swept round.clock (round.found engine)).settings = settings := by
  have soundRun : (engine.run round.steps).Sound := remembers.sound.run round.steps
  refine ⟨soundRun.act ⟨round.clock.engine, .sweep⟩, ?_⟩
  rw [Maintenance.swept, Engine.settings_sweep]
  exact (remembers.sound.settings_run round.steps).trans remembers.settings

/-- A pass remembers the totals at its time. -/
theorem pass (remembers : Remembers settings store handed maintenance engine) (round : Round) :
    Remembers settings store (handed + round.readings.length)
      (maintenance.pass round.clock (round.found engine)).1
      (maintenance.pass round.clock (round.found engine)).2.1.engine := by
  obtain ⟨sound, configured⟩ := remembers.swept round
  obtain ⟨accepted, rejected⟩ := remembers.totals round
  obtain ⟨metrics, left⟩ := engine_passBy Float maintenance round.clock (round.found engine)
  rw [Maintenance.pass, left, passBy_eq]
  generalize Maintenance.swept round.clock (round.found engine) = after at *
  exact {
    sound := sound.remeasured metrics
    settings := configured
    store := remembers.store
    accepted := rfl
    rejected := rfl
    counted := fun countable => by
      have answered := Engine.answered_run round.steps engine
      have counted := remembers.counted ((Nat.le_add_right _ _).trans_lt countable)
      obtain ⟨acceptedFits, rejectedFits⟩ := remembers.fits round countable
      rw [accepted, rejected, toNat_counted acceptedFits, toNat_counted rejectedFits,
        Round.readings]
      omega }

/-- What maintenance remembers stays right from round to round. -/
theorem follow (rounds : List Round) :
    ∀ {handed : Nat} {maintenance : Maintenance} {engine : Engine},
      Remembers settings store handed maintenance engine →
        Remembers settings store (handed + (rounds.flatMap Round.readings).length)
          (maintenance.follow engine rounds).1 (maintenance.follow engine rounds).2 := by
  induction rounds with
  | nil => exact fun remembers => remembers
  | cons round rest ih =>
    intro handed maintenance engine remembers
    rw [List.flatMap_cons, List.length_append, ← Nat.add_assoc]
    exact ih (remembers.pass round)

end Remembers

/-! ## What a pass shows -/

/-- What the reports say after a pass, by the readings that were accepted and refused since the
pass before, and by the engine and the disk that the pass found. -/
structure Judged (settings : Settings Float) (store : Option SnapshotFile) (clock : Clock)
    (found after : Service) (accepted refused : Nat) : Prop where
  ingest : after.health.Shows .ingest
    (10 ≤ accepted + refused ∧ accepted + refused < 2 * refused)
  registry : after.health.Shows .registry
    (∃ capacity, settings.registry.capacity = some capacity ∧
      capacity.toNat ≤ (swept clock found).registry.nodes.length)
  maintenance : after.health.conditionOf? Component.maintenance.name = some .healthy
  unsaved : store = none → after.disk = found.disk ∧
    after.health.conditionOf? Component.snapshotStore.name =
      found.health.conditionOf? Component.snapshotStore.name
  saved : ∀ file disk result, store = some file →
    file.save found.disk ((swept clock found).view clock.engine) = (disk, result) →
      after.disk = disk ∧ after.health.Shows .snapshotStore (result ≠ .ok ()) ∧
      (result = .ok () →
        after.disk.readFile? file.path =
            some (SnapshotFile.encode ((swept clock found).view clock.engine)) ∧
          file.Holds after.disk ((swept clock found).view clock.engine))
  others : ∀ name, (∀ component : Component, component.name ≠ name) →
    after.health.components.get? name = found.health.components.get? name
  worst : after.health.IsWorst after.health.overall
  unordered : ∀ conditions : List Condition,
    conditions.Perm (after.health.components.values.map (·.condition)) →
      conditions.foldl Condition.worse .healthy = after.health.overall

/-- A pass that has counted the readings of its round judges by them. -/
theorem judged_persist {settings : Settings Float} {store : Option SnapshotFile} {clock : Clock}
    {found : Service} {maintenance : Maintenance} {accepted refused : Nat}
    (sound : (swept clock found).Sound) (configured : (swept clock found).settings = settings)
    (stored : maintenance.store = store) (few : accepted + refused < 2 ^ 64)
    (acceptedGrowth : growth maintenance.accepted (swept clock found).tally.accepted =
      .ofNat accepted)
    (refusedGrowth : growth maintenance.rejected (swept clock found).tally.rejected.total =
      .ofNat refused) :
    Judged settings store clock found
      (maintenance.persist clock (maintenance.judged ℚ clock found)) accepted refused := by
  obtain ⟨ingest, registry, healthy⟩ := shows_judged ℚ maintenance clock found
  rw [acceptedGrowth, refusedGrowth] at ingest
  have problem := isSome_registryProblem sound clock.engine
  rw [configured] at problem
  have kept (name : String) (foreign : ∀ component : Component,
      component.name = name → component = .snapshotStore) :
      (maintenance.judged ℚ clock found).health.components.get? name =
        found.health.components.get? name := get?_verdicts _ _ _ _ foreign
  have shown (now : Int64) := view_judged ℚ maintenance clock found now
  have disk : (maintenance.judged ℚ clock found).disk = found.disk := rfl
  generalize maintenance.judged ℚ clock found = judged at *
  have maintained := shows_persist maintenance clock judged healthy (by decide)
  exact {
    ingest := shows_persist _ _ judged (ingest.congr (isSome_ingestProblem few)) (by decide)
    registry := shows_persist _ _ judged (registry.congr problem) (by decide)
    maintenance := maintained.healthy not_false
    unsaved := fun absent => by
      rw [persist_unsaved _ _ judged (stored.trans absent)]
      exact ⟨disk, Health.conditionOf?_congr (kept _ fun _ => (Component.name_injective ·))⟩
    saved := fun _ _ _ present saves => holds_persist maintenance clock judged
      (stored.trans present) (shown clock.engine) (disk ▸ saves)
    others := fun name foreign => by
      rw [get?_persist _ _ judged (foreign .snapshotStore).symm]
      exact kept name fun component same => absurd same (foreign component)
    worst := Health.isWorst_overall (Option.isSome_of_eq_some (maintained.healthy not_false))
    unordered := fun conditions order => Health.overall_perm order }

/-- After any rounds, a pass judges by the readings that were handed in since the pass before it,
each of which is accepted or refused and counted in that pass only, until the counters of 64 places
overflow.  The share of refused readings is taken exactly, and up to 2 ^ 52 readings a pass in
doubles is the same. -/
theorem run_maintenance (settings : Settings Float) (name : String) (store : Option SnapshotFile)
    (earlier : List Round) (last : Round)
    (countable : ((earlier ++ [last]).flatMap Round.readings).length < 2 ^ 64) :
    let before := (fresh store).follow (Engine.fresh settings name) earlier
    let answers := before.2.entries last.steps
    let accepted := answers.countP Engine.Entry.isAccepted
    let refused := answers.countP Engine.Entry.isRefused
    let found := last.found before.2
    let pass := before.1.passBy ℚ last.clock found
    Judged settings store last.clock found pass.2.1 accepted refused ∧
      accepted + refused = last.readings.length ∧
      pass.1.accepted.toNat + pass.1.rejected.toNat =
        ((earlier ++ [last]).flatMap Round.readings).length ∧
      (last.readings.length ≤ 2 ^ 52 → before.1.pass last.clock found = pass) := by
  intro before answers accepted refused found pass
  have remembers : Remembers settings store (earlier.flatMap Round.readings).length
      before.1 before.2 :=
    Nat.zero_add (earlier.flatMap Round.readings).length ▸
      (remembers_fresh settings name store).follow earlier
  have handed : ((earlier ++ [last]).flatMap Round.readings).length =
      (earlier.flatMap Round.readings).length + last.readings.length := by simp
  rw [handed] at countable ⊢
  have answered : accepted + refused = last.readings.length := Engine.answered_run _ _
  obtain ⟨sound, configured⟩ := remembers.swept last
  obtain ⟨acceptedGrowth, refusedGrowth⟩ := remembers.growths last countable
  have few : accepted + refused < 2 ^ 64 := by omega
  refine ⟨?judged, answered, ?counted, fun places => ?_⟩
  case judged =>
    rw [show pass = _ from passBy_eq ℚ before.1 last.clock found]
    exact judged_persist sound configured remembers.store few acceptedGrowth refusedGrowth
  case counted =>
    rw [show pass.1 = _ from passBy_fst ℚ before.1 last.clock found]
    exact (remembers.pass last).counted countable
  refine pass_eq_passBy before.1 last.clock found ?_
  dsimp only
  rw [acceptedGrowth, refusedGrowth]
  exact ingestProblem_exact (answered.trans_le places)

/-- Nine refused readings of ten degrade the intake at the pass after them, and only there. -/
theorem run_maintenance_burst :
    let burst : Round := ⟨[.batch ((5, .loaded "node" none 0.5) ::
      List.replicate 9 (5, .loaded "" none 0.5))], ⟨5, 0⟩, .empty, .empty⟩
    let quiet : Round := ⟨[.single 5 (.submit (.loaded "" none 0.5))], ⟨5, 0⟩, .empty, .empty⟩
    let before := (fresh none).follow (.fresh .default "engine") [quiet]
    let after := (fresh none).follow (.fresh .default "engine") [quiet, burst]
    (before.1.pass burst.clock (burst.found before.2)).2.1.health.conditionOf?
        Component.ingest.name = some .degraded ∧
      (after.1.pass quiet.clock (quiet.found after.2)).2.1.health.conditionOf?
        Component.ingest.name = some .healthy := by
  intro burst quiet before after
  obtain ⟨judged, answered, _, exact⟩ :=
    run_maintenance .default "engine" none [quiet] burst (by decide)
  obtain ⟨judgedNext, answeredNext, _, exactNext⟩ :=
    run_maintenance .default "engine" none [quiet, burst] quiet (by decide)
  have refused : (before.2.entries burst.steps).countP Engine.Entry.isRefused = 9 := by
    decide +kernel
  have most : 10 ≤ burst.readings.length ∧ burst.readings.length <
      2 * (before.2.entries burst.steps).countP Engine.Entry.isRefused := by
    rw [refused]
    decide
  have few : ¬ 10 ≤ quiet.readings.length := by decide
  rw [← answered] at most
  rw [← answeredNext] at few
  have degraded := judged.ingest.degraded most
  have healthy := judgedNext.ingest.healthy fun many => few many.1
  rw [← exact (by decide)] at degraded
  rw [← exactNext (by decide)] at healthy
  -- Looking deeper, the comparison of both sides would run the engine.
  with_reducible exact ⟨degraded, healthy⟩

end Maintenance

end Headroom
