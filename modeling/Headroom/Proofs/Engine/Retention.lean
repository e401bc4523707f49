import Headroom.Proofs.Engine.Consistency
import Headroom.Proofs.Engine.Silence

/-!
# When decommissioned nodes are collected

A sweep collects the decommissioned nodes whose record has not been updated for the retention.
Which events update a record is read off the dated ledger: the decommission of the node and
every reading of it that is accepted.  Nothing else that is asked about the node moves the end
of its life, and while the clock does not go back, a node that keeps reporting stays.
-/

namespace Headroom

theorem Time.elapsed_anti {past recent : Int64} (later : past ≤ recent) (now : Int64) :
    elapsed now recent ≤ elapsed now past :=
  saturate_mono (Int.sub_le_sub_left (Int64.le_iff_toInt_le.mp later) _)

theorem Node.isExpired_iff {node : Node} {now retention : Int64} :
    node.isExpired now retention = true ↔
      node.category = .sundown ∧ retention ≤ Time.elapsed now node.lastUpdated := by
  simp [isExpired]

namespace Engine

/-- What moves the end of a node's life, with the time of the clock at it. -/
inductive Renewal where
  /-- A reading of the node was accepted. -/
  | report (now : Int64)
  /-- The node was decommissioned. -/
  | retirement (now : Int64)
  deriving DecidableEq

namespace Renewal

def now : Renewal → Int64
  | report now | retirement now => now

def isRetirement : Renewal → Bool
  | report _ => false
  | retirement _ => true

end Renewal

/-- The renewals of a node since it was created, after one more entry in the ledger. -/
def Entry.renew (id : String) (now : Int64) (renewals : List Renewal) : Entry → List Renewal
  | accepted receipt =>
    if receipt.id = id then (if receipt.created then [] else renewals) ++ [.report now]
    else renewals
  | registered other created => if other = id ∧ created = true then [] else renewals
  | retired transition =>
    if transition.id = id then renewals ++ [.retirement now] else renewals
  | _ => renewals

/-- The renewals of a node since it was created, in the order of the run. -/
def renewalsOf (id : String) (log : List (Int64 × Entry)) : List Renewal :=
  log.foldl (fun renewals dated => dated.2.renew id dated.1 renewals) []

def Entry.reports (id : String) : Entry → Bool
  | accepted receipt => receipt.id = id
  | _ => false

def reportTimes (id : String) (log : List (Int64 × Entry)) : List Int64 :=
  (log.filter fun dated => dated.2.reports id).map Prod.fst

theorem renewalsOf_append (id : String) (log : List (Int64 × Entry)) (now : Int64)
    (added : List Entry) :
    renewalsOf id (log ++ added.map (Prod.mk now)) =
      added.foldl (Entry.renew id now) (renewalsOf id log) := by
  rw [renewalsOf, renewalsOf, List.foldl_append, List.foldl_map]

theorem reportTimes_append (id : String) (log added : List (Int64 × Entry)) :
    reportTimes id (log ++ added) = reportTimes id log ++ reportTimes id added := by
  rw [reportTimes, List.filter_append, List.map_append]
  rfl

theorem Entry.renew_of_unmentioned {id : String} {now : Int64} (renewals : List Renewal)
    (entry : Entry) (unmentioned : entry.subject? ≠ some id) :
    entry.renew id now renewals = renewals := by
  cases entry with
  | accepted receipt => exact if_neg fun own => unmentioned (congrArg some own)
  | registered other created => exact if_neg fun own => unmentioned (by simp [subject?, own])
  | retired transition => exact if_neg fun own => unmentioned (congrArg some own)
  | _ => rfl

/-! ## The record of a node and its renewals -/

/-- A record agrees with the renewals of its node. -/
structure Renewed (renewals : List Renewal) (node : Node) : Prop where
  retired : node.category = .sundown ↔ ∃ renewal ∈ renewals, renewal.isRetirement = true
  updated : ∀ last, renewals.getLast? = some last → node.lastUpdated = last.now

theorem renewed_fresh (id : String) (name : Option String) (now : Int64) :
    Renewed [] (.fresh id name now) := ⟨by simp [Node.fresh], by simp⟩

/-- A reading renews the life of its node at the time at which it arrives. -/
theorem Renewed.observe {renewals : List Renewal} {slot : Slot}
    (renewed : Renewed renewals slot.node) (settings : Settings Float) (limits : Window.Limits)
    (reading : Reading Float) (timestamp now : Int64) :
    Renewed (renewals ++ [.report now])
      (observe settings limits reading timestamp now slot).node where
  retired := by
    refine Thresholds.next_eq_sundown.trans (renewed.retired.trans ?_)
    simp [Renewal.isRetirement]
  updated := fun last isLast => by
    rw [List.getLast?_concat] at isLast
    cases isLast
    rfl

theorem Renewed.retire {renewals : List Renewal} {node : Node} (now : Int64) :
    Renewed (renewals ++ [.retirement now]) (node.retired now) where
  retired := ⟨fun _ => ⟨_, List.mem_append_right _ List.mem_cons_self, rfl⟩, fun _ => rfl⟩
  updated := fun last isLast => by
    rw [List.getLast?_concat] at isLast
    cases isLast
    rfl

def Lives (registry : Registry) (log : List (Int64 × Entry)) : Prop :=
  ∀ id slot, registry.slots.get? id = some slot → Renewed (renewalsOf id log) slot.node

/-- Every turn that a run without a restore takes keeps the account. -/
theorem Lives.turn {engine : Engine} {log : List (Int64 × Entry)} {added : List Entry}
    {now : Int64} {registry : Registry} {tally : Tally}
    {table : PerCategory (PerCategory UInt64)} (sound : engine.registry.Sound)
    (turn : Turn engine now added registry tally table) (lives : Lives engine.registry log) :
    Lives registry (log ++ added.map (Prod.mk now)) := by
  intro id slot found
  rw [renewalsOf_append]
  cases turn.treatment sound found with
  | spared tracked unmentioned category updated _ _ =>
    have before := lives id _ tracked
    rw [foldl_of_unmentioned Entry.renew_of_unmentioned added unmentioned]
    exact ⟨category ▸ before.retired, updated ▸ before.updated⟩
  | @entered request own absent =>
    subst own
    simp only [List.foldl_cons, List.foldl_nil, Entry.renew, and_self, if_true]
    rw [described, Registry.seat, absent]
    have started := renewed_fresh request.id request.name now
    exact ⟨started.retired, started.updated⟩
  | @reported reading own isAccepted =>
    subst own
    have ownReceipt : (engine.receiptFor now reading).id = reading.id := rfl
    simp only [List.foldl_cons, List.foldl_nil, Entry.renew, ownReceipt, if_true]
    cases tracked : engine.registry.slots.get? reading.id with
    | some before =>
      have known : (engine.receiptFor now reading).created = false :=
        congrArg not (Registry.contains_eq_true tracked)
      rw [known, if_neg Bool.false_ne_true, observed, Registry.seat_tracked tracked]
      exact (lives _ before tracked).observe _ _ _ _ _
    | none =>
      have new : (engine.receiptFor now reading).created = true :=
        congrArg not (Registry.contains_eq_false tracked)
      rw [new, if_pos rfl, observed, Registry.seat, tracked]
      have started : Renewed [] (Slot.fresh (.fresh reading.id reading.name now)).node :=
        renewed_fresh _ _ _
      exact started.observe _ _ _ _ _
  | @retired before tracked active =>
    have ownTransition : (farewell before id now).id = id := rfl
    simp only [List.foldl_cons, List.foldl_nil, Entry.renew, ownTransition, if_true]
    exact .retire now

theorem lives_run (settings : Settings Float) (name : String) {steps : List Step}
    (noRestore : ∀ step ∈ steps, ∀ snapshot, step.operation? ≠ some (.restore snapshot)) :
    Lives ((fresh settings name).run steps).registry
      ((fresh settings name).datedEntries steps) := by
  have start : Lives (fresh settings name).registry [] := fun _ _ found => by cases found
  rw [run_eq_follow, datedEntries_eq_datedLedger]
  exact dated_induction (p := fun engine log => Lives engine.registry log)
    (fun _ _ _ sound turn lives => lives.turn sound.registry turn) _ (sound_fresh settings name)
    (noRestore_actions noRestore) start

/-! ## What a sweep collects -/

/-- A sweep collects the tracked nodes that expired. -/
theorem mem_collected {engine : Engine} (sound : engine.registry.Sound) {now : Int64}
    {id : String} : id ∈ (engine.sweep now).2.collected ↔ ∃ node, engine.get? id = some node ∧
      node.isExpired now engine.settings.registry.sundownRetention = true := by
  rw [sweep_report]
  simp only [Registry.collect, Dictionary.mem_keys, Dictionary.get?_filter,
    Option.filter_eq_some_iff, get?, sound.get?_eq_some_iff]
  constructor
  · rintro ⟨slot, found, expired⟩
    exact ⟨slot.node, ⟨slot, found, rfl⟩, expired⟩
  · rintro ⟨node, ⟨slot, found, rfl⟩, expired⟩
    exact ⟨slot, found, expired⟩

/-- What a sweep collects is gone after it, and nothing else is. -/
theorem get?_sweep_eq_none {engine : Engine} (sound : engine.registry.Sound) {now : Int64}
    {id : String} {node : Node} (found : engine.get? id = some node) :
    (engine.sweep now).1.get? id = none ↔ id ∈ (engine.sweep now).2.collected := by
  rw [get?_sweep sound, Option.map_eq_none_iff, Option.filter_eq_none_iff, mem_collected sound,
    found]
  simp

/-! ## What does not prolong a life -/

/-- Steps that leave the end of a tracked node's life where it is. -/
inductive Idle (engine : Engine) (id : String) : Step → Prop where
  | registered (now : Int64) (request : Registration) :
      Idle engine id (.single now (.register request))
  | again (now : Int64) {node : Node} (found : engine.get? id = some node)
      (gone : node.category = .sundown) : Idle engine id (.single now (.decommission id))
  | refused (now : Int64) {reading : Reading Float} {refusal : Refusal}
      (refused : (engine.submit now reading).2 = .error refusal) :
      Idle engine id (.single now (.submit reading))
  | unheard {readings : List (Int64 × Reading Float)}
      (others : ∀ receipt, .accepted receipt ∈ (engine.submitEach readings).2 →
        receipt.id ≠ id) : Idle engine id (.batch readings)
  | rescored (now : Int64) (other : String) : Idle engine id (.single now (.recompute other))
  | swept (now : Int64) : Idle engine id (.single now .sweep)

/-- A registration enters no node that is tracked. -/
theorem unmentioned_register {engine : Engine} (sound : engine.registry.Sound) {now : Int64}
    {request : Registration} {id : String} {node : Node} (found : engine.get? id = some node) :
    ∀ entry ∈ (Answer.registered (engine.register now request).2).entries,
      entry.subject? ≠ some id := by
  cases unnamed : request.id.isEmpty with
  | true =>
    rw [register_unnamed unnamed]
    exact List.forall_mem_nil _
  | false =>
    cases room : engine.registry.admits request.id with
    | false =>
      rw [register_full sound unnamed room]
      exact List.forall_mem_nil _
    | true =>
      rw [register_admitted sound unnamed room]
      have named : (engine.described now request).node.id = request.id :=
        sound.seat_id request.id request.name now
      refine List.forall_mem_singleton.mpr fun mentioned => ?_
      simp only [Entry.subject?, named] at mentioned
      split at mentioned
      · rename_i new
        cases mentioned
        obtain ⟨slot, tracked, _⟩ := sound.get?_eq_some_iff.mp found
        rw [Registry.contains_eq_true tracked] at new
        cases new
      · cases mentioned

/-- A step that leaves the life of a node alone does not mention the node in the ledger. -/
theorem Idle.unmentioned {engine : Engine} (sound : engine.registry.Sound) {id : String}
    {node : Node} (found : engine.get? id = some node) {step : Step}
    (idle : Idle engine id step) :
    ∀ entry ∈ (engine.execute step).2.entries, entry.subject? ≠ some id := by
  cases idle with
  | registered now request => exact unmentioned_register sound found
  | again now found gone =>
    obtain ⟨slot, tracked, rfl⟩ := sound.get?_eq_some_iff.mp found
    change ∀ entry ∈ (Answer.decommissioned (engine.decommission now id).2).entries, _
    rw [decommission_again sound tracked gone]
    exact List.forall_mem_nil _
  | @refused now reading refusal refused =>
    change ∀ entry ∈ (Answer.submitted (engine.submit now reading).2).entries, _
    rw [refused]
    exact List.forall_mem_singleton.mpr nofun
  | @unheard readings others =>
    refine List.forall_mem_map.mpr fun outcome member => ?_
    cases outcome with
    | accepted receipt => exact fun mentioned => others receipt member (Option.some.inj mentioned)
    | rejected other code message => exact nofun
  | rescored now other => exact List.forall_mem_nil _
  | swept now => exact List.forall_mem_singleton.mpr nofun

theorem mem_entries_of_dated {step : Step} {response : Response} {dated : Int64 × Entry}
    (member : dated ∈ step.dated response) : dated.2 ∈ response.entries := by
  cases step with
  | single now operation =>
    obtain ⟨entry, inside, rfl⟩ := List.mem_map.mp member
    exact inside
  | batch readings => exact (List.of_mem_zip member).2

/-- An idle step at the end of a run adds no renewal. -/
theorem Idle.renewalsOf {engine : Engine} {steps : List Step} {step : Step} {id : String}
    {node : Node} (sound : (engine.run steps).registry.Sound)
    (found : (engine.run steps).get? id = some node) (idle : Idle (engine.run steps) id step) :
    renewalsOf id (engine.datedEntries (steps ++ [step])) =
      Engine.renewalsOf id (engine.datedEntries steps) := by
  have unmentioned : ∀ dated ∈ step.dated ((engine.run steps).execute step).2,
      dated.2.subject? ≠ some id :=
    fun dated member => idle.unmentioned sound found dated.2 (mem_entries_of_dated member)
  rw [datedEntries_append, datedEntries, datedEntries, List.append_nil, Engine.renewalsOf,
    List.foldl_append]
  have ignores (renewals : List Renewal) (dated : Int64 × Entry)
      (apart : dated.2.subject? ≠ some id) : dated.2.renew id dated.1 renewals = renewals :=
    dated.2.renew_of_unmentioned renewals apart
  rw [foldl_of_unmentioned ignores _ unmentioned]
  rfl

/-! ## Nodes that keep reporting -/

theorem mem_datedLedger {dated : Int64 × Entry} {actions : List Action} :
    ∀ {engine : Engine}, dated ∈ engine.datedLedger actions →
      ∃ action ∈ actions, action.now = dated.1 := by
  induction actions with
  | nil => exact nofun
  | cons action rest ih =>
    intro engine member
    rcases List.mem_append.mp member with ofFirst | later
    · obtain ⟨entry, _, rfl⟩ := List.mem_map.mp ofFirst
      exact ⟨action, List.mem_cons_self, rfl⟩
    · obtain ⟨other, inside, same⟩ := ih later
      exact ⟨other, List.mem_cons_of_mem _ inside, same⟩

theorem mem_datedEntries {dated : Int64 × Entry} {steps : List Step} {engine : Engine}
    (member : dated ∈ engine.datedEntries steps) :
    ∃ action ∈ steps.flatMap Step.actions, action.now = dated.1 := by
  rw [datedEntries_eq_datedLedger] at member
  exact mem_datedLedger member

/-- The ledger of a run is in the order of time if the clock does not go back. -/
theorem pairwise_datedLedger {actions : List Action} : ∀ (engine : Engine),
    actions.Pairwise (fun earlier later => earlier.now ≤ later.now) →
      (engine.datedLedger actions).Pairwise fun earlier later => earlier.1 ≤ later.1 := by
  induction actions with
  | nil => exact fun _ _ => .nil
  | cons action rest ih =>
    intro engine forward
    obtain ⟨next, forward⟩ := List.pairwise_cons.mp forward
    refine List.pairwise_append.mpr ⟨?_, ih _ forward, ?_⟩
    · refine List.pairwise_map.mpr (List.pairwise_of_forall_mem_list ?_)
      exact fun _ _ _ _ => Int64.le_refl _
    · intro first inFirst second inSecond
      obtain ⟨entry, _, rfl⟩ := List.mem_map.mp inFirst
      obtain ⟨other, inside, same⟩ := mem_datedLedger inSecond
      exact same ▸ next other inside

theorem Forward.datedEntries {steps : List Step} (engine : Engine) (forward : Forward steps) :
    (engine.datedEntries steps).Pairwise fun earlier later => earlier.1 ≤ later.1 := by
  rw [datedEntries_eq_datedLedger]
  exact pairwise_datedLedger engine forward

/-- Every renewal bears the time of an entry. -/
theorem mem_renewals {id : String} {renewal : Renewal} (log : List (Int64 × Entry)) :
    ∀ {renewals : List Renewal},
      renewal ∈ log.foldl (fun renewals dated => dated.2.renew id dated.1 renewals) renewals →
        renewal ∈ renewals ∨ ∃ dated ∈ log, dated.1 = renewal.now := by
  induction log with
  | nil => exact fun member => .inl member
  | cons dated rest ih =>
    intro renewals member
    rcases ih member with before | ⟨other, inside, same⟩
    · have added :
          renewal ∈ renewals ∨ renewal = .report dated.1 ∨ renewal = .retirement dated.1 := by
        obtain ⟨now, entry⟩ := dated
        cases entry <;> simp only [Entry.renew] at before <;> grind
      rcases added with before | rfl | rfl
      · exact .inl before
      · exact .inr ⟨dated, List.mem_cons_self, rfl⟩
      · exact .inr ⟨dated, List.mem_cons_self, rfl⟩
    · exact .inr ⟨other, List.mem_cons_of_mem _ inside, same⟩

theorem exists_action_of_renewal {engine : Engine} {steps : List Step} {id : String}
    {renewal : Renewal} (member : renewal ∈ renewalsOf id (engine.datedEntries steps)) :
    ∃ action ∈ steps.flatMap Step.actions, action.now = renewal.now := by
  obtain ⟨dated, logged, marked⟩ := (mem_renewals _ member).resolve_left List.not_mem_nil
  obtain ⟨action, inside, dates⟩ := mem_datedEntries logged
  exact ⟨action, inside, dates.trans marked⟩

/-- While the clock does not go back, the last renewal of a node is not older than its last
report. -/
theorem le_last_renewal {id : String} (log : List (Int64 × Entry)) :
    ∀ {start : Int64} {renewals : List Renewal},
      log.Pairwise (fun earlier later => earlier.1 ≤ later.1) →
      (∀ dated ∈ log, start ≤ dated.1) →
      (∀ last, renewals.getLast? = some last → start ≤ last.now) →
      ∀ last,
        (log.foldl (fun renewals dated => dated.2.renew id dated.1 renewals) renewals).getLast? =
          some last → (reportTimes id log).getLastD start ≤ last.now := by
  induction log with
  | nil => exact fun _ _ started => started
  | cons dated rest ih =>
    intro start renewals sorted begun started
    obtain ⟨next, sorted⟩ := List.pairwise_cons.mp sorted
    obtain ⟨first, begun⟩ := List.forall_mem_cons.mp begun
    cases reported : dated.2.reports id with
    | true =>
      have times : reportTimes id (dated :: rest) = dated.1 :: reportTimes id rest := by
        rw [reportTimes, List.filter_cons, if_pos reported]
        rfl
      rw [times, List.getLastD_cons]
      refine ih sorted next fun last isLast => ?_
      obtain ⟨now, entry⟩ := dated
      cases entry <;> simp only [Entry.reports, decide_eq_true_eq, reduceCtorEq] at reported
      simp only [Entry.renew, reported, if_true, List.getLast?_concat] at isLast
      cases isLast
      exact Int64.le_refl _
    | false =>
      have times : reportTimes id (dated :: rest) = reportTimes id rest := by
        rw [reportTimes, List.filter_cons, reported, if_neg Bool.false_ne_true]
        rfl
      rw [times]
      refine ih sorted begun fun last isLast => ?_
      obtain ⟨now, entry⟩ := dated
      have known : renewals.getLast? = some last ∨ last = .retirement now := by
        cases entry <;> simp only [Entry.renew, Entry.reports] at isLast reported <;> grind
      rcases known with before | rfl
      · exact started last before
      · exact first

/-- The last renewal in a stretch of steps is not older than the last report in it, nor than the
last renewal before it. -/
theorem le_last_renewal_run {engine : Engine} {earlier later : List Step} {id : String}
    (forward : Forward (earlier ++ later)) {last final : Renewal}
    (begun : (renewalsOf id (engine.datedEntries earlier)).getLast? = some last)
    (isFinal : (renewalsOf id (engine.datedEntries (earlier ++ later))).getLast? = some final) :
    (reportTimes id ((engine.run earlier).datedEntries later)).getLastD last.now ≤ final.now := by
  obtain ⟨_, inLater, across⟩ := forward_append.mp forward
  obtain ⟨source, origin, marked⟩ := exists_action_of_renewal (List.mem_of_getLast? begun)
  rw [datedEntries_append, renewalsOf, List.foldl_append] at isFinal
  refine le_last_renewal _ (Forward.datedEntries _ inLater) ?_ ?_ final isFinal
  · intro dated member
    obtain ⟨action, inside, same⟩ := mem_datedEntries member
    rw [← same, ← marked]
    exact across source origin action inside
  · intro latest isLatest
    cases begun.symm.trans isLatest
    exact Int64.le_refl _

/-- Reports in steps that come no earlier than a moment come no earlier either. -/
theorem le_reportTimes {engine : Engine} {steps : List Step} {id : String} {now : Int64}
    (later : ∀ action ∈ steps.flatMap Step.actions, now ≤ action.now) :
    ∀ time ∈ reportTimes id (engine.datedEntries steps), now ≤ time := by
  intro time member
  obtain ⟨dated, logged, rfl⟩ := List.mem_map.mp member
  obtain ⟨action, inside, same⟩ := mem_datedEntries (List.mem_of_mem_filter logged)
  exact same ▸ later action inside

/-- If the times of some reports and the end of a stretch follow each other closely, so do the
last report and any moment before the next one. -/
theorem elapsed_lt_of_isChain {retention start now : Int64} {before after : List Int64}
    (close : (start :: before ++ after).IsChain fun past recent =>
      Time.elapsed recent past < retention)
    (later : ∀ time ∈ after, now ≤ time) (nonempty : after ≠ []) :
    Time.elapsed now (before.getLastD start) < retention := by
  obtain ⟨_, _, joined⟩ := List.isChain_append.mp close
  obtain ⟨next, rest, rfl⟩ := List.exists_cons_of_ne_nil nonempty
  have last : (start :: before).getLast? = some (before.getLastD start) := by
    rw [List.getLast?_cons, List.getLastD_eq_getLast?]
  exact Int64.lt_of_le_of_lt (Time.elapsed_mono (later next List.mem_cons_self) _)
    (joined _ last next rfl)

/-! ## The theorem -/

section Run

variable (settings : Settings Float) (name : String) {steps : List Step}

/-- What a sweep collects after a run, going by the ledger of the run. -/
theorem mem_collected_run
    (noRestore : ∀ step ∈ steps, ∀ snapshot, step.operation? ≠ some (.restore snapshot))
    {id : String} {node : Node} (found : ((fresh settings name).run steps).get? id = some node)
    (now : Int64) :
    id ∈ (((fresh settings name).run steps).sweep now).2.collected ↔
      (∃ renewal ∈ renewalsOf id ((fresh settings name).datedEntries steps),
        renewal.isRetirement = true) ∧
      ∃ last, (renewalsOf id ((fresh settings name).datedEntries steps)).getLast? = some last ∧
        settings.registry.sundownRetention ≤ Time.elapsed now last.now := by
  have sound := (sound_fresh settings name).run steps
  have configured : ((fresh settings name).run steps).settings = settings :=
    (sound_fresh settings name).settings_run steps
  have renewed : Renewed (renewalsOf id ((fresh settings name).datedEntries steps)) node := by
    obtain ⟨slot, tracked, rfl⟩ := sound.registry.get?_eq_some_iff.mp found
    exact lives_run settings name noRestore id slot tracked
  have expires : id ∈ (((fresh settings name).run steps).sweep now).2.collected ↔
      node.category = .sundown ∧
        settings.registry.sundownRetention ≤ Time.elapsed now node.lastUpdated := by
    rw [mem_collected sound.registry, found, configured]
    simp only [Option.some.injEq, exists_eq_left', Node.isExpired_iff]
  rw [expires, renewed.retired]
  refine and_congr_right fun ⟨retirement, member, _⟩ => ?_
  -- There is a retirement, so there is a last renewal, and it is what the record bears.
  have isLast := List.getLast?_eq_some_getLast (List.ne_nil_of_mem member)
  rw [isLast, renewed.updated _ isLast]
  simp only [Option.some.injEq, exists_eq_left']

/-- A node whose renewals follow each other at intervals below the retention is not collected. -/
theorem not_mem_collected_of_isChain {earlier later : List Step}
    (noRestore : ∀ step ∈ earlier ++ later, ∀ snapshot,
      step.operation? ≠ some (.restore snapshot))
    (forward : Forward (earlier ++ later)) {finish : Int64} {id : String} {last : Renewal}
    (begun : (renewalsOf id ((fresh settings name).datedEntries earlier)).getLast? = some last)
    (ended : ∀ action ∈ later.flatMap Step.actions, action.now ≤ finish)
    (close : (last.now :: reportTimes id
        (((fresh settings name).run earlier).datedEntries later) ++ [finish]).IsChain
      fun past recent => Time.elapsed recent past < settings.registry.sundownRetention)
    {front back : List Step} {now : Int64}
    (split : later = front ++ .single now .sweep :: back) :
    id ∉ (((fresh settings name).run (earlier ++ front)).sweep now).2.collected := by
  subst split
  rw [← List.append_assoc] at noRestore forward
  intro collected
  have sound : ((fresh settings name).run (earlier ++ front)).Sound :=
    (sound_fresh settings name).run _
  obtain ⟨node, found, _⟩ := (mem_collected sound.registry).mp collected
  have kept := (List.forall_mem_append.mp noRestore).1
  obtain ⟨before, atSweep, _⟩ := forward_append.mp forward
  obtain ⟨_, final, isFinal, expired⟩ :=
    (mem_collected_run settings name kept found now).mp collected
  -- The last report before the sweep is not older than the last renewal.
  have recent := le_last_renewal_run before begun isFinal
  -- The next report, or the end of the stretch, does not come before the sweep.
  have next : ∀ time ∈ reportTimes id ((((fresh settings name).run earlier).run front).datedEntries
      (.single now .sweep :: back)) ++ [finish], now ≤ time := by
    refine List.forall_mem_append.mpr ⟨le_reportTimes ?_, List.forall_mem_singleton.mpr ?_⟩
    · exact List.forall_mem_cons.mpr ⟨Int64.le_refl _, (forward_single.mp atSweep).1⟩
    · refine ended ⟨now, .sweep⟩ ?_
      rw [List.flatMap_append]
      exact List.mem_append_right _ List.mem_cons_self
  rw [datedEntries_append, reportTimes_append, ← List.cons_append, List.append_assoc] at close
  have soon := elapsed_lt_of_isChain close next (List.append_ne_nil_of_right_ne_nil _ (by simp))
  exact absurd (Int64.le_trans expired (Time.elapsed_anti recent now)) (Int64.not_le.mpr soon)

end Run

/-- Whatever the clock does, a sweep collects exactly the tracked nodes that were decommissioned
since they were created and whose last renewal, be it the decommission or a reading that was
accepted, is at least the retention ago.  Registrations, repeated decommissions, refused readings,
recomputations and sweeps are no renewals.  While the clock goes forward, no sweep collects a node
that renews its life at intervals below the retention. -/
theorem run_collection (settings : Settings Float) (name : String) (steps : List Step)
    (noRestore : ∀ step ∈ steps, ∀ snapshot, step.operation? ≠ some (.restore snapshot)) :
    let start := fresh settings name
    let engine := start.run steps
    let retention := settings.registry.sundownRetention
    (∀ now id node, engine.get? id = some node →
      (id ∈ (engine.sweep now).2.collected ↔
        (∃ renewal ∈ renewalsOf id (start.datedEntries steps), renewal.isRetirement = true) ∧
          ∃ last, (renewalsOf id (start.datedEntries steps)).getLast? = some last ∧
            retention ≤ Time.elapsed now last.now) ∧
      ((engine.sweep now).1.get? id = none ↔ id ∈ (engine.sweep now).2.collected)) ∧
    (∀ now id, id ∈ (engine.sweep now).2.collected → ∃ node, engine.get? id = some node) ∧
    (∀ id node step, engine.get? id = some node → Idle engine id step →
      renewalsOf id (start.datedEntries (steps ++ [step])) =
        renewalsOf id (start.datedEntries steps)) ∧
    ∀ earlier later finish id last, steps = earlier ++ later → Forward steps →
      (renewalsOf id (start.datedEntries earlier)).getLast? = some last →
      (∀ action ∈ later.flatMap Step.actions, action.now ≤ finish) →
      (last.now :: reportTimes id ((start.run earlier).datedEntries later) ++ [finish]).IsChain
        (fun past recent => Time.elapsed recent past < retention) →
      ∀ front now back, later = front ++ .single now .sweep :: back →
        id ∉ ((start.run (earlier ++ front)).sweep now).2.collected := by
  intro start engine retention
  have sound : engine.Sound := (sound_fresh settings name).run steps
  refine ⟨?collected, ?tracked, ?idle, ?alive⟩
  case collected =>
    intro now id node found
    exact ⟨mem_collected_run settings name noRestore found now,
      get?_sweep_eq_none sound.registry found⟩
  case tracked =>
    intro now id collected
    obtain ⟨node, found, _⟩ := (mem_collected sound.registry).mp collected
    exact ⟨node, found⟩
  case idle => exact fun id node step found idle => idle.renewalsOf sound.registry found
  case alive =>
    intro earlier later finish id last rfl forward begun ended close front now back split
    exact not_mem_collected_of_isChain settings name noRestore forward begun ended close split

/-- A decommissioned node that reports once more outlives a sweep that comes more than the
retention after its decommission, and is collected once the retention has passed since its
report. -/
theorem run_collection_reporting :
    let earlier : List Step := [.single 0 (.submit (.loaded "node" none 1.0)),
      .single 1000 (.decommission "node")]
    let report : Step := .single 500000 (.submit (.loaded "node" none 1.0))
    let steps := earlier ++ [report, .single 900000 .sweep]
    (Settings.default : Settings Float).registry.sundownRetention = 600000 ∧
      "node" ∉ (((fresh .default "engine").run (earlier ++ [report])).sweep 900000).2.collected ∧
      "node" ∉ (((fresh .default "engine").run steps).sweep 1099999).2.collected ∧
      "node" ∈ (((fresh .default "engine").run steps).sweep 1100000).2.collected := by
  intro earlier report steps
  have noRestore : ∀ step ∈ steps, ∀ snapshot, step.operation? ≠ some (.restore snapshot) := by
    simp [steps, earlier, report]
  have forward : Forward steps := by
    simp [Forward, Step.actions, steps, earlier, report]
  have tracked : (((fresh .default "engine").run steps).get? "node").isSome = true := by
    decide +kernel
  obtain ⟨node, found⟩ := Option.isSome_iff_exists.mp tracked
  have renewals : renewalsOf "node" ((fresh .default "engine").datedEntries steps) =
      [.report 0, .retirement 1000, .report 500000] := by decide +kernel
  have begun : (renewalsOf "node" ((fresh .default "engine").datedEntries earlier)).getLast? =
      some (.retirement 1000) := by decide +kernel
  have reports : reportTimes "node" (((fresh .default "engine").run earlier).datedEntries
      [report, .single 900000 .sweep]) = [500000] := by decide +kernel
  have retention : (Settings.default : Settings Float).registry.sundownRetention = 600000 := by
    decide +kernel
  obtain ⟨collected, _, _, alive⟩ := run_collection .default "engine" steps noRestore
  refine ⟨retention, ?outlives, ?early, ?due⟩
  case outlives =>
    refine alive earlier _ 900000 "node" _ rfl forward begun (by simp [Step.actions, report]) ?_
      [report] 900000 [] rfl
    rw [reports, retention]
    decide +kernel
  case early =>
    intro member
    obtain ⟨_, last, isLast, passed⟩ := (collected 1099999 "node" node found).1.mp member
    rw [renewals] at isLast
    cases isLast
    rw [retention] at passed
    exact absurd passed (by decide +kernel)
  case due =>
    refine (collected 1100000 "node" node found).1.mpr ?_
    rw [renewals, retention]
    exact ⟨⟨.retirement 1000, by simp, rfl⟩, .report 500000, rfl, by decide +kernel⟩

end Engine

end Headroom
