import Headroom.Proofs.Engine.Ledger

/-!
# Totals of the intake

What counts as refused is kept by label, and a total is taken when it is asked for.  Both totals
grow over a run by the readings that were answered one way and the other, whatever else happens
in the run: a restore brings in nodes, but no readings.
-/

namespace Headroom

theorem Rejections.total_count (rejections : Rejections) (code : RejectionCode) :
    (rejections.count code).total = rejections.total + 1 := by
  cases code <;> grind [total, count]

namespace Engine

def Entry.isRefused : Entry → Bool
  | rejected _ => true
  | _ => false

/-- A reading is either accepted or refused. -/
theorem countP_isReading (log : List Entry) :
    log.countP Entry.isReading = log.countP Entry.isAccepted + log.countP Entry.isRefused := by
  induction log with
  | nil => rfl
  | cons entry rest ih =>
    rw [List.countP_cons, List.countP_cons, List.countP_cons, ih]
    cases entry <;> simp [Entry.isReading, Entry.isAccepted, Entry.isRefused] <;> omega

/-- Two tallies of which the second has counted the readings of a ledger more than the first. -/
structure Tally.Grows (before after : Tally) (log : List Entry) : Prop where
  accepted : after.accepted = before.accepted + .ofNat (log.countP Entry.isAccepted)
  rejected : after.rejected.total = before.rejected.total + .ofNat (log.countP Entry.isRefused)

namespace Tally.Grows

theorem none (tally : Tally) : Grows tally tally [] :=
  ⟨(UInt64.add_zero _).symm, (UInt64.add_zero _).symm⟩

theorem append {before between after : Tally} {log added : List Entry}
    (first : Grows before between log) (second : Grows between after added) :
    Grows before after (log ++ added) where
  accepted := by
    rw [second.accepted, first.accepted, List.countP_append, UInt64.ofNat_add, UInt64.add_assoc]
  rejected := by
    rw [second.rejected, first.rejected, List.countP_append, UInt64.ofNat_add, UInt64.add_assoc]

end Tally.Grows

theorem Turn.grows {engine : Engine} {now : Int64} {added : List Entry} {registry : Registry}
    {tally : Tally} {table : PerCategory (PerCategory UInt64)}
    (turn : Turn engine now added registry tally table) : Tally.Grows engine.tally tally added := by
  cases turn with
  | accepted => exact ⟨rfl, (UInt64.add_zero _).symm⟩
  | refused => exact ⟨(UInt64.add_zero _).symm, Rejections.total_count _ _⟩
  | _ => exact ⟨(UInt64.add_zero _).symm, (UInt64.add_zero _).symm⟩

theorem grows_act {engine : Engine} (sound : engine.registry.Sound) (action : Action) :
    Tally.Grows engine.tally (engine.act action).tally
      (engine.perform action.now action.operation).2.entries := by
  by_cases restores : ∃ snapshot, action.operation = .restore snapshot
  · obtain ⟨snapshot, restored⟩ := restores
    rw [act, restored]
    exact .none _
  · exact (turn_act sound (not_exists.mp restores)).grows

theorem grows_follow (actions : List Action) :
    ∀ {engine : Engine}, engine.Sound →
      Tally.Grows engine.tally (engine.follow actions).tally (engine.ledger actions) := by
  induction actions with
  | nil => exact fun _ => .none _
  | cons action rest ih =>
    exact fun sound => (grows_act sound.registry action).append (ih (sound.act action))

/-- Over a run, the totals grow by what was answered. -/
theorem grows_run (steps : List Step) {engine : Engine} (sound : engine.Sound) :
    Tally.Grows engine.tally (engine.run steps).tally (engine.entries steps) := by
  rw [run_eq_follow, entries_eq_ledger]
  exact grows_follow _ sound

/-- A reading that is handed in is accepted or refused, and counted once. -/
theorem answered_run (steps : List Step) (engine : Engine) :
    (engine.entries steps).countP Entry.isAccepted + (engine.entries steps).countP Entry.isRefused =
      (steps.flatMap Step.readings).length := by
  rw [← countP_isReading, countP_entries]

end Engine

end Headroom
