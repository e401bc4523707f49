import Headroom.Proofs.Double.Range
import Headroom.Proofs.Engine.Ledger
import Headroom.Proofs.Engine.Slots
import Headroom.Proofs.Json.Legible
import Headroom.Proofs.Storage.Documents
import Headroom.Proofs.Storage.Saving

/-!
# Reported numbers are in range

A mean of readings may overflow, and a quotient of extreme numbers may be infinite or
undefined.  None of that gets into a record: every score lies between zero and one and every
usage between zero and the greatest percentage, whatever the settings and the readings.  So no
number is written as null, and every number is written with a numeral that can be read, which
is what it takes to load a snapshot that was saved.
-/

namespace Headroom

open Double

/-! ## Scores and usage -/

def Scores.InUnit (scores : Scores Float) : Prop :=
  ∀ number ∈ scores.dimensions ++ [scores.overall], Within 0.0 1.0 number

def Usage.InRange (usage : Usage Float) : Prop :=
  Within 0.0 1000000.0 usage.cpuPercent ∧ Within 0.0 1000000.0 usage.memoryPercent

structure Node.InRange (node : Node) : Prop where
  scores : node.scores.InUnit
  usage : node.usage.InRange

/-- The score that caused a transition, if one did, lies between zero and one. -/
def Transition.InRange (transition : Transition) : Prop :=
  ∀ score, transition.triggeringScore = some score → Within 0.0 1.0 score

structure Receipt.InRange (receipt : Receipt) : Prop where
  scores : receipt.scores.InUnit
  transition : ∀ transition, receipt.transition = some transition → transition.InRange

namespace Scores

theorem inUnit_initial : (initial : Scores Float).InUnit := by
  have full : Within 0.0 1.0 1.0 := by decide
  exact forall_numbers.mpr ⟨full, full, full, full, full⟩

theorem inUnit_combine (scoring : Scoring Float) {cpu memory network availability : Float}
    (cpuWithin : Within 0.0 1.0 cpu) (memoryWithin : Within 0.0 1.0 memory)
    (networkWithin : Within 0.0 1.0 network) (availabilityWithin : Within 0.0 1.0 availability) :
    (scoring.combine cpu memory network availability).InUnit :=
  forall_numbers.mpr ⟨cpuWithin, memoryWithin, networkWithin, availabilityWithin,
    within_clampUnit _⟩

theorem inUnit_scores (scoring : Scoring Float) (window : Window Float) :
    (scoring.scores window).InUnit := by
  have full : Within 0.0 1.0 1.0 := by decide
  rw [Scoring.scores]
  by_cases empty : window.isEmpty = true
  · rw [if_pos empty]
    exact inUnit_combine scoring full full full full
  · rw [if_neg empty]
    exact inUnit_combine scoring (within_headroom _) (within_headroom _) (within_clampUnit _)
      (within_clampUnit _)

theorem InUnit.overall {scores : Scores Float} (inUnit : scores.InUnit) :
    Within 0.0 1.0 scores.overall := inUnit _ (by simp)

end Scores

theorem Usage.inRange_none : (none : Usage Float).InRange := ⟨by decide, by decide⟩

theorem Usage.inRange_usage (scoring : Scoring Float) (sample : Sample Float) :
    (scoring.usage sample).InRange := by
  have nonneg : (0.0 : Float) ≤ Scoring.percentCeiling := by decide
  exact ⟨within_clampTo nonneg _, within_clampTo nonneg _⟩

/-- The numbers of a record in range are below four billion. -/
theorem Node.InRange.small {node : Node} (inRange : node.InRange) :
    ∀ number ∈ node.numbers, Small 32 number.toModel.unpack := by
  have one : Small 32 (1.0 : Float).toModel.unpack := by decide
  have greatest : Small 32 (1000000.0 : Float).toModel.unpack := by decide
  rw [Node.forall_numbers]
  exact ⟨fun number member => (inRange.scores number member).small one,
    inRange.usage.1.small greatest, inRange.usage.2.small greatest⟩

theorem Node.InRange.isFinite {node : Node} (inRange : node.InRange) : node.IsFinite :=
  fun number member => (inRange.small number member).isFinite

/-! ## Members that are null -/

mutual

/-- The names of the members that are null, at any depth.  An item of an array goes by the name
of the array. -/
def Json.nulls (name : String) : Json → List String
  | .null => [name]
  | .array items => nullItems name items
  | .object members => nullMembers members
  | _ => []

def Json.nullItems (name : String) : List Json → List String
  | [] => []
  | item :: rest => item.nulls name ++ nullItems name rest

def Json.nullMembers : List (String × Json) → List String
  | [] => []
  | (name, value) :: rest => value.nulls name ++ nullMembers rest

end

namespace Json

@[simp]
theorem nulls_array (name : String) (items : List Json) :
    (Json.array items).nulls name = items.flatMap (nulls name) := by
  rw [nulls]
  induction items with
  | nil => rfl
  | cons item rest ih => rw [nullItems, List.flatMap_cons, ih]

@[simp]
theorem nulls_object (name : String) (members : List (String × Json)) :
    (Json.object members).nulls name = members.flatMap fun entry => entry.2.nulls entry.1 := by
  rw [nulls]
  induction members with
  | nil => rfl
  | cons entry rest ih => rw [nullMembers, List.flatMap_cons, ih]

theorem nulls_float {number : Float} (finite : number.isFinite = true) (name : String) :
    (Json.float number).nulls name = [] := by
  rw [Json.float, if_pos finite]
  rfl

end Json

theorem Scores.nulls_toJson {scores : Scores Float} (finite : scores.IsFinite) (name : String) :
    scores.toJson.nulls name = [] := by
  obtain ⟨cpu, memory, network, availability, overall⟩ := forall_numbers.mp finite
  simp only [toJson, Json.nulls_object, List.flatMap_cons, List.flatMap_nil, Json.nulls_float cpu,
    Json.nulls_float memory, Json.nulls_float network, Json.nulls_float availability,
    Json.nulls_float overall, List.append_nil]

theorem Container.nulls_toJson (container : Container) (name : String) :
    container.toJson.nulls name = [] := by
  have texts (values : List String) (name : String) : (Json.texts values).nulls name = [] := by
    rw [Json.texts, Json.nulls_array, List.flatMap_eq_nil_iff]
    intro item member
    obtain ⟨text, _, rfl⟩ := List.mem_map.mp member
    rfl
  have ports (name : String) : (Json.ofDictionary .texts container.ports).nulls name = [] := by
    rw [Json.ofDictionary, Json.nulls_object, List.flatMap_eq_nil_iff]
    intro entry member
    obtain ⟨port, _, rfl⟩ := List.mem_map.mp member
    exact texts _ _
  have started : (Json.given "started_at" .time container.startedAt).flatMap
      (fun entry => entry.2.nulls entry.1) = [] := by
    cases container.startedAt <;> rfl
  simp only [toJson, Json.nulls_object, List.flatMap_append, List.flatMap_cons, List.flatMap_nil,
    ports, started]
  rfl

/-- Of the members of a record with finite numbers, the time of the last sample is null if there
was none, and no other member is. -/
theorem Node.nulls_toJson {node : Node} (finite : node.IsFinite) (name : String) :
    node.toJson.nulls name = node.lastSampleAt.elim ["last_sample_at"] fun _ => [] := by
  obtain ⟨scores, cpu, memory⟩ := Node.isFinite_iff.mp finite
  have usage (name : String) : node.usage.toJson.nulls name = [] := by
    simp only [Usage.toJson, Json.nulls_object, List.flatMap_cons, List.flatMap_nil,
      Json.nulls_float cpu, Json.nulls_float memory, List.append_nil]
  have container : (Json.given "container" Container.toJson node.container).flatMap
      (fun entry => entry.2.nulls entry.1) = [] := by
    cases node.container with
    | none => rfl
    | some container => exact (List.append_nil _).trans (container.nulls_toJson _)
  simp only [toJson, Json.nulls_object, List.flatMap_append, List.flatMap_cons, List.flatMap_nil,
    Scores.nulls_toJson scores, usage, container]
  cases node.lastSampleAt <;> rfl

/-- The score of a transition is null if none caused it, and no other member is. -/
theorem Transition.InRange.nulls_toJson {transition : Transition} (inRange : transition.InRange)
    (name : String) : transition.toJson.nulls name =
      transition.triggeringScore.elim ["triggering_score"] fun _ => [] := by
  simp only [toJson, Json.nulls_object, List.flatMap_cons, List.flatMap_nil]
  cases score : transition.triggeringScore with
  | none => rfl
  | some number =>
    have one : Small 32 (1.0 : Float).toModel.unpack := by decide
    have finite := ((inRange number score).small one).isFinite
    simp only [Json.nullable, Json.nulls_float finite]
    rfl

/-! ## Snapshots are loaded -/

/-- What the numeral of a double is read as. -/
def Json.reread (number : Float) : Float :=
  match readText Reader.float (Json.float number).compact with
  | .ok other => other
  | .error _ => number

/-- The numeral of a double below four billion denotes what it is read as. -/
theorem Json.restates_reread {number : Float} (small : Small 32 number.toModel.unpack) :
    Restates reread number := by
  have finite : number.isFinite = true := small.isFinite
  obtain ⟨other, denotes⟩ := Draft.exists_denotes small
  have legible : Draft.Legible (fun _ => other) (.number (.float number)) := .double denotes
  have read : readText Reader.float (Json.float number).compact = .ok other := by
    rw [Json.float, if_pos finite, legible.readText]
    rfl
  have same : reread number = other := by
    rw [reread, read]
  exact ⟨finite, same.symm ▸ denotes⟩

/-- A snapshot whose records are in range is read back, with the numbers that its numerals are
read as. -/
theorem SnapshotFile.readText_inRange {snapshot : Snapshot}
    (inRange : ∀ node ∈ snapshot.nodes, node.InRange) :
    readText Snapshot.reader (encode snapshot) = .ok (snapshot.restate Json.reread) :=
  readText_restated fun node member number inside =>
    Json.restates_reread ((inRange node member).small number inside)

/-! ## Runs -/

namespace Engine

theorem kept_inRange (settings : Settings Float) :
    Kept settings fun _ slot => slot.node.InRange where
  entered := fun _ _ _ => ⟨Scores.inUnit_initial, Usage.inRange_none⟩
  observed := fun _ _ _ _ _ _ => ⟨Scores.inUnit_scores _ _, Usage.inRange_usage _ _⟩
  described := fun _ _ _ _ inRange => ⟨inRange.scores, inRange.usage⟩
  retired := fun _ _ _ inRange => ⟨inRange.scores, inRange.usage⟩
  rescored := fun _ _ inRange => ⟨Scores.inUnit_scores _ _, inRange.usage⟩
  flagged := fun _ _ _ inRange => ⟨inRange.scores, inRange.usage⟩

theorem inRange_receiptFor (engine : Engine) (now : Int64) (reading : Reading Float) :
    (engine.receiptFor now reading).InRange where
  scores := Scores.inUnit_scores _ _
  transition := by
    intro transition changed score triggered
    obtain ⟨_, rfl⟩ := Transition.ofScore?_eq_some.mp changed
    cases triggered
    exact (Scores.inUnit_scores _ _).overall

theorem inRange_farewell (slot : Slot) (id : String) (now : Int64) :
    (farewell slot id now).InRange := nofun

def Entry.InRange : Entry → Prop
  | accepted receipt => receipt.InRange
  | retired transition => transition.InRange
  | _ => True

theorem Entry.InRange.transition {entry : Entry} (inRange : entry.InRange) {transition : Transition}
    (reported : entry.transition? = some transition) : transition.InRange := by
  cases entry with
  | accepted receipt => exact Receipt.InRange.transition inRange transition reported
  | retired other =>
    cases reported
    exact inRange
  | _ => cases reported

theorem Turn.inRange {engine : Engine} {now : Int64} {added : List Entry} {registry : Registry}
    {tally : Tally} {table : PerCategory (PerCategory UInt64)}
    (turn : Turn engine now added registry tally table) : ∀ entry ∈ added, entry.InRange := by
  cases turn with
  | nothing => exact List.forall_mem_nil _
  | rescored => exact List.forall_mem_nil _
  | accepted => exact List.forall_mem_singleton.mpr (inRange_receiptFor engine now _)
  | retired => exact List.forall_mem_singleton.mpr (inRange_farewell _ _ now)
  | _ => exact List.forall_mem_singleton.mpr trivial

theorem mem_record {history : History} {recorded transition : Transition}
    (member : transition ∈ (history.record recorded).entries) :
    transition ∈ history.entries ∨ transition = recorded := by
  rw [History.record] at member
  split at member
  · exact .inl member
  · rcases List.mem_append.mp member with earlier | last
    · exact .inl (List.mem_of_mem_drop earlier)
    · exact .inr (List.mem_singleton.mp last)

/-- An operation records nothing but transitions in range. -/
theorem Effect.inRange {engine : Engine} {now : Int64} {operation : Operation}
    {registry : Registry} {history : History}
    (effect : Effect engine now operation registry history)
    (before : ∀ transition ∈ engine.history.entries, transition.InRange) :
    ∀ transition ∈ history.entries, transition.InRange := by
  have recorded {change : Transition} (inRange : change.InRange) :
      ∀ transition ∈ (engine.history.record change).entries, transition.InRange := by
    intro transition member
    rcases mem_record member with earlier | rfl
    · exact before transition earlier
    · exact inRange
  cases effect with
  | @observed reading =>
    cases changed : (engine.receiptFor now reading).transition with
    | none => exact before
    | some change =>
      have receipt := inRange_receiptFor engine now reading
      exact recorded (receipt.transition change changed)
  | retired => exact recorded (inRange_farewell _ _ now)
  | _ => exact before

/-- What a run adds to the history is in range, whatever it restores. -/
theorem inRange_follow (actions : List Action) : ∀ {engine : Engine}, engine.Sound →
    (∀ transition ∈ engine.history.entries, transition.InRange) →
      ∀ transition ∈ (engine.follow actions).history.entries, transition.InRange := by
  induction actions with
  | nil => exact fun _ before => before
  | cons action rest ih =>
    intro engine sound before
    exact ih (sound.act action) ((effect_act sound.registry action).2.inRange before)

/-- In every state that a run without a restore reaches, all reported numbers are in range: the
scores and the usage of every record, the scores of every receipt, and the score of every
transition, returned or kept.  Records and transitions are written without a number that is
null, and the file of every snapshot that is saved can be loaded. -/
theorem run_ranges (settings : Settings Float) (name : String) (steps : List Step)
    (noRestore : ∀ step ∈ steps, ∀ snapshot, step.operation? ≠ some (.restore snapshot)) :
    let engine := (fresh settings name).run steps
    let log := (fresh settings name).entries steps
    (∀ node ∈ engine.list none, node.InRange ∧
      node.toJson.nulls "" = node.lastSampleAt.elim ["last_sample_at"] fun _ => []) ∧
    (∀ receipt, .accepted receipt ∈ log → receipt.InRange) ∧
    (∀ transition ∈ transitionsOf log ++ engine.history.entries, transition.InRange ∧
      transition.toJson.nulls "" =
        transition.triggeringScore.elim ["triggering_score"] fun _ => []) ∧
    ∀ (now : Int64) (file : SnapshotFile) (before after : Disk),
      file.save before (engine.snapshot now).2 = (after, .ok ()) →
        file.load after = .ok (some ((engine.view now).restate Json.reread)) := by
  intro engine log
  have records : ∀ node ∈ engine.list none, node.InRange := by
    intro node member
    have sound := ((sound_fresh settings name).run steps).registry
    obtain ⟨slot, tracked, rfl⟩ := sound.slot_of_mem_nodes member
    exact (kept_inRange settings).run name noRestore tracked
  obtain ⟨reported, kept⟩ : (∀ entry ∈ log, entry.InRange) ∧
      ∀ transition ∈ engine.history.entries, transition.InRange := by
    refine run_induction
      (p := fun engine log => (∀ entry ∈ log, entry.InRange) ∧
        ∀ transition ∈ engine.history.entries, transition.InRange)
      (sound_fresh settings name) noRestore
      ⟨List.forall_mem_nil _, List.forall_mem_nil _⟩ ?_
    intro engine log action sound turn ⟨reported, kept⟩
    exact ⟨List.forall_mem_append.mpr ⟨reported, turn.inRange⟩,
      (effect_act sound.registry action).2.inRange kept⟩
  have transitions : ∀ transition ∈ transitionsOf log ++ engine.history.entries,
      transition.InRange := by
    refine List.forall_mem_append.mpr ⟨fun transition member => ?_, kept⟩
    obtain ⟨entry, inside, change⟩ := List.mem_filterMap.mp member
    exact (reported entry inside).transition change
  refine ⟨fun node member => ?_, fun receipt => reported _, fun transition member => ?_, ?_⟩
  · have inRange := records node member
    exact ⟨inRange, Node.nulls_toJson inRange.isFinite ""⟩
  · have inRange := transitions transition member
    exact ⟨inRange, inRange.nulls_toJson ""⟩
  · intro now file before after saved
    exact SnapshotFile.load_of_readFile? (SnapshotFile.readFile?_save saved)
      (SnapshotFile.readText_inRange records)

/-- Loads whose sum is infinite leave a node without headroom, with the greatest percentage. -/
theorem run_ranges_overloaded :
    let steps : List Step :=
      [.batch [(0, .loaded "a" none 1.0e308), (1, .loaded "a" none 1.0e308)]]
    let engine := (fresh .default "engine").run steps
    let file : SnapshotFile := ⟨"snapshot.json"⟩
    (∃ node ∈ engine.list none, node.InRange ∧ node.scores.cpu ≤ 0.0 ∧
      1000000.0 ≤ node.usage.cpuPercent) ∧
    ∃ after, file.save .empty (engine.snapshot 1).2 = (after, .ok ()) ∧
      file.load after = .ok (some ((engine.view 1).restate Json.reread)) := by
  intro steps engine file
  have noRestore : ∀ step ∈ steps, ∀ snapshot, step.operation? ≠ some (.restore snapshot) := by
    simp [steps]
  obtain ⟨records, _, _, loads⟩ := run_ranges .default "engine" steps noRestore
  have overloaded : (engine.list none).any (fun node =>
      node.scores.cpu ≤ 0.0 && 1000000.0 ≤ node.usage.cpuPercent) = true := by
    decide +kernel
  obtain ⟨node, member, extreme⟩ := List.any_eq_true.mp overloaded
  obtain ⟨noHeadroom, greatest⟩ := Bool.and_eq_true_iff.mp extreme
  obtain ⟨after, saved⟩ := SnapshotFile.save_empty (engine.snapshot 1).2
  exact ⟨⟨node, member, (records node member).1, of_decide_eq_true noHeadroom,
    of_decide_eq_true greatest⟩, after, saved, loads 1 file .empty after saved⟩

end Engine

end Headroom
