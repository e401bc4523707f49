import Headroom.Proofs.Json.Aside
import Headroom.Proofs.Json.Contents
import Headroom.Proofs.Storage.Documents
import Headroom.Schema.Engine

/-!
# What an engine answers is read back

Transitions, receipts, outcomes, statistics and health reports are read from their documents
as they were, where the numerals of their doubles are exact.  The kind of an outcome stands
among the members of its receipt, so the members are put aside until the kind is known; they
are none the worse for it.
-/

namespace Headroom

open RecordReader (Builds)

/-! ## Transitions and receipts -/

def Transition.numbers (transition : Transition) : List Float := transition.triggeringScore.toList

def Receipt.numbers (receipt : Receipt) : List Float :=
  receipt.scores.dimensions ++ [receipt.scores.overall] ++
    receipt.transition.elim [] Transition.numbers

theorem Category.readsAside (category : Category) :
    ReadsExactly readerAside category.toJson category :=
  ⟨.string category.word, by cases category <;> rfl⟩

section Categories

variable {category : Reader Category}
  (categoryReads : ∀ value : Category, ReadsExactly category value.toJson value)

include categoryReads

theorem Transition.reads {transition : Transition}
    (exact : ∀ number ∈ transition.numbers, Exact number) :
    ReadsExactly (readerBy category) transition.toJson transition := by
  have scoreExact : ∀ score, transition.triggeringScore = some score → Exact score :=
    fun score known => exact score (Option.mem_toList.mpr known)
  have scoreRead : ReadsExactly Reader.float.optional (.nullable .float transition.triggeringScore)
      transition.triggeringScore := by
    refine .nullable (fun score known => .float (scoreExact score known)) fun score known => ?_
    rw [(scoreExact score known).written]
    nofun
  have distinct : ["node_id", "from", "to", "triggering_score", "timestamp"].Nodup := by decide
  exact Builds.read (Builds.nothing Transition.mk
    |>.field (.written (.string transition.id))
    |>.field (.written (categoryReads transition.source))
    |>.field (.written (categoryReads transition.target))
    |>.field (.written scoreRead)
    |>.field (.written (.time transition.timestamp))) (by exact distinct) rfl

theorem Receipt.reads {receipt : Receipt} (exact : ∀ number ∈ receipt.numbers, Exact number) :
    ReadsExactly (readerBy category) receipt.toJson receipt := by
  obtain ⟨scoresExact, transitionExact⟩ := List.forall_mem_append.mp exact
  obtain ⟨id, timestamp, scores, current, created, transition⟩ := receipt
  have transitionRead : ∀ change, transition = some change →
      ReadsExactly (Transition.readerBy category) change.toJson change := by
    rintro change rfl
    exact Transition.reads categoryReads transitionExact
  have distinct : ["node_id", "timestamp", "scores", "category", "created", "transition"].Nodup := by
    decide
  refine Builds.read (Builds.nothing Receipt.mk
    |>.field (.written (.string id))
    |>.field (.written (.time timestamp))
    |>.field (.written (Scores.reads scoresExact))
    |>.field (.written (categoryReads current))
    |>.field (.written (.bool created))
    |>.field (.given rfl rfl transitionRead fun _ => nofun)) (by exact distinct) ?_
  cases transition <;> rfl

end Categories

section Finite

variable (category : Reader Category)

open RecordReader.Yields in
theorem Transition.yields : (readerBy category).Yields fun transition =>
    ∀ number ∈ transition.numbers, number.isFinite = true := by
  refine read (field (.any _) (field (.nullable .float) (field (.any _) (field (.any _)
    (field (.any _) (nothing ?_))))))
  intro _ _ _ _ _ _ score scoreFinite _ _ number member
  exact scoreFinite number (Option.mem_toList.mp member)

open RecordReader.Yields in
theorem Receipt.yields : (readerBy category).Yields fun receipt =>
    ∀ number ∈ receipt.numbers, number.isFinite = true := by
  refine read (field (.nullable (Transition.yields category)) (field (.any _) (field (.any _)
    (field (.required Scores.yields) (field (.any _) (field (.any _) (nothing ?_)))))))
  intro _ _ _ _ scores scoresFinite _ _ _ _ transition transitionFinite
  refine List.forall_mem_append.mpr ⟨scoresFinite, ?_⟩
  cases transition with
  | none => exact List.forall_mem_nil _
  | some change => exact transitionFinite change rfl

end Finite

/-! ## Outcomes -/

def Outcome.numbers : Outcome → List Float
  | accepted receipt => receipt.numbers
  | rejected .. => []

namespace Outcome

/-- The members other than the tag are put aside as they are. -/
theorem readMembers_rest (kind : Kind) {members : List (String × Json)}
    (untagged : ∀ entry ∈ members, entry.1 ≠ tag)
    (shallow : ∀ entry ∈ members, entry.2.Shallow (Draft.depthLimit - 1)) :
    readMembers (some kind)
      (members.map fun entry => (.string (some entry.1), .ofJson entry.2)) .closed =
        .ok (kind, members) := by
  induction members with
  | nil => rfl
  | cons entry rest ih =>
    rw [List.forall_mem_cons] at untagged shallow
    have kept := Draft.toJson_ofJson shallow.1
    simp only [List.map_cons, readMembers, Draft.readName, kept, ih untagged.2 shallow.2, bind,
      Except.bind, if_neg untagged.1]

/-- An outcome whose tag stands in front is read like its other members. -/
theorem reads_tagged {kind : Kind} {members : List (String × Json)} {outcome : Outcome}
    (rest : ReadsExactly (ofKind kind) (.object members) outcome)
    (untagged : ∀ entry ∈ members, entry.1 ≠ tag)
    (shallow : ∀ entry ∈ members, entry.2.Shallow (Draft.depthLimit - 1)) :
    ReadsExactly reader (.object ((tag, .string kind.word) :: members)) outcome := by
  have taken := rest.taken
  rw [rest.legible.restate_id] at taken
  have legible : LegibleExactly (.object ((tag, .string kind.word) :: members)) := by
    cases rest.legible with
    | object each => exact .object (List.forall_mem_cons.mpr ⟨.string _, each⟩)
  have word : Draft.ofJson (.string kind.word) = .string (some kind.word) := rfl
  have known : kindReader (.string (some kind.word)) = .ok kind := by cases kind <;> rfl
  have others := readMembers_rest kind untagged shallow
  refine ⟨legible, ?_⟩
  rw [legible.restate_id, Draft.ofJson_object, List.map_cons]
  simp only [reader, readMembers, Draft.readName, word, known, others, complete, readJson, taken,
    bind, Except.bind, Except.toOption, if_true, Option.isSome_none, Bool.false_eq_true, if_false]

theorem shallow_scores (scores : Scores Float) (depth : Nat) :
    scores.toJson.Shallow (depth + 1) := by
  apply Json.Shallow.object
  simp only [List.forall_mem_cons]
  exact ⟨.float _ _, .float _ _, .float _ _, .float _ _, .float _ _, List.forall_mem_nil _⟩

theorem shallow_transition (transition : Transition) (depth : Nat) :
    transition.toJson.Shallow (depth + 1) := by
  have score : (Json.nullable .float transition.triggeringScore).Shallow depth := by
    cases transition.triggeringScore with
    | none => exact .null depth
    | some score => exact .float depth score
  apply Json.Shallow.object
  simp only [List.forall_mem_cons]
  exact ⟨.string _ _, .string _ _, .string _ _, score, .number _ _, List.forall_mem_nil _⟩

theorem shallow_receipt (receipt : Receipt) (depth : Nat) :
    ∀ entry ∈ receipt.members, entry.2.Shallow (depth + 1) := by
  refine List.forall_mem_append.mpr ⟨?_, ?_⟩
  · simp only [List.forall_mem_cons]
    exact ⟨.string _ _, .number _ _, shallow_scores _ _, .string _ _, .bool _ _,
      List.forall_mem_nil _⟩
  · cases receipt.transition with
    | none => exact List.forall_mem_nil _
    | some transition => exact List.forall_mem_singleton.mpr (shallow_transition transition depth)

theorem untagged_receipt (receipt : Receipt) : ∀ entry ∈ receipt.members, entry.1 ≠ tag := by
  refine List.forall_mem_append.mpr ⟨?_, ?_⟩
  · simp only [List.forall_mem_cons]
    decide
  · cases receipt.transition with
    | none => exact List.forall_mem_nil _
    | some transition =>
      have differs : "transition" ≠ tag := by decide
      exact List.forall_mem_singleton.mpr differs

/-- An outcome is read with its tag in front of the fields of either kind. -/
theorem reads {outcome : Outcome} (exact : ∀ number ∈ outcome.numbers, Exact number) :
    ReadsExactly reader outcome.toJson outcome := by
  cases outcome with
  | accepted receipt =>
    have receiptRead := Receipt.reads Category.readsAside exact
    have rest : ReadsExactly (ofKind .accepted) (.object receipt.members) (.accepted receipt) :=
      ⟨receiptRead.legible, congrArg (Except.map accepted) receiptRead.taken⟩
    exact reads_tagged rest (untagged_receipt receipt) (shallow_receipt receipt _)
  | rejected id code error =>
    have rest : ReadsExactly (ofKind .rejected)
        (.object [("node_id", .string id), ("code", .string code), ("error", .string error)])
        (.rejected id code error) :=
      Builds.read (Builds.nothing rejected
        |>.field (.written (.string id))
        |>.field (.written (.string code))
        |>.field (.written (.string error))) (by decide) rfl
    refine reads_tagged rest ?_ ?_
    · simp only [List.forall_mem_cons]
      decide
    · simp only [List.forall_mem_cons]
      exact ⟨.string _ _, .string _ _, .string _ _, List.forall_mem_nil _⟩

/-! An outcome that is read has finite numbers: what is put aside keeps its numbers. -/

theorem isFinite_readMembers {ending : Ending} (members : List (Draft × Draft)) :
    ∀ {found : Option Kind} {kind : Kind} {rest : List (String × Json)},
      (∀ member ∈ members, member.2.IsFinite) →
        readMembers found members ending = .ok (kind, rest) →
          ∀ entry ∈ rest, (Draft.ofJson entry.2).IsFinite := by
  induction members with
  | nil =>
    intro found kind rest _ read
    cases found <;> cases ending <;> cases read
    exact List.forall_mem_nil _
  | cons member more ih =>
    intro found kind rest finite read
    rw [List.forall_mem_cons] at finite
    obtain ⟨name, value⟩ := member
    simp only [readMembers, Guards.bind_eq_ok] at read
    obtain ⟨text, _, read⟩ := read
    by_cases tagged : text = tag
    · rw [if_pos tagged, Guards.ite_error_eq_ok, Guards.bind_eq_ok] at read
      obtain ⟨_, _, _, read⟩ := read
      exact ih finite.2 read
    · rw [if_neg tagged, Guards.bind_eq_ok] at read
      obtain ⟨kept, aside, read⟩ := read
      rw [Guards.bind_eq_ok] at read
      obtain ⟨⟨other, others⟩, later, same⟩ := read
      cases same
      exact List.forall_mem_cons.mpr ⟨finite.1.toJson aside, ih finite.2 later⟩

open RecordReader.Yields in
theorem ofKind_yields (kind : Kind) :
    (ofKind kind).Yields fun outcome => ∀ number ∈ outcome.numbers, number.isFinite = true := by
  cases kind with
  | accepted =>
    intro draft outcome finite read
    obtain ⟨receipt, taken, rfl⟩ := Guards.map_eq_ok.mp read
    exact Receipt.yields Category.readerAside finite taken
  | rejected =>
    refine RecordReader.Yields.read (field (.any _) (field (.any _) (field (.any _) (nothing ?_))))
    exact fun _ _ _ _ _ _ => List.forall_mem_nil _

theorem isFinite_complete {kind : Kind} {rest : Json} {outcome : Outcome}
    (finite : (Draft.ofJson rest).IsFinite) (read : complete kind rest = .ok outcome) :
    ∀ number ∈ outcome.numbers, number.isFinite = true := by
  rw [complete, readJson] at read
  cases taken : ofKind kind (Draft.ofJson rest) with
  | error fault =>
    rw [taken] at read
    cases read
  | ok value =>
    rw [taken] at read
    cases read
    exact ofKind_yields kind finite taken

theorem yields :
    reader.Yields fun outcome => ∀ number ∈ outcome.numbers, number.isFinite = true := by
  intro draft outcome finite read
  cases finite with
  | object each ending =>
    simp only [reader, Guards.bind_eq_ok] at read
    obtain ⟨⟨kind, rest⟩, aside, read⟩ := read
    refine isFinite_complete ?_ read
    rw [Draft.ofJson_object]
    exact .object (List.forall_mem_map.mpr (isFinite_readMembers _ each aside)) .closed
  | @array items each ending =>
    cases items with
    | nil => cases ending <;> cases read
    | cons word rest =>
      simp only [reader, Guards.bind_eq_ok] at read
      obtain ⟨kind, _, values, aside, read⟩ := read
      refine isFinite_complete ?_ read
      rw [Draft.ofJson_array]
      rw [List.forall_mem_cons] at each
      refine .array (List.forall_mem_map.mpr ?_) .closed
      exact Draft.forall_toItems (p := fun value => (Draft.ofJson value).IsFinite) rest
        (fun item member value kept => (each.2 item member).toJson kept) aside
  | _ => cases read

end Outcome

/-! ## Statistics and health -/

theorem Statistics.reads (statistics : Statistics) :
    ReadsExactly reader statistics.toJson statistics := by
  have capacityRead : ReadsExactly Reader.uint64.optional
      (.nullable .natural statistics.capacity) statistics.capacity :=
    .nullable (fun count _ => .natural count) fun _ _ => nofun
  have named (category : Category) : categoryName category.word = .ok category := by
    cases category <;> rfl
  exact Builds.read (Builds.nothing Statistics.mk
    |>.field (.written (.natural statistics.nodesTracked))
    |>.field (.written capacityRead)
    |>.field (.written (.natural statistics.samplesAccepted))
    |>.field (.written (.dictionary fun entry _ => .natural entry.2))
    |>.field (.written (.natural statistics.transitions))
    |>.field (.written (.natural statistics.nodesCollected))
    |>.field (.written (.natural statistics.staleNodes))
    |>.field (.written (.members named fun entry _ => .natural entry.2))) (by decide) rfl

theorem Condition.reads (condition : Condition) :
    ReadsExactly reader condition.toJson condition :=
  ⟨.string condition.word, by cases condition <;> rfl⟩

theorem ComponentReport.reads (report : ComponentReport) :
    ReadsExactly reader report.toJson report := by
  obtain ⟨condition, message, checkedAt⟩ := report
  refine Builds.read (Builds.nothing ComponentReport.mk
    |>.field (.written condition.reads)
    |>.field (.given rfl rfl (fun text _ => .string text) fun _ => nofun)
    |>.field (.written (.time checkedAt))) (by decide) ?_
  cases message <;> rfl

section Health

variable {report : HealthReport} {components : List (String × ComponentReport)}

/-- A health report is read back in whatever order its components were handed out. -/
theorem HealthReport.reads (order : components.Perm report.components.entries) :
    ReadsExactly reader (report.toJsonOf components) report := by
  have collected : ReadsExactly (Reader.textDictionary ComponentReport.reader)
      (.object (components.map fun entry => (entry.1, entry.2.toJson))) (.ofList components) :=
    .collected (fun _ => rfl) fun entry _ => entry.2.reads
  rw [Dictionary.ofList_perm order] at collected
  exact Builds.read (Builds.nothing HealthReport.mk
    |>.field (.written report.condition.reads)
    |>.field (.written collected)) (by decide) rfl

theorem HealthReport.reordered {others : List (String × ComponentReport)}
    (same : components.Perm others) :
    (report.toJsonOf components).Reordered (report.toJsonOf others) :=
  .member [("status", report.condition.toJson)] "components" [] (.shuffled (same.map _))

end Health

end Headroom
