import Headroom.Proofs.Engine.Numbers
import Headroom.Proofs.Json.Finite
import Headroom.Proofs.Json.Records
import Headroom.Storage.SnapshotFile

/-!
# Snapshots are read back

Every record that an engine keeps is read from its document as it was, up to what the
numerals of its doubles denote.  Where they are exact, it is read as it was.
-/

namespace Headroom

open RecordReader (Builds)

/-! ## Restated records -/

def Scores.restate (restated : Float → Float) (scores : Scores Float) : Scores Float :=
  ⟨restated scores.cpu, restated scores.memory, restated scores.network,
    restated scores.availability, restated scores.overall⟩

def Usage.restate (restated : Float → Float) (usage : Usage Float) : Usage Float :=
  ⟨restated usage.cpuPercent, restated usage.memoryPercent⟩

def Node.restate (restated : Float → Float) (node : Node) : Node :=
  { node with scores := node.scores.restate restated, usage := node.usage.restate restated }

/-- The snapshot with other numbers in the place of its own. -/
def Snapshot.restate (restated : Float → Float) (snapshot : Snapshot) : Snapshot :=
  { snapshot with nodes := snapshot.nodes.map (Node.restate restated) }

@[simp]
theorem Snapshot.restate_id (snapshot : Snapshot) : snapshot.restate id = snapshot :=
  congrArg (mk snapshot.takenAt) (List.map_id snapshot.nodes)

/-! ## Documents -/

section Documents

variable {restated : Float → Float}

theorem Category.reads (category : Category) : Reads restated reader category.toJson category :=
  ⟨.string category.word, by cases category <;> rfl⟩

theorem Lifecycle.reads (stage : Lifecycle) : Reads restated reader stage.toJson stage :=
  ⟨.string stage.word, by cases stage <;> rfl⟩

theorem Scores.reads {scores : Scores Float}
    (restates : ∀ number ∈ scores.dimensions ++ [scores.overall], Restates restated number) :
    Reads restated reader scores.toJson (scores.restate restated) := by
  obtain ⟨cpu, memory, network, availability, overall⟩ := forall_numbers.mp restates
  exact Builds.read (Builds.nothing Scores.mk
    |>.field (.written (.float cpu))
    |>.field (.written (.float memory))
    |>.field (.written (.float network))
    |>.field (.written (.float availability))
    |>.field (.written (.float overall))) (by decide) rfl

theorem Usage.reads {usage : Usage Float} (cpu : Restates restated usage.cpuPercent)
    (memory : Restates restated usage.memoryPercent) :
    Reads restated reader usage.toJson (usage.restate restated) :=
  Builds.read (Builds.nothing Usage.mk
    |>.field (.written (.float cpu))
    |>.field (.written (.float memory))) (by decide) rfl

theorem Container.reads (container : Container) :
    Reads restated reader container.toJson container := by
  obtain ⟨image, state, ports, startedAt⟩ := container
  have portsRead : Reads restated (Reader.textDictionary (Reader.list Reader.string))
      (.ofDictionary .texts ports) ports :=
    .dictionary fun entry _ => .texts entry.2
  refine Builds.read (Builds.nothing Container.mk
    |>.field (.written (.string image))
    |>.field (.written (.string state))
    |>.field (.written portsRead)
    |>.field (.time "started_at" startedAt)) (by decide) ?_
  cases startedAt <;> rfl

theorem Field.Gets.container (value : Option Container) :
    (Field.optional "container" Container.reader).Gets restated (value.map Container.toJson)
      value :=
  .given rfl rfl (fun container _ => container.reads) fun _ => nofun

/-- A record is read with the doubles that its numerals denote. -/
theorem Node.reads {node : Node} (restates : ∀ number ∈ node.numbers, Restates restated number) :
    Reads restated reader node.toJson (node.restate restated) := by
  obtain ⟨scoresRestate, cpuRestates, memoryRestates⟩ := Node.forall_numbers.mp restates
  obtain ⟨id, name, scores, category, lifecycle, stale, createdAt, lastUpdated, lastSampleAt,
    sampleCount, usage, container⟩ := node
  have sampleRead : Reads restated Reader.int64.optional (.nullable .time lastSampleAt)
      lastSampleAt := .nullable (fun time _ => .time time) fun _ _ => nofun
  refine Builds.read (Builds.nothing Node.mk
    |>.field (.written (.string id))
    |>.field (.written (.string name))
    |>.field (.written (Scores.reads scoresRestate))
    |>.field (.written category.reads)
    |>.field (.written lifecycle.reads)
    |>.field (.written (.bool stale))
    |>.field (.written (.time createdAt))
    |>.field (.written (.time lastUpdated))
    |>.field (.written sampleRead)
    |>.field (.written (.natural sampleCount))
    |>.field (.written (Usage.reads cpuRestates memoryRestates))
    |>.field (.container container)) (by decide) ?_
  cases container <;> rfl

/-- A snapshot is read with the doubles that its numerals denote. -/
theorem Snapshot.reads {snapshot : Snapshot}
    (restates : ∀ node ∈ snapshot.nodes, ∀ number ∈ node.numbers, Restates restated number) :
    Reads restated reader snapshot.toJson (snapshot.restate restated) := by
  have nodesRead : Reads restated (Reader.list Node.reader) (.list Node.toJson snapshot.nodes)
      (snapshot.nodes.map (Node.restate restated)) :=
    .list fun node member => Node.reads (restates node member)
  exact Builds.read (Builds.nothing Snapshot.mk
    |>.field (.written (.time snapshot.takenAt))
    |>.field (.written nodesRead)) (by decide) rfl

end Documents

/-- A snapshot that was written as a text is read from it, with the doubles that its numerals
denote. -/
theorem SnapshotFile.readText_restated {restated : Float → Float} {snapshot : Snapshot}
    (restates : ∀ node ∈ snapshot.nodes, ∀ number ∈ node.numbers, Restates restated number) :
    readText Snapshot.reader (encode snapshot) = .ok (snapshot.restate restated) :=
  (Snapshot.reads restates).readText

/-- A number with one decimal digit is read back if the rule for numerals gets it right. -/
theorem Json.readsBack_of_tenths {number : Float} (whole tenth : Char)
    (text : (Json.float number).compact = String.ofList [whole, '.', tenth])
    (scanned : Draft.scan (String.ofList [whole, '.', tenth]) =
      ⟨.number (Draft.numberOf? ⟨false, [whole], some [tenth], none⟩), []⟩)
    (scaled : Decimal.Literal.scaled? ⟨false, [whole], some [tenth], none⟩ =
      some (Decimal.scaleDown
        (Float.ofNat (10 * Decimal.digitValue whole + Decimal.digitValue tenth)) 1))
    (exact : Float.ofNat (10 * Decimal.digitValue whole + Decimal.digitValue tenth) /
      Decimal.powerOfTen 1 = number) : Json.ReadsBack number := by
  rw [Decimal.scaleDown, if_pos (by decide), exact] at scaled
  rw [ReadsBack, text, readText, scanned]
  simp only [Draft.numberOf?, Decimal.Literal.integer?, Decimal.Literal.float?, scaled]
  rfl

/-- The numbers of a node without a load are read back. -/
theorem Json.readsBack_of_round {number : Float} (round : number = 1.0 ∨ number = 0.0) :
    ReadsBack number := by
  rcases round with rfl | rfl
  · exact readsBack_of_tenths '1' '0' (by decide) rfl rfl (by decide)
  · exact readsBack_of_tenths '0' '0' (by decide) rfl rfl (by decide)

/-! ## Numbers that are not finite -/

/-- A double that is not finite is written as nothing, which leaves the text legible. -/
theorem Json.legible_float {number : Float}
    (back : number.isFinite = true → Json.ReadsBack number) : LegibleExactly (.float number) := by
  cases finite : number.isFinite with
  | true => exact (Reads.float (.of_readsBack finite (back finite))).legible
  | false =>
    rw [Json.float, finite, if_neg Bool.false_ne_true]
    exact .null

/-- The text of a record is legible whatever its numbers are, though what they were is lost
where they are not finite. -/
theorem Node.legible {node : Node} (back : ∀ number ∈ node.numbers,
    number.isFinite = true → Json.ReadsBack number) : LegibleExactly node.toJson := by
  obtain ⟨scores, cpu, memory⟩ := Node.forall_numbers.mp fun number member =>
    Json.legible_float (back number member)
  obtain ⟨cpuScore, memoryScore, network, availability, overall⟩ :=
    Scores.forall_numbers.mp scores
  have sampled : LegibleExactly (.nullable .time node.lastSampleAt) := by
    cases node.lastSampleAt with
    | none => exact .null
    | some time => exact (Reads.time time).legible
  have container : ∀ entry ∈ Json.given "container" Container.toJson node.container,
      LegibleExactly entry.2 := by
    cases node.container with
    | none => exact List.forall_mem_nil _
    | some container => exact List.forall_mem_singleton.mpr container.reads.legible
  have scoresLegible : LegibleExactly node.scores.toJson := by
    apply Draft.Legible.object
    simp only [List.forall_mem_cons]
    exact ⟨cpuScore, memoryScore, network, availability, overall, List.forall_mem_nil _⟩
  have usageLegible : LegibleExactly node.usage.toJson := by
    apply Draft.Legible.object
    simp only [List.forall_mem_cons]
    exact ⟨cpu, memory, List.forall_mem_nil _⟩
  refine .object (List.forall_mem_append.mpr ⟨?_, container⟩)
  simp only [List.forall_mem_cons]
  exact ⟨.string _, .string _, scoresLegible, .string _, .string _, .bool _,
    (Reads.time _).legible, (Reads.time _).legible, sampled, (Reads.natural _).legible,
    usageLegible, List.forall_mem_nil _⟩

/-- The text of a snapshot is legible whatever its numbers are. -/
theorem Snapshot.legible {snapshot : Snapshot} (back : ∀ node ∈ snapshot.nodes,
    ∀ number ∈ node.numbers, number.isFinite = true → Json.ReadsBack number) :
    LegibleExactly snapshot.toJson := by
  have nodes : LegibleExactly (.list Node.toJson snapshot.nodes) := by
    refine .array (List.forall_mem_map.mpr fun node member => ?_)
    exact Node.legible (back node member)
  apply Draft.Legible.object
  simp only [List.forall_mem_cons]
  exact ⟨(Reads.time _).legible, nodes, List.forall_mem_nil _⟩

open RecordReader.Yields in
theorem Scores.yields : reader.Yields (Scores.IsFinite) := by
  refine read (field (.required .float) (field (.required .float) (field (.required .float)
    (field (.required .float) (field (.required .float) (nothing ?_))))))
  intro cpu cpuFinite memory memoryFinite network networkFinite availability availabilityFinite
    overall overallFinite
  simp only [IsFinite, dimensions, List.cons_append, List.nil_append, List.forall_mem_cons]
  exact ⟨cpuFinite, memoryFinite, networkFinite, availabilityFinite, overallFinite,
    List.forall_mem_nil _⟩

open RecordReader.Yields in
theorem Usage.yields : reader.Yields Usage.IsFinite :=
  read (field (.required .float) (field (.required .float)
    (nothing fun _ cpuFinite _ memoryFinite => ⟨cpuFinite, memoryFinite⟩)))

open RecordReader.Yields in
theorem Node.yields : reader.Yields Node.IsFinite := by
  refine read (field (.any _) (field (.withDefault Usage.yields Usage.isFinite_none)
    (field (.any _) (field (.any _) (field (.any _) (field (.any _) (field (.any _) (field (.any _)
      (field (.any _) (field (.required Scores.yields) (field (.any _) (field (.any _)
        (nothing ?_)))))))))))))
  intro id _ name _ scores scoresFinite category _ lifecycle _ stale _ createdAt _ lastUpdated _
    lastSampleAt _ sampleCount _ usage usageFinite container _
  exact isFinite_iff.mpr ⟨scoresFinite, usageFinite⟩

open RecordReader.Yields in
/-- A snapshot that is read has only finite numbers. -/
theorem Snapshot.yields : reader.Yields fun snapshot => ∀ node ∈ snapshot.nodes, node.IsFinite :=
  read (field (.required (.list Node.yields)) (field (.any _)
    (nothing fun _ _ _ nodesFinite => nodesFinite)))

/-- The numbers of the records that a file holds are finite. -/
theorem SnapshotFile.isFinite_load {file : SnapshotFile} {disk : Disk} {snapshot : Snapshot}
    (loaded : file.load disk = .ok (some snapshot)) : ∀ node ∈ snapshot.nodes, node.IsFinite := by
  rw [load] at loaded
  split at loaded
  · cases loaded
  · cases loaded
  · split at loaded
    · rename_i read
      cases loaded
      exact Snapshot.yields.readText read
    · cases loaded

end Headroom
