import Headroom.Proofs.Schema.Answers
import Headroom.Proofs.Schema.Requests

/-!
# Documents are read as they were written

Every kind of document that is exchanged is read from its text as the value that was
written, as far as the numerals of its doubles are exact.  What is left out when a value is
written is what stands in for it when it is missing, throughout the nesting.  So a document
that was read and written once is not changed by being read and written again.  A health
report has no order of its own to write its components in: it is not changed but for this order.
-/

namespace Headroom

/-- How the values of one kind are written and read, and the doubles that they hold. -/
structure Codec (α : Type) where
  /-- The documents as which a value may be written. -/
  Writes : α → Json → Prop
  reader : Reader α
  numbers : α → List Float

namespace Codec

variable {α : Type}

/-- The codec of a kind whose values are written in one way. -/
def ofWriter (write : α → Json) (reader : Reader α) (numbers : α → List Float) : Codec α :=
  ⟨fun value document => document = write value, reader, numbers⟩

variable (codec : Codec α)

/-- Every value is written as some document, and as any other one up to the order of members.
What is written is read back if the numerals are exact, and what is read can be written. -/
structure Lawful : Prop where
  written : ∀ value, ∃ document, codec.Writes value document
  alike : ∀ value first second, codec.Writes value first → codec.Writes value second →
    first.Reordered second
  reads : ∀ value document, codec.Writes value document →
    (∀ number ∈ codec.numbers value, Exact number) → ReadsExactly codec.reader document value
  yields : codec.reader.Yields fun value => ∀ number ∈ codec.numbers value, number.isFinite = true

variable {codec}

theorem Lawful.readText_compact (lawful : codec.Lawful) {value : α} {document : Json}
    (written : codec.Writes value document)
    (finite : ∀ number ∈ codec.numbers value, number.isFinite = true)
    (back : ∀ number ∈ codec.numbers value, Json.ReadsBack number) :
    readText codec.reader document.compact = .ok value :=
  (lawful.reads value document written fun number member =>
    .of_readsBack (finite number member) (back number member)).readText

/-- A kind that is written in one way is lawful if its documents are read back. -/
theorem lawful_ofWriter {write : α → Json} {reader : Reader α} {numbers : α → List Float}
    (reads : ∀ value, (∀ number ∈ numbers value, Exact number) →
      ReadsExactly reader (write value) value)
    (yields : reader.Yields fun value => ∀ number ∈ numbers value, number.isFinite = true) :
    (ofWriter write reader numbers).Lawful where
  written := fun value => ⟨write value, rfl⟩
  alike := by
    rintro value first second rfl rfl
    exact .refl _
  reads := by
    rintro value document rfl exact
    exact reads value exact
  yields := yields

/-- A reader of what holds no doubles yields no others than finite ones. -/
theorem yields_nothing (reader : Reader α) :
    reader.Yields fun _ => ∀ number ∈ ([] : List Float), number.isFinite = true :=
  fun _ _ _ _ => List.forall_mem_nil _

end Codec

/-- A health report is written with its components in any order. -/
def HealthReport.Writes (report : HealthReport) (document : Json) : Prop :=
  ∃ components : List (String × ComponentReport),
    components.Perm report.components.entries ∧ document = report.toJsonOf components

def Snapshot.numbers (snapshot : Snapshot) : List Float := snapshot.nodes.flatMap Node.numbers

theorem Snapshot.readsExactly {snapshot : Snapshot}
    (exact : ∀ number ∈ snapshot.numbers, Exact number) :
    ReadsExactly reader snapshot.toJson snapshot := by
  have read : ReadsExactly reader snapshot.toJson (snapshot.restate id) :=
    Snapshot.reads (List.forall_mem_flatMap.mp exact)
  rwa [restate_id] at read

theorem Snapshot.yieldsNumbers :
    reader.Yields fun snapshot => ∀ number ∈ snapshot.numbers, number.isFinite = true :=
  fun _ _ finite read => List.forall_mem_flatMap.mpr (Snapshot.yields finite read)

inductive DocumentKind where
  | reading
  | sample
  | container
  | scores
  | node
  | transition
  | snapshot
  | registration
  | settings
  | receipt
  | outcome
  | statistics
  | health
  deriving DecidableEq, Repr

namespace DocumentKind

def Value : DocumentKind → Type
  | reading => Reading Float
  | sample => Sample Float
  | container => Container
  | scores => Scores Float
  | node => Node
  | transition => Transition
  | snapshot => Snapshot
  | registration => Registration
  | settings => Settings Float
  | receipt => Receipt
  | outcome => Outcome
  | statistics => Statistics
  | health => HealthReport

def codec : (kind : DocumentKind) → Codec kind.Value
  | reading => .ofWriter Reading.toJson Reading.reader Reading.numbers
  | sample => .ofWriter Sample.toJson Sample.reader Sample.numbers
  | container => .ofWriter Container.toJson Container.reader fun _ => []
  | scores =>
    .ofWriter Scores.toJson Scores.reader fun scores => scores.dimensions ++ [scores.overall]
  | node => .ofWriter Node.toJson Node.reader Node.numbers
  | transition => .ofWriter Transition.toJson Transition.reader Transition.numbers
  | snapshot => .ofWriter Snapshot.toJson Snapshot.reader Snapshot.numbers
  | registration => .ofWriter Registration.toJson Registration.reader fun _ => []
  | settings => .ofWriter Settings.toJson Settings.reader Settings.numbers
  | receipt => .ofWriter Receipt.toJson Receipt.reader Receipt.numbers
  | outcome => .ofWriter Outcome.toJson Outcome.reader Outcome.numbers
  | statistics => .ofWriter Statistics.toJson Statistics.reader fun _ => []
  | health => ⟨HealthReport.Writes, HealthReport.reader, fun _ => []⟩

theorem lawful_health : health.codec.Lawful where
  written := fun report => ⟨report.toJson, report.components.entries, .refl _, rfl⟩
  alike := by
    rintro report _ _ ⟨first, firstOrder, rfl⟩ ⟨second, secondOrder, rfl⟩
    exact HealthReport.reordered (firstOrder.trans secondOrder.symm)
  reads := by
    rintro report _ ⟨components, order, rfl⟩ _
    exact HealthReport.reads order
  yields := Codec.yields_nothing HealthReport.reader

/-- Every kind of document is lawful. -/
theorem lawful (kind : DocumentKind) : kind.codec.Lawful := by
  cases kind with
  | reading => exact Codec.lawful_ofWriter (fun _ => Reading.reads) Reading.yields
  | sample => exact Codec.lawful_ofWriter (fun _ => Sample.reads) Sample.yields
  | container =>
    exact Codec.lawful_ofWriter (fun container _ => container.reads) (Codec.yields_nothing _)
  | scores => exact Codec.lawful_ofWriter (fun _ => Scores.reads) Scores.yields
  | node => exact Codec.lawful_ofWriter (fun _ => Node.reads) Node.yields
  | transition =>
    exact Codec.lawful_ofWriter (fun _ => Transition.reads Category.reads)
      (Transition.yields Category.reader)
  | snapshot => exact Codec.lawful_ofWriter (fun _ => Snapshot.readsExactly) Snapshot.yieldsNumbers
  | registration =>
    exact Codec.lawful_ofWriter (fun request _ => Registration.reads request)
      (Codec.yields_nothing _)
  | settings => exact Codec.lawful_ofWriter (fun _ => Settings.reads) Settings.yields
  | receipt =>
    exact Codec.lawful_ofWriter (fun _ => Receipt.reads Category.reads)
      (Receipt.yields Category.reader)
  | outcome => exact Codec.lawful_ofWriter (fun _ => Outcome.reads) Outcome.yields
  | statistics =>
    exact Codec.lawful_ofWriter (fun statistics _ => statistics.reads) (Codec.yields_nothing _)
  | health => exact lawful_health

/-- Only a health report leaves open in which order its members are written. -/
theorem eq_of_writes {kind : DocumentKind} (ordered : kind ≠ .health) {value : kind.Value}
    {first second : Json} (written : kind.codec.Writes value first)
    (again : kind.codec.Writes value second) : first = second := by
  cases kind with
  | health => exact absurd rfl ordered
  | _ => exact Eq.trans written (Eq.symm again)

/-- A value of any kind whose numbers are finite can be written, and is read as it was from
whatever it is written as.  A text of any kind that is read may be written anew: then it is read
as the same value and written as the same text from that time on, up to the order of the members
where the value has none.  Of the rule for numerals this takes that it gets back the numbers at
hand. -/
theorem round_trip (kind : DocumentKind) :
    (∀ value : kind.Value,
      (∀ number ∈ kind.codec.numbers value, number.isFinite = true ∧ Json.ReadsBack number) →
        (∃ document, kind.codec.Writes value document) ∧
        ∀ document, kind.codec.Writes value document →
          readText kind.codec.reader document.compact = .ok value) ∧
    ∀ (text : String) (value : kind.Value), readText kind.codec.reader text = .ok value →
      (∀ number ∈ kind.codec.numbers value, Json.ReadsBack number) →
        (∃ document, kind.codec.Writes value document) ∧
        ∀ document, kind.codec.Writes value document →
          readText kind.codec.reader document.compact = .ok value ∧
          ∀ again, kind.codec.Writes value again → document.Reordered again ∧
            (kind ≠ .health → document.compact = again.compact) := by
  have lawful := kind.lawful
  constructor
  · intro value sound
    refine ⟨lawful.written value, fun document written => ?_⟩
    exact lawful.readText_compact written (fun number member => (sound number member).1)
      fun number member => (sound number member).2
  · intro text value read back
    have finite := lawful.yields.readText read
    refine ⟨lawful.written value, fun document written => ?_⟩
    refine ⟨lawful.readText_compact written finite back, fun again writtenAgain => ?_⟩
    refine ⟨lawful.alike value document again written writtenAgain, fun ordered => ?_⟩
    rw [eq_of_writes ordered written writtenAgain]

/-- An outcome with a transition is read back, a registration that came as an array of its fields
is read as before once it was written as an object, and so is a health report whose components
come in another order than they are written in. -/
theorem round_trip_accepted :
    let outcome : Outcome := .accepted ⟨"node", 5, .initial, .high, true,
      some ⟨"node", .initial, .high, some 1.0, 5⟩⟩
    let request : Registration := ⟨"a", none, none⟩
    let ingest : String × ComponentReport := ("ingest", ⟨.healthy, none, 1⟩)
    let registry : String × ComponentReport := ("registry", ⟨.degraded, some "full", 2⟩)
    let report : HealthReport := ⟨.degraded, .ofList [ingest, registry]⟩
    let turned := report.toJsonOf [registry, ingest]
    readText Outcome.reader outcome.toJson.compact = .ok outcome ∧
      (readText Registration.reader "[\"a\"]" = .ok request ∧
        readText Registration.reader request.toJson.compact = .ok request) ∧
      readText HealthReport.reader turned.compact = .ok report ∧
      turned.Reordered report.toJson ∧ turned ≠ report.toJson := by
  intro outcome request ingest registry report turned
  have one : Json.ReadsBack 1.0 := Json.readsBack_of_round (.inl rfl)
  have sound : ∀ number ∈ outcome.numbers, number.isFinite = true ∧ Json.ReadsBack number := by
    intro number member
    have only : number = 1.0 := by
      simpa [outcome, Outcome.numbers, Receipt.numbers, Transition.numbers, Scores.dimensions,
        Scores.initial] using member
    rw [only]
    exact ⟨rfl, one⟩
  have read : readText Registration.reader "[\"a\"]" = .ok request := rfl
  have entries : report.components.entries = [ingest, registry] := by decide +kernel
  have order : [registry, ingest].Perm report.components.entries := by
    rw [entries]
    exact .swap ingest registry []
  have writesTurned : health.codec.Writes report turned := ⟨_, order, rfl⟩
  have writesReport : health.codec.Writes report report.toJson := ⟨_, .refl _, rfl⟩
  have readTurned : readText HealthReport.reader turned.compact = .ok report :=
    ((round_trip .health).1 report (List.forall_mem_nil _)).2 turned writesTurned
  obtain ⟨_, again⟩ := (round_trip .health).2 _ report readTurned (List.forall_mem_nil _)
  obtain ⟨_, rewritten⟩ := (round_trip .registration).2 _ request read (List.forall_mem_nil _)
  have differs : turned ≠ report.toJson := by
    intro same
    simp [turned, HealthReport.toJson, HealthReport.toJsonOf, entries, ingest, registry] at same
  exact ⟨((round_trip .outcome).1 outcome sound).2 _ rfl, ⟨read, (rewritten _ rfl).1⟩, readTurned,
    ((again turned writesTurned).2 _ writesReport).1, differs⟩

end DocumentKind

end Headroom
