import Headroom.Proofs.Json.Legible
import Headroom.Proofs.Storage.Documents
import Headroom.Proofs.Storage.Paths
import Headroom.Proofs.Storage.Saving

/-!
# Saves that stop

A save can stop at any of its steps, by a fault or because nobody is there any more to go on.
Every step before the last one works on directories that are missing or on the temporary file,
so the file that is saved stays what it was, provided that the temporary file is another one.
It is another one exactly when its path is: a file whose extension is that of temporary files is
its own temporary file, and it is lost as soon as a save opens it.
-/

namespace Headroom

namespace Disk

/-! ## What a change spares -/

/-- A change that takes no directory away and leaves a place as it was. -/
structure Spares (place : Place) (before after : Disk) : Prop where
  directories : KeepsDirectories before after
  entry : after.at? place = before.at? place

namespace Spares

variable {place : Place} {before between after disk : Disk}

theorem refl (place : Place) (disk : Disk) : Spares place disk disk :=
  ⟨fun _ isDirectory => isDirectory, rfl⟩

theorem trans (first : Spares place before between) (second : Spares place between after) :
    Spares place before after :=
  ⟨fun other isDirectory => second.directories other (first.directories other isDirectory),
    second.entry.trans first.entry⟩

theorem putAt {other : Place} {entry : Entry} (free : disk.at? other ≠ some .directory)
    (apart : place ≠ other) : Spares place disk (disk.putAt other entry) :=
  ⟨.putAt free, at?_putAt_of_ne disk other place entry apart⟩

end Spares

/-- A directory is made only where nothing stands. -/
theorem spares_makeDirectory {disk after : Disk} {place : Place} {path : String}
    (taken : disk.at? place ≠ none) (made : disk.makeDirectory path = .ok after) :
    Spares place disk after := by
  simp only [makeDirectory, Guards.bind_eq_ok] at made
  obtain ⟨other, _, put⟩ := made
  cases standing : disk.at? other with
  | some entry => simp [standing] at put
  | none =>
    rw [standing] at put
    cases put
    exact .putAt (by simp [standing]) fun same => taken (same ▸ standing)

/-- Making directories spares every place at which something stands. -/
theorem spares_makeEach {disk after : Disk} {place : Place} (taken : disk.at? place ≠ none)
    (paths : List String) (made : disk.makeEach paths = .ok after) : Spares place disk after := by
  induction paths generalizing after with
  | nil => cases made
  | cons path above ih =>
    have settled {before : Disk} {fault : DiskFault} (spares : Spares place disk before)
        (done : (if before.isDirectory path then Except.ok before else .error fault) = .ok after) :
        Spares place disk after := by
      split at done
      · cases done
        exact spares
      · cases done
    rw [makeEach] at made
    dsimp only at made
    split at made
    · cases made
      exact .refl place _
    · split at made
      · rename_i first
        cases made
        exact spares_makeDirectory taken first
      · rw [Guards.bind_eq_ok] at made
        obtain ⟨before, madeAbove, made⟩ := made
        have spares := ih madeAbove
        split at made
        · rename_i second
          cases made
          exact spares.trans (spares_makeDirectory (spares.entry ▸ taken) second)
        · exact settled spares made
      · exact settled (.refl place disk) made

theorem spares_makeDirectories {disk after : Disk} {place : Place} {path : String}
    (taken : disk.at? place ≠ none) (made : disk.makeDirectories path = .ok after) :
    Spares place disk after :=
  spares_makeEach taken _ made

/-! ## Paths that lead elsewhere -/

theorem KeepsDirectories.locate {before after : Disk} (keeps : KeepsDirectories before after)
    {path : String} {place : Place} (located : before.locate path = .ok place) :
    after.locate path = .ok place := by
  rw [Disk.locate, Guards.bind_eq_ok] at located ⊢
  obtain ⟨_, checked, walked⟩ := located
  exact ⟨_, checked, keeps.walk walked⟩

theorem step_eq_ok {disk : Disk} {place next : Place} {name : String}
    (stepped : disk.step place name = .ok next) :
    disk.at? place = some .directory ∧ next = place.step name := by
  rw [step] at stepped
  cases standing : disk.at? place with
  | none => simp [standing] at stepped
  | some entry =>
    cases entry with
    | file content => simp [standing] at stepped
    | directory =>
      simp only [standing, Guards.ite_error_eq_ok, Except.ok.injEq] at stepped
      exact ⟨rfl, stepped.2.symm⟩

theorem walk_concat {disk : Disk} {place last : Place} {names : List String} {name : String}
    (walked : disk.walk place (names ++ [name]) = .ok last) :
    ∃ above, disk.walk place names = .ok above ∧ disk.at? above = some .directory ∧
      last = above.step name := by
  rw [walk_append, Guards.bind_eq_ok] at walked
  obtain ⟨above, walked, stepped⟩ := walked
  simp only [walk, Guards.bind_eq_ok] at stepped
  obtain ⟨next, stepped, same⟩ := stepped
  cases same
  exact ⟨above, walked, step_eq_ok stepped⟩

theorem at?_start (disk : Disk) (path : String) :
    disk.at? (Path.start path) = some .directory := by
  rw [Path.start]
  split <;> rfl

/-- A path whose last name is a proper one leads to that name in the directory before it. -/
theorem locate_splits {disk : Disk} {path : String} {place : Place} {front name : List Char}
    (splits : Path.Splits path front name) (named : name ≠ []) (notDot : name ≠ ['.'])
    (notAbove : name ≠ ['.', '.']) (located : disk.locate path = .ok place) :
    ∃ above, disk.walk (Path.start path) (Path.way front) = .ok above ∧
      place = above ++ [String.ofList name] := by
  rw [locate, Guards.bind_eq_ok] at located
  obtain ⟨_, _, walked⟩ := located
  rw [splits.steps_eq named] at walked
  obtain ⟨above, walkedAbove, _, rfl⟩ := walk_concat walked
  have notDotText : String.ofList name ≠ "." := by simpa [String.ext_iff] using notDot
  have notAboveText : String.ofList name ≠ ".." := by simpa [String.ext_iff] using notAbove
  exact ⟨above, walkedAbove, by rw [Place.step, if_neg notDotText, if_neg notAboveText]⟩

/-- A path that ends in a slash or in a dot leads to a directory. -/
theorem named_of_file {disk : Disk} {path : String} {place : Place} {front name : List Char}
    (splits : Path.Splits path front name) (located : disk.locate path = .ok place)
    (file : disk.at? place ≠ some .directory) : name ≠ [] ∧ name ≠ ['.'] := by
  rw [locate, Guards.bind_eq_ok] at located
  obtain ⟨_, _, walked⟩ := located
  have noDot (names : List String) (dotted : Path.steps path = names ++ ["."]) : False := by
    rw [dotted] at walked
    obtain ⟨above, _, standing, rfl⟩ := walk_concat walked
    exact file standing
  have named : name ≠ [] := fun opened => by
    rcases splits.steps_of_open opened with none | ⟨names, dotted⟩
    · rw [none] at walked
      cases walked
      exact file (at?_start disk path)
    · exact noDot names dotted
  exact ⟨named, fun dot => noDot (Path.way front) (by rw [splits.steps_eq named, dot])⟩

/-- A file that is read stands at the place to which its path leads. -/
theorem readFile?_eq_some {disk : Disk} {path content : String}
    (held : disk.readFile? path = some content) :
    ∃ place, disk.locate path = .ok place ∧ disk.at? place = some (.file content) := by
  rw [readFile?] at held
  split at held
  · rename_i found
    cases held
    rw [find?] at found
    split at found
    · rename_i place located
      exact ⟨place, located, found⟩
    · cases found
  · cases held

/-- A path never leads to a place, however many directories are added to a disk. -/
def Avoids (disk : Disk) (path : String) (place : Place) : Prop :=
  ∀ after, KeepsDirectories disk after → ∀ other, after.locate path = .ok other → place ≠ other

theorem Avoids.later {before after : Disk} {path : String} {place : Place}
    (avoids : before.Avoids path place) (keeps : KeepsDirectories before after) :
    after.Avoids path place :=
  fun last keepsLater => avoids last fun other isDirectory =>
    keepsLater other (keeps other isDirectory)

/-- The temporary path of a file leads away from the file, unless it is the path itself. -/
theorem avoids_temporary {disk : Disk} {path : String} {place : Place}
    (located : disk.locate path = .ok place) (held : disk.at? place ≠ some .directory)
    (apart : Path.withExtension path "tmp" ≠ path) :
    disk.Avoids (Path.withExtension path "tmp") place := by
  obtain ⟨front, name, splits⟩ := Path.exists_splits path
  obtain ⟨named, notDot⟩ := named_of_file splits located held
  have notAbove : name ≠ ['.', '.'] := fun above => apart (splits.withExtension_of_above above _)
  obtain ⟨above, walked, rfl⟩ := locate_splits splits named notDot notAbove located
  obtain ⟨neighbour, tail⟩ : ∃ neighbour, neighbour =
      (Path.stem (String.ofList name)).toList ++ '.' :: "tmp".toList := ⟨_, rfl⟩
  have beside : Path.Splits (Path.withExtension path "tmp") front neighbour :=
    tail ▸ splits.withExtension named notDot notAbove (by decide)
  have differs : name ≠ neighbour := fun same => apart (String.ext_iff.mpr
    (by rw [beside.joined, splits.joined, same]))
  have long : 4 ≤ neighbour.length := by
    rw [tail, List.length_append]
    exact Nat.le_add_left 4 _
  intro after keeps other locatedOther same
  obtain ⟨aboveOther, walkedOther, rfl⟩ := locate_splits beside
    (fun none => by simp [none] at long) (fun dot => by simp [dot] at long)
    (fun dots => by simp [dots] at long) locatedOther
  rw [splits.start_eq beside, keeps.walk walked] at walkedOther
  cases walkedOther
  have sameName := List.singleton_inj.mp (List.append_cancel_left same)
  exact differs (by simpa [String.ext_iff] using sameName)

theorem spares_truncate {disk after : Disk} {path : String} {place : Place}
    (avoids : disk.Avoids path place) (done : disk.truncate path = .ok after) :
    Spares place disk after := by
  obtain ⟨other, reached, plain, free, rfl⟩ := truncate_eq_ok done
  have here : KeepsDirectories disk disk := fun _ isDirectory => isDirectory
  exact .putAt free (avoids disk here other (locate_of_target reached plain))

theorem spares_append {disk after : Disk} {path text : String} {place : Place}
    (avoids : disk.Avoids path place) (done : disk.append path text = .ok after) :
    Spares place disk after := by
  obtain ⟨other, content, located, held, rfl⟩ := append_eq_ok done
  have here : KeepsDirectories disk disk := fun _ isDirectory => isDirectory
  exact .putAt (by simp [held]) (avoids disk here other located)

end Disk

namespace SaveStep

/-! ## Steps that stop -/

/-- What a step may leave on a disk when it stops before its end: the disk as it was, some of the
directories that it was to make, or a part of the text that it was to write.  Opening and renaming
a file happen at once. -/
inductive Leaves (disk : Disk) : SaveStep → Disk → Prop where
  | untouched (step : SaveStep) : Leaves disk step disk
  | directories {path : String} {after : Disk} (some : List String)
      (above : ∀ directory ∈ some, directory ∈ Path.ancestors path)
      (made : some.foldlM Disk.makeDirectory disk = .ok after) :
      Leaves disk (.makeDirectory path) after
  | part {path text : String} {after : Disk} (written : String)
      (begins : written.toList <+: text.toList) (done : disk.append path written = .ok after) :
      Leaves disk (.write path text) after

/-- The disks on which a list of steps may stop: the steps before one are done, and of that one
there is what it may leave. -/
inductive Stops : Disk → List SaveStep → Disk → Prop where
  | here {disk after : Disk} {step : SaveStep} (rest : List SaveStep)
      (leaves : step.Leaves disk after) : Stops disk (step :: rest) after
  | later {disk between after : Disk} {step : SaveStep} {rest : List SaveStep}
      (done : step.perform disk = .ok between) (stops : Stops between rest after) :
      Stops disk (step :: rest) after

/-- Steps that fail stop where they fail. -/
theorem stops_of_error {fault : SaveStep × DiskFault} {after : Disk} (steps : List SaveStep) :
    ∀ {disk : Disk}, performAll disk steps = (after, .error fault) → Stops disk steps after := by
  induction steps with
  | nil => exact fun failed => by cases failed
  | cons step rest ih =>
    intro disk failed
    rw [performAll] at failed
    cases first : step.perform disk with
    | error cause =>
      rw [first] at failed
      cases failed
      exact .here rest (.untouched step)
    | ok between =>
      rw [first] at failed
      exact .later first (ih failed)

/-- Steps that are done can be followed by others that stop. -/
theorem Stops.after {rest : List SaveStep} {last : Disk} (steps : List SaveStep) :
    ∀ {disk between : Disk}, performAll disk steps = (between, .ok ()) →
      Stops between rest last → Stops disk (steps ++ rest) last := by
  induction steps with
  | nil =>
    intro disk between done stops
    cases done
    exact stops
  | cons step more ih =>
    intro disk between done stops
    obtain ⟨next, first, later⟩ := performAll_cons_eq_ok done
    exact .later first (ih later stops)

/-- Every step of a save but its last one. -/
inductive Prepares (path : String) : SaveStep → Prop where
  | makeDirectory (above : String) : Prepares path (.makeDirectory above)
  | truncate : Prepares path (.truncate path)
  | write (text : String) : Prepares path (.write path text)
  | flush : Prepares path (.flush path)

open Disk (Spares)

section Prepares

variable {disk after : Disk} {place : Place} {path : String} {step : SaveStep}

theorem Prepares.perform (prepares : Prepares path step) (taken : disk.at? place ≠ none)
    (avoids : disk.Avoids path place) (done : step.perform disk = .ok after) :
    Spares place disk after := by
  cases prepares with
  | makeDirectory above => exact Disk.spares_makeDirectories taken done
  | truncate => exact Disk.spares_truncate avoids done
  | write text => exact Disk.spares_append avoids done
  | flush =>
    cases done
    exact .refl place _

/-- Making directories one after the other spares what stands already, wherever it stops. -/
theorem spares_foldlM (made : List String) :
    ∀ {disk : Disk}, disk.at? place ≠ none → made.foldlM Disk.makeDirectory disk = .ok after →
      Spares place disk after := by
  induction made with
  | nil =>
    intro disk _ done
    cases done
    exact .refl place _
  | cons directory rest ih =>
    intro disk taken done
    rw [List.foldlM_cons, Guards.bind_eq_ok] at done
    obtain ⟨between, first, later⟩ := done
    have spares := Disk.spares_makeDirectory taken first
    exact spares.trans (ih (spares.entry ▸ taken) later)

/-- A step before the last one spares the file however far it gets. -/
theorem Prepares.leaves (prepares : Prepares path step) (taken : disk.at? place ≠ none)
    (avoids : disk.Avoids path place) (leaves : step.Leaves disk after) :
    Spares place disk after := by
  cases leaves with
  | untouched => exact .refl place _
  | directories some above made => exact spares_foldlM some taken made
  | part written begins done =>
    cases prepares
    exact Disk.spares_append avoids done

/-- Steps that prepare a save spare the file, wherever they stop, and so does a last step that
happens at once or not at all. -/
theorem Stops.spares {last : SaveStep} (whole : ∀ disk after, last.Leaves disk after → after = disk)
    (steps : List SaveStep) : ∀ {disk : Disk}, (∀ step ∈ steps, Prepares path step) →
      disk.at? place ≠ none → disk.Avoids path place → Stops disk (steps ++ [last]) after →
      Spares place disk after := by
  induction steps with
  | nil =>
    intro disk _ _ _ stops
    cases stops with
    | here rest leaves =>
      rw [whole disk after leaves]
      exact .refl place _
    | later done stops => cases stops
  | cons step rest ih =>
    intro disk prepare taken avoids stops
    obtain ⟨prepares, prepare⟩ := List.forall_mem_cons.mp prepare
    cases stops with
    | here rest leaves => exact prepares.leaves taken avoids leaves
    | later done stops =>
      have spares := prepares.perform taken avoids done
      exact spares.trans
        (ih prepare (spares.entry ▸ taken) (avoids.later spares.directories) stops)

end Prepares

end SaveStep

namespace SnapshotFile

/-! ## Saves that stop -/

section Save

variable {file : SnapshotFile} {disk after : Disk} {text : String}

/-- A save makes the directories that are missing, writes the temporary file and puts it in the
place of the file at last. -/
theorem steps_eq (file : SnapshotFile) (text : String) : ∃ directories,
    file.steps text = directories ++ [.truncate file.temporaryPath,
      .write file.temporaryPath text, .flush file.temporaryPath,
      .rename file.temporaryPath file.path] ∧
    ∀ step ∈ directories, SaveStep.Prepares file.temporaryPath step := by
  refine ⟨_, rfl, fun step member => ?_⟩
  split at member
  · split at member
    · cases member
    · cases List.mem_singleton.mp member
      exact .makeDirectory _
  · cases member

theorem find?_of_spares {place : Place} (located : disk.locate file.path = .ok place)
    (spares : Disk.Spares place disk after) :
    after.find? file.path = disk.find? file.path := by
  rw [Disk.find?, Disk.find?, located, spares.directories.locate located]
  exact spares.entry

/-- Wherever a save stops, the file is what it was, unless it is its own temporary file. -/
theorem find?_of_stops {content : String} (held : disk.readFile? file.path = some content)
    (apart : file.temporaryPath ≠ file.path)
    (stops : SaveStep.Stops disk (file.steps text) after) :
    after.find? file.path = disk.find? file.path := by
  obtain ⟨place, located, standing⟩ := Disk.readFile?_eq_some held
  obtain ⟨directories, split, made⟩ := file.steps_eq text
  have lastSplit : file.steps text = (directories ++ [.truncate file.temporaryPath,
      .write file.temporaryPath text, .flush file.temporaryPath]) ++
      [.rename file.temporaryPath file.path] := by
    rw [split, List.append_assoc]
    rfl
  have prepare : ∀ step ∈ directories ++ [.truncate file.temporaryPath,
      .write file.temporaryPath text, .flush file.temporaryPath],
      SaveStep.Prepares file.temporaryPath step := by
    simp only [List.forall_mem_append, List.forall_mem_cons, List.not_mem_nil, false_implies,
      implies_true, and_true]
    exact ⟨made, .truncate, .write text, .flush⟩
  have whole (before last : Disk)
      (leaves : (SaveStep.rename file.temporaryPath file.path).Leaves before last) :
      last = before := by
    cases leaves
    rfl
  have noDirectory : disk.at? place ≠ some .directory := by simp [standing]
  have taken : disk.at? place ≠ none := by simp [standing]
  have avoids := Disk.avoids_temporary located noDirectory apart
  rw [lastSplit] at stops
  exact find?_of_spares located (stops.spares whole _ prepare taken avoids)

/-- A file that holds a text holds it after a save that stops, and is loaded as before. -/
theorem kept_of_stops {content : String} (held : disk.readFile? file.path = some content)
    (apart : file.temporaryPath ≠ file.path)
    (stops : SaveStep.Stops disk (file.steps text) after) :
    after.readFile? file.path = some content ∧ file.load after = file.load disk := by
  have same := find?_of_stops held apart stops
  constructor
  · rw [← held, Disk.readFile?, Disk.readFile?, same]
  · rw [load, load, same]

/-- Where a save is its own temporary file, it cannot be loaded once the save has opened it. -/
theorem load_of_truncate (same : file.temporaryPath = file.path)
    (opened : disk.truncate file.temporaryPath = .ok after) :
    file.load after = .error (.notDecoded .cutShort) := by
  obtain ⟨place, reached, plain, free, rfl⟩ := Disk.truncate_eq_ok opened
  have located : (disk.putAt place (.file "")).locate file.path = .ok place := by
    rw [← same]
    exact (Disk.KeepsDirectories.putAt free).locate (Disk.locate_of_target reached plain)
  have found : (disk.putAt place (.file "")).find? file.path = some (.file "") := by
    rw [Disk.find?, located]
    exact Disk.at?_putAt_self _ _ _ (Disk.isGiven_of_not_directory free)
  have empty : readText Snapshot.reader "" = .error .cutShort := rfl
  simp only [load, found, empty]

/-- A file is loaded as a snapshot, with the doubles that its numerals denote.  No numeral
denotes a number that is not finite, so of a snapshot with such a number nothing is said. -/
def Holds (file : SnapshotFile) (disk : Disk) (snapshot : Snapshot) : Prop :=
  ∀ restated : Float → Float,
    (∀ node ∈ snapshot.nodes, ∀ number ∈ node.numbers, Restates restated number) →
      file.load disk = .ok (some (snapshot.restate restated))

/-- A file with the text of a snapshot holds the snapshot. -/
theorem holds_of_readFile? {snapshot : Snapshot}
    (held : disk.readFile? file.path = some (encode snapshot)) : file.Holds disk snapshot :=
  fun _ restates => load_of_readFile? held (readText_restated restates)

/-- Where the numbers of a snapshot are finite and read back, it is loaded as it was. -/
theorem Holds.load {snapshot : Snapshot} (holds : file.Holds disk snapshot)
    (finite : ∀ node ∈ snapshot.nodes, node.IsFinite)
    (back : ∀ node ∈ snapshot.nodes, ∀ number ∈ node.numbers, Json.ReadsBack number) :
    file.load disk = .ok (some snapshot) := by
  have loaded := holds id fun node inside number member =>
    Restates.of_readsBack (finite node inside number member) (back node inside number member)
  rwa [Snapshot.restate_id] at loaded

/-- A save that fails has stopped at one of its steps. -/
theorem stops_of_save {snapshot : Snapshot} {fault : SaveFault}
    (failed : file.save disk snapshot = (after, .error fault)) :
    SaveStep.Stops disk (file.steps (encode snapshot)) after := by
  rw [save] at failed
  split at failed
  · cases failed
  · rename_i performed
    cases failed
    exact SaveStep.stops_of_error _ performed

end Save

/-- A save that goes through leaves the text of the new snapshot.  One that fails or stops leaves
the text of the earlier one, so this holds for the next save too, and however many saves stop.  It
takes that the temporary path is not the path of the file itself: then the earlier snapshot is
lost as soon as the temporary file is open. -/
theorem saving (file : SnapshotFile) {disk : Disk} {previous : Snapshot}
    (held : disk.readFile? file.path = some (encode previous)) (snapshot : Snapshot) :
    file.Holds disk previous ∧
    (∀ after, file.save disk snapshot = (after, .ok ()) →
      after.readFile? file.path = some (encode snapshot) ∧ file.Holds after snapshot) ∧
    (file.temporaryPath ≠ file.path →
      (∀ after, SaveStep.Stops disk (file.steps (encode snapshot)) after →
        after.readFile? file.path = some (encode previous) ∧ file.load after = file.load disk) ∧
      ∀ after fault, file.save disk snapshot = (after, .error fault) →
        after.readFile? file.path = some (encode previous) ∧ file.load after = file.load disk) ∧
    (file.temporaryPath = file.path → ∃ directories,
      file.steps (encode snapshot) = directories ++ [.truncate file.path,
        .write file.path (encode snapshot), .flush file.path, .rename file.path file.path] ∧
      ∀ between after, SaveStep.performAll disk directories = (between, .ok ()) →
        between.truncate file.path = .ok after →
          SaveStep.Stops disk (file.steps (encode snapshot)) after ∧
            file.load after = .error (.notDecoded .cutShort)) := by
  refine ⟨holds_of_readFile? held, fun after saved => ?saved, fun apart => ?apart,
    fun same => ?same⟩
  case saved =>
    have written := readFile?_save saved
    exact ⟨written, holds_of_readFile? written⟩
  case apart =>
    constructor
    · intro after stopped
      exact kept_of_stops held apart stopped
    · intro after fault failed
      exact kept_of_stops held apart (stops_of_save failed)
  case same =>
    obtain ⟨directories, split, _⟩ := file.steps_eq (encode snapshot)
    rw [same] at split
    refine ⟨directories, split, fun between after made opened => ⟨?_, ?_⟩⟩
    · rw [split]
      exact .after directories made (.later opened (.here _ (.untouched _)))
    · rw [← same] at opened
      exact load_of_truncate same opened

example : (⟨"data/state.json"⟩ : SnapshotFile).temporaryPath = "data/state.tmp" := by decide

/-- A snapshot that was saved in the working directory outlives two saves in a row that stop. -/
theorem saving_beside :
    let file : SnapshotFile := ⟨"snapshot.json"⟩
    ∃ disk, file.save .empty ⟨1, []⟩ = (disk, .ok ()) ∧ file.load disk = .ok (some ⟨1, []⟩) ∧
      ∀ between after, SaveStep.Stops disk (file.steps (encode ⟨2, []⟩)) between →
        SaveStep.Stops between (file.steps (encode ⟨3, []⟩)) after →
          file.load after = .ok (some ⟨1, []⟩) := by
  intro file
  obtain ⟨disk, saved⟩ := save_empty ⟨1, []⟩
  have held : disk.readFile? file.path = some (encode ⟨1, []⟩) := readFile?_save saved
  have apart : file.temporaryPath ≠ file.path := by decide
  obtain ⟨holds, _, beside, _⟩ := saving file held ⟨2, []⟩
  have loaded : file.load disk = .ok (some ⟨1, []⟩) :=
    holds.load (List.forall_mem_nil _) (List.forall_mem_nil _)
  refine ⟨disk, saved, loaded, fun between after stops stopsAgain => ?_⟩
  obtain ⟨stillHeld, sameLoad⟩ := (beside apart).1 between stops
  obtain ⟨_, _, besideAgain, _⟩ := saving file stillHeld ⟨3, []⟩
  obtain ⟨_, sameAgain⟩ := (besideAgain apart).1 after stopsAgain
  calc file.load after = file.load between := sameAgain
    _ = file.load disk := sameLoad
    _ = .ok (some ⟨1, []⟩) := loaded

/-- A double with sixteen places is read back as its neighbour with three. -/
theorem restates_rounded : Restates (fun _ => 0.997) 0.9969999999999999 where
  finite := by decide +kernel
  denotes := by
    let places := ['9', '9', '6', '9', '9', '9', '9', '9', '9', '9', '9', '9', '9', '9', '9', '9']
    have text : (Json.numeral (.float 0.9969999999999999)).toList = '0' :: '.' :: places := by
      decide +kernel
    have wellFormed : (⟨false, ['0'], some places, none⟩ : Decimal.Literal).WellFormed := {
      whole := ⟨List.cons_ne_nil _ _, List.all_eq_true.mp rfl⟩
      noLeadingZero := fun _ _ same => by cases same
      fraction := fun _ same => Option.some.inj same ▸
        ⟨List.cons_ne_nil _ _, List.all_eq_true.mp rfl⟩
      exponent := fun _ _ same => by cases same
      pointed := rfl }
    have scaled : Decimal.Literal.scaled? ⟨false, ['0'], some places, none⟩ =
        some (Decimal.scaleDown (Float.ofNat 9969999999999999) 16) := rfl
    have quotient : Float.ofNat 9969999999999999 / Decimal.powerOfTen 16 = 0.997 := by
      decide +kernel
    rw [Decimal.scaleDown, if_pos (by decide), quotient] at scaled
    rw [text]
    refine ⟨false, _, _, rfl, Draft.numeral_spelling true wellFormed, ?_⟩
    simp only [Draft.numberOf?, Decimal.Literal.integer?, Decimal.Literal.float?, scaled]
    rfl

/-- A file can be saved although it is its own temporary file. -/
theorem save_in_place (snapshot : Snapshot) :
    (⟨"state.tmp"⟩ : SnapshotFile).save .empty snapshot =
      (⟨[(["state.tmp"], .file (encode snapshot))]⟩, .ok ()) := by
  have performed (text : String) :
      SaveStep.performAll .empty ((⟨"state.tmp"⟩ : SnapshotFile).steps text) =
        (⟨[(["state.tmp"], .file ("" ++ text))]⟩, .ok ()) := rfl
  rw [save, performed, String.empty_append]

/-- The file `state.tmp` is its own temporary file: a save that stops right after it has opened
the temporary file leaves nothing of the earlier snapshot.  And a save that goes through need not
leave the very snapshot, because a double may be read back as another one. -/
theorem lost_or_rounded :
    (∃ disk after, (⟨"state.tmp"⟩ : SnapshotFile).save .empty ⟨1, []⟩ = (disk, .ok ()) ∧
      (⟨"state.tmp"⟩ : SnapshotFile).load disk = .ok (some ⟨1, []⟩) ∧
      SaveStep.Stops disk ((⟨"state.tmp"⟩ : SnapshotFile).steps (encode ⟨2, []⟩)) after ∧
      (⟨"state.tmp"⟩ : SnapshotFile).load after = .error (.notDecoded .cutShort)) ∧
    let number : Float := 0.9969999999999999
    let node : Node := { Node.fresh "n" none 0 with
      scores := ⟨number, number, number, number, number⟩, usage := ⟨number, number⟩ }
    ∃ disk loaded, (⟨"snapshot.json"⟩ : SnapshotFile).save .empty ⟨0, [node]⟩ = (disk, .ok ()) ∧
      (⟨"snapshot.json"⟩ : SnapshotFile).load disk = .ok (some loaded) ∧ loaded ≠ ⟨0, [node]⟩ := by
  constructor
  · have saved := save_in_place ⟨1, []⟩
    have loaded := (holds_of_readFile? (readFile?_save saved)).load (List.forall_mem_nil _)
      (List.forall_mem_nil _)
    have opened : (⟨[(["state.tmp"], .file (encode ⟨1, []⟩))]⟩ : Disk).truncate "state.tmp" =
        .ok ⟨[(["state.tmp"], .file "")]⟩ := rfl
    exact ⟨_, _, saved, loaded, .later opened (.here _ (.untouched _)),
      load_of_truncate (by decide) opened⟩
  · intro number node
    obtain ⟨disk, saved⟩ := save_empty ⟨0, [node]⟩
    have same : ∀ other ∈ node.numbers, other = number := by
      simp [Node.numbers, Scores.dimensions, node]
    have restates : ∀ other ∈ ([node] : List Node), ∀ value ∈ other.numbers,
        Restates (fun _ => 0.997) value := by
      intro other member value inside
      cases List.mem_singleton.mp member
      exact same value inside ▸ restates_rounded
    have loaded := holds_of_readFile? (readFile?_save saved) (fun _ => 0.997) restates
    refine ⟨disk, _, saved, loaded, fun same => ?_⟩
    have head := congrArg (fun snapshot => snapshot.nodes.map (·.scores.overall)) same
    have other : (0.997 : Float) ≠ 0.9969999999999999 := by decide +kernel
    exact other (List.singleton_inj.mp head)

end SnapshotFile

end Headroom
