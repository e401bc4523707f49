import Headroom.Storage.SnapshotFile
import Headroom.Proofs.Guards
import Mathlib

/-!
# What is saved can be loaded

A save writes a second file and renames it.  Each step may change what files are on
the disk, but none takes a directory away, so a path that could be followed before
a step leads to the same place after it.  That is why the text that was written
under one name is found under the other.
-/

namespace Headroom

namespace Disk

def KeepsDirectories (before after : Disk) : Prop :=
  ∀ place, before.at? place = some .directory → after.at? place = some .directory

section Places

variable (disk : Disk) (place other : Place) (entry : Entry)

theorem lookup_filter_ne {entries : List (Place × Entry)} (differs : other ≠ place) :
    (entries.filter fun entry => entry.1 != place).lookup other = entries.lookup other := by
  induction entries with
  | nil => rfl
  | cons head tail ih =>
    by_cases dropped : head.1 = place
    · have headNe : (other == head.1) = false := by simpa [dropped] using differs
      rw [List.filter_cons_of_neg (by simp [dropped]), ih]
      simp [List.lookup, headNe]
    · rw [List.filter_cons_of_pos (by simpa using dropped), List.lookup_cons, List.lookup_cons, ih]

theorem at?_putAt_self (free : place.isGiven = false) :
    (disk.putAt place entry).at? place = some entry := by
  simp [at?, putAt, free]

theorem at?_putAt_of_ne (differs : other ≠ place) :
    (disk.putAt place entry).at? other = disk.at? other := by
  have headNe : (other == place) = false := by simpa using differs
  simp [at?, putAt, List.lookup, headNe, lookup_filter_ne place other differs]

theorem at?_removeAt_of_ne (differs : other ≠ place) :
    (disk.removeAt place).at? other = disk.at? other := by
  simp [at?, removeAt, lookup_filter_ne place other differs]

theorem at?_removeAt_self (free : place.isGiven = false) :
    (disk.removeAt place).at? place = none := by
  have absent : (disk.entries.filter fun entry => entry.1 != place).lookup place = none := by
    rw [List.lookup_eq_none_iff]
    intro entry member
    have kept : entry.1 ≠ place := by simpa using (List.mem_filter.mp member).2
    simpa using kept.symm
  simp [at?, removeAt, free, absent]

end Places

namespace KeepsDirectories

theorem putAt {disk : Disk} {place : Place} {entry : Entry}
    (noDirectory : disk.at? place ≠ some .directory) :
    KeepsDirectories disk (disk.putAt place entry) := by
  intro other isDirectory
  have differs : other ≠ place := fun same => noDirectory (same ▸ isDirectory)
  rw [at?_putAt_of_ne disk place other entry differs, isDirectory]

theorem removeAt {disk : Disk} {place : Place} (noDirectory : disk.at? place ≠ some .directory) :
    KeepsDirectories disk (disk.removeAt place) := by
  intro other isDirectory
  have differs : other ≠ place := fun same => noDirectory (same ▸ isDirectory)
  rw [at?_removeAt_of_ne disk place other differs, isDirectory]

variable {before after : Disk} (keeps : KeepsDirectories before after)

include keeps

theorem step {place next : Place} {name : String} (reached : before.step place name = .ok next) :
    after.step place name = .ok next := by
  rw [Disk.step] at reached ⊢
  cases standing : before.at? place with
  | none => simp [standing] at reached
  | some entry =>
    cases entry with
    | file content => simp [standing] at reached
    | directory =>
      rw [standing] at reached
      rw [keeps place standing]
      exact reached

theorem walk {place last : Place} {names : List String}
    (reached : before.walk place names = .ok last) : after.walk place names = .ok last := by
  induction names generalizing place with
  | nil => exact reached
  | cons name rest ih =>
    rw [Disk.walk, Guards.bind_eq_ok] at reached ⊢
    obtain ⟨next, first, later⟩ := reached
    exact ⟨next, keeps.step first, ih later⟩

/-- A path whose last name could be reached still can be. -/
theorem target {unnamed : DiskFault} {path : String} {place : Place}
    (reached : before.target unnamed path = .ok place) :
    after.target unnamed path = .ok place := by
  simp only [Disk.target, Guards.bind_eq_ok] at reached ⊢
  obtain ⟨_, checked, above, walked, named⟩ := reached
  refine ⟨_, checked, above, keeps.walk walked, ?_⟩
  cases last : (Path.names path).getLast? with
  | none => simp [last] at named
  | some name =>
    simp only [last, Guards.bind_eq_ok] at named ⊢
    obtain ⟨place, stepped, kept⟩ := named
    exact ⟨place, keeps.step stepped, kept⟩

end KeepsDirectories

theorem walk_append {disk : Disk} {names more : List String} :
    ∀ {place : Place}, disk.walk place (names ++ more) =
      disk.walk place names >>= fun last => disk.walk last more := by
  induction names with
  | nil => exact rfl
  | cons name rest ih =>
    intro place
    simp only [List.cons_append, Disk.walk, bind_assoc, ih]

/-- The place that the last name of a path stands for is where the path leads. -/
theorem locate_of_target {disk : Disk} {unnamed : DiskFault} {path : String} {place : Place}
    (reached : disk.target unnamed path = .ok place) (plain : Path.endsInSlash path = false) :
    disk.locate path = .ok place := by
  simp only [Disk.target, Guards.bind_eq_ok] at reached
  obtain ⟨_, checked, above, walked, named⟩ := reached
  cases last : (Path.names path).getLast? with
  | none => simp [last] at named
  | some name =>
    simp only [last, Guards.bind_eq_ok] at named
    obtain ⟨next, stepped, kept⟩ := named
    obtain ⟨_, samePlace⟩ := Guards.ite_error_eq_ok.mp kept
    cases samePlace
    have allNames : Path.names path = (Path.names path).dropLast ++ [name] := by
      obtain ⟨front, split⟩ := List.getLast?_eq_some_iff.mp last
      rw [split, List.dropLast_concat]
    have steps : Path.steps path = (Path.names path).dropLast ++ [name] := by
      rw [Path.steps, plain, if_neg Bool.false_ne_true, List.append_nil, ← allNames]
    have lastStep : disk.walk above [name] = .ok place := by
      simp only [Disk.walk, stepped]
      rfl
    simp only [locate, Guards.bind_eq_ok, steps, walk_append]
    exact ⟨_, checked, above, walked, lastStep⟩

/-! ## The steps of a save -/

/-- A file is emptied at the place of its path, where no directory stands. -/
theorem truncate_eq_ok {disk after : Disk} {path : String} (done : disk.truncate path = .ok after) :
    ∃ place, disk.target .isADirectory path = .ok place ∧ Path.endsInSlash path = false ∧
      disk.at? place ≠ some .directory ∧ after = disk.putAt place (.file "") := by
  simp only [truncate, Guards.bind_eq_ok, Guards.ite_error_eq_ok] at done
  obtain ⟨place, reached, plain, put⟩ := done
  refine ⟨place, reached, by simpa using plain, ?_⟩
  cases standing : disk.at? place with
  | none =>
    rw [standing] at put
    exact ⟨fun same => (by cases same), (Except.ok.inj put).symm⟩
  | some entry =>
    cases entry with
    | directory => simp [standing] at put
    | file content =>
      rw [standing] at put
      exact ⟨fun same => (by cases same), (Except.ok.inj put).symm⟩

theorem append_eq_ok {disk after : Disk} {path text : String}
    (done : disk.append path text = .ok after) :
    ∃ place content, disk.locate path = .ok place ∧ disk.at? place = some (.file content) ∧
      after = disk.putAt place (.file (content ++ text)) := by
  simp only [append, Guards.bind_eq_ok] at done
  obtain ⟨place, reached, put⟩ := done
  cases standing : disk.at? place with
  | none => simp [standing] at put
  | some entry =>
    cases entry with
    | directory => simp [standing] at put
    | file content =>
      rw [standing] at put
      exact ⟨place, content, reached, standing, (Except.ok.inj put).symm⟩

/-- A file is moved to the place of the other path, which may not hold a directory. -/
theorem rename_eq_ok {disk after : Disk} {source target : String}
    (done : disk.rename source target = .ok after) :
    ∃ place next content, disk.target .inUse source = .ok place ∧
      disk.target .inUse target = .ok next ∧ disk.at? place = some (.file content) ∧
      Path.endsInSlash target = false ∧ disk.at? next ≠ some .directory ∧
      after = (disk.removeAt place).putAt next (.file content) := by
  simp only [rename, Guards.bind_eq_ok] at done
  obtain ⟨place, reached, next, nextReached, moved⟩ := done
  cases standing : disk.at? place with
  | none => simp [standing] at moved
  | some entry =>
    cases entry with
    | directory => simp [standing] at moved
    | file content =>
      simp only [standing, Guards.ite_error_eq_ok] at moved
      obtain ⟨plain, free, put⟩ := moved
      have targetPlain : Path.endsInSlash target = false := by
        simp only [Bool.or_eq_true, not_or, Bool.not_eq_true] at plain
        exact plain.2
      exact ⟨place, next, content, reached, nextReached, standing, targetPlain, free,
        (Except.ok.inj put).symm⟩

theorem isGiven_of_not_directory {disk : Disk} {place : Place}
    (noDirectory : disk.at? place ≠ some .directory) : place.isGiven = false := by
  by_contra given
  exact noDirectory (by simp [at?, given])

/-- A file that was made empty and filled holds what was written. -/
theorem written {disk emptied filled : Disk} {path text : String}
    (truncated : disk.truncate path = .ok emptied) (appended : emptied.append path text = .ok filled) :
    Path.endsInSlash path = false ∧
      ∃ place, filled.locate path = .ok place ∧ filled.at? place = some (.file text) := by
  obtain ⟨place, reached, plain, free, rfl⟩ := truncate_eq_ok truncated
  obtain ⟨other, content, located, held, rfl⟩ := append_eq_ok appended
  have notGiven : place.isGiven = false := isGiven_of_not_directory free
  have reachedAgain : (disk.putAt place (.file "")).target .isADirectory path = .ok place :=
    KeepsDirectories.target (.putAt free) reached
  have same : other = place :=
    Except.ok.inj (located.symm.trans (locate_of_target reachedAgain plain))
  subst same
  rw [at?_putAt_self _ _ _ notGiven] at held
  cases held
  have stillFree : (disk.putAt other (.file "")).at? other ≠ some .directory := by
    rw [at?_putAt_self _ _ _ notGiven]
    simp
  have reachedFilled :
      ((disk.putAt other (.file "")).putAt other (.file ("" ++ text))).target .isADirectory path =
        .ok other := KeepsDirectories.target (.putAt stillFree) reachedAgain
  refine ⟨plain, other, locate_of_target reachedFilled plain, ?_⟩
  rw [at?_putAt_self _ _ _ notGiven, String.empty_append]

/-- A file that takes the place of another one holds what it held. -/
theorem readFile?_rename {disk renamed : Disk} {source path text : String} {place : Place}
    (plain : Path.endsInSlash source = false) (located : disk.locate source = .ok place)
    (held : disk.at? place = some (.file text)) (moved : disk.rename source path = .ok renamed) :
    renamed.readFile? path = some text := by
  obtain ⟨before, after, content, sourceReached, targetReached, standing, pathPlain, free, rfl⟩ :=
    rename_eq_ok moved
  have same : before = place :=
    Except.ok.inj ((locate_of_target sourceReached plain).symm.trans located)
  subst same
  have sameText : content = text := by
    rw [held] at standing
    cases standing
    rfl
  subst sameText
  have notDirectory : disk.at? before ≠ some .directory := by
    rw [held]
    simp
  -- the place of the file that was moved is free, and may be the one it is moved to
  have stillFree : (disk.removeAt before).at? after ≠ some .directory := by
    by_cases same : after = before
    · subst same
      rw [at?_removeAt_self disk after (isGiven_of_not_directory free)]
      simp
    · rwa [at?_removeAt_of_ne disk before after same]
  have reachedRemoved : (disk.removeAt before).target .inUse path = .ok after :=
    KeepsDirectories.target (.removeAt notDirectory) targetReached
  have reachedAgain :
      ((disk.removeAt before).putAt after (.file content)).target .inUse path = .ok after :=
    KeepsDirectories.target (.putAt stillFree) reachedRemoved
  have found := locate_of_target reachedAgain pathPlain
  simp [readFile?, find?, found, at?_putAt_self _ _ _ (isGiven_of_not_directory free)]

end Disk

/-! ## Saving and loading -/

theorem SaveStep.performAll_cons_eq_ok {disk after : Disk} {step : SaveStep}
    {rest : List SaveStep} (done : performAll disk (step :: rest) = (after, .ok ())) :
    ∃ between, step.perform disk = .ok between ∧ performAll between rest = (after, .ok ()) := by
  rw [performAll] at done
  cases first : step.perform disk with
  | error fault => simp [first] at done
  | ok between => exact ⟨between, rfl, by simpa only [first] using done⟩

theorem SaveStep.performAll_append_eq_ok {more : List SaveStep} {after : Disk}
    (steps : List SaveStep) : ∀ {disk : Disk}, performAll disk (steps ++ more) = (after, .ok ()) →
      ∃ between, performAll between more = (after, .ok ()) := by
  induction steps with
  | nil => exact fun done => ⟨_, done⟩
  | cons step rest ih =>
    intro disk done
    obtain ⟨_, _, later⟩ := performAll_cons_eq_ok done
    exact ih later

namespace SnapshotFile

/-- A save that goes through leaves the text of the snapshot in the file, wherever the
path leads and whatever stood there. -/
theorem readFile?_save {file : SnapshotFile} {disk after : Disk} {snapshot : Snapshot}
    (saved : file.save disk snapshot = (after, .ok ())) :
    after.readFile? file.path = some (encode snapshot) := by
  have performed : SaveStep.performAll disk (file.steps (encode snapshot)) = (after, .ok ()) := by
    rw [save] at saved
    split at saved
    · cases saved
      assumption
    · cases saved
  rw [steps] at performed
  obtain ⟨_, onward⟩ := SaveStep.performAll_append_eq_ok _ performed
  obtain ⟨emptied, truncated, onward⟩ := SaveStep.performAll_cons_eq_ok onward
  obtain ⟨filled, appended, onward⟩ := SaveStep.performAll_cons_eq_ok onward
  obtain ⟨flushed, unchanged, onward⟩ := SaveStep.performAll_cons_eq_ok onward
  cases unchanged
  obtain ⟨renamed, moved, finished⟩ := SaveStep.performAll_cons_eq_ok onward
  cases finished
  obtain ⟨plain, place, located, held⟩ := Disk.written truncated appended
  exact Disk.readFile?_rename plain located held moved

/-- On an empty disk a file in the working directory can be saved. -/
theorem save_empty (snapshot : Snapshot) :
    ∃ after, (⟨"snapshot.json"⟩ : SnapshotFile).save .empty snapshot = (after, .ok ()) := by
  have performed (text : String) :
      (SaveStep.performAll .empty ((⟨"snapshot.json"⟩ : SnapshotFile).steps text)).2 = .ok () := rfl
  obtain ⟨after, done⟩ : ∃ after, SaveStep.performAll .empty
      ((⟨"snapshot.json"⟩ : SnapshotFile).steps (encode snapshot)) = (after, .ok ()) :=
    ⟨_, Prod.ext rfl (performed _)⟩
  exact ⟨after, by rw [save, done]⟩

/-- A file is loaded as what the reader makes of its text. -/
theorem load_eq {file : SnapshotFile} {disk : Disk} {text : String}
    (held : disk.readFile? file.path = some text) :
    file.load disk = ((readText Snapshot.reader text).map some).mapError .notDecoded := by
  rw [Disk.readFile?] at held
  rw [load]
  cases found : disk.find? file.path with
  | none => simp [found] at held
  | some entry =>
    cases entry with
    | directory => simp [found] at held
    | file content =>
      have same : content = text := by simpa [found] using held
      subst same
      cases read : readText Snapshot.reader content with
      | ok snapshot =>
        simp only [read]
        rfl
      | error fault =>
        simp only [read]
        rfl

/-- A file is loaded as the snapshot that the reader finds in its text. -/
theorem load_of_readFile? {file : SnapshotFile} {disk : Disk} {text : String}
    {snapshot : Snapshot} (held : disk.readFile? file.path = some text)
    (read : readText Snapshot.reader text = .ok snapshot) :
    file.load disk = .ok (some snapshot) := by
  rw [load_eq held, read]
  rfl

end SnapshotFile

end Headroom
