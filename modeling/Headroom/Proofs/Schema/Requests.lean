import Headroom.Proofs.Storage.Documents
import Headroom.Schema.Engine
import Headroom.Schema.Settings

/-!
# What an engine is sent is read back

Readings, samples, registrations and settings are read from their documents as they were,
where the numerals of their doubles are exact.  Whatever text they are read from, their
numbers are finite, so they can be written again.
-/

namespace Headroom

open RecordReader (Builds)

/-! ## Readings and samples -/

def Reading.numbers (reading : Reading Float) : List Float :=
  [reading.cpuLoad, reading.memoryUsed, reading.memoryTotal, reading.networkLatency,
    reading.networkThroughput, reading.heartbeatRate]

def Sample.numbers (sample : Sample Float) : List Float :=
  [sample.cpuLoad, sample.memoryUsed, sample.memoryTotal, sample.networkLatency,
    sample.networkThroughput, sample.heartbeatRate]

theorem Reading.reads {reading : Reading Float}
    (restates : ∀ number ∈ reading.numbers, Exact number) :
    ReadsExactly reader reading.toJson reading := by
  simp only [numbers, List.forall_mem_cons] at restates
  obtain ⟨load, used, total, latency, throughput, rate, _⟩ := restates
  obtain ⟨id, name, timestamp, cpuLoad, memoryUsed, memoryTotal, networkLatency,
    networkThroughput, heartbeatRate, container⟩ := reading
  refine Builds.read (Builds.nothing Reading.mk
    |>.field (.written (.string id))
    |>.field (.text "name" name)
    |>.field (.time "timestamp" timestamp)
    |>.field (.written (.float load))
    |>.field (.written (.float used))
    |>.field (.written (.float total))
    |>.field (.written (.float latency))
    |>.field (.written (.float throughput))
    |>.field (.written (.float rate))
    |>.field (.container container)) (by decide) ?_
  cases name <;> cases timestamp <;> cases container <;> rfl

theorem Sample.reads {sample : Sample Float}
    (restates : ∀ number ∈ sample.numbers, Exact number) :
    ReadsExactly reader sample.toJson sample := by
  simp only [numbers, List.forall_mem_cons] at restates
  obtain ⟨load, used, total, latency, throughput, rate, _⟩ := restates
  exact Builds.read (Builds.nothing Sample.mk
    |>.field (.written (.time sample.timestamp))
    |>.field (.written (.float load))
    |>.field (.written (.float used))
    |>.field (.written (.float total))
    |>.field (.written (.float latency))
    |>.field (.written (.float throughput))
    |>.field (.written (.float rate))) (by decide) rfl

open RecordReader.Yields in
theorem Reading.yields :
    reader.Yields fun reading => ∀ number ∈ reading.numbers, number.isFinite = true := by
  refine read (field (.any _) (field (.required .float) (field (.required .float)
    (field (.required .float) (field (.required .float) (field (.required .float)
      (field (.required .float) (field (.any _) (field (.any _) (field (.any _)
        (nothing ?_)))))))))))
  intro _ _ _ _ _ _ load loadFinite used usedFinite total totalFinite latency latencyFinite
    throughput throughputFinite rate rateFinite _ _
  simp only [numbers, List.forall_mem_cons]
  exact ⟨loadFinite, usedFinite, totalFinite, latencyFinite, throughputFinite, rateFinite,
    List.forall_mem_nil _⟩

open RecordReader.Yields in
theorem Sample.yields :
    reader.Yields fun sample => ∀ number ∈ sample.numbers, number.isFinite = true := by
  refine read (field (.required .float) (field (.required .float) (field (.required .float)
    (field (.required .float) (field (.required .float) (field (.required .float)
      (field (.any _) (nothing ?_))))))))
  intro _ _ load loadFinite used usedFinite total totalFinite latency latencyFinite throughput
    throughputFinite rate rateFinite
  simp only [numbers, List.forall_mem_cons]
  exact ⟨loadFinite, usedFinite, totalFinite, latencyFinite, throughputFinite, rateFinite,
    List.forall_mem_nil _⟩

/-! ## Registrations -/

theorem Registration.reads (request : Registration) :
    ReadsExactly reader request.toJson request := by
  obtain ⟨id, name, container⟩ := request
  refine Builds.read (Builds.nothing Registration.mk
    |>.field (.written (.string id))
    |>.field (.text "name" name)
    |>.field (.container container)) (by decide) ?_
  cases name <;> cases container <;> rfl

/-! ## Settings -/

def Scoring.numbers (scoring : Scoring Float) : List Float :=
  [scoring.cpuCapacity, scoring.latencyCeiling, scoring.throughputCapacity, scoring.latencyShare] ++
    scoring.weights.toList

def Thresholds.numbers (thresholds : Thresholds Float) : List Float :=
  [thresholds.low, thresholds.high, thresholds.lowMargin, thresholds.highMargin]

def Settings.numbers (settings : Settings Float) : List Float :=
  settings.scoring.numbers ++ settings.thresholds.numbers

theorem WindowSettings.reads (settings : WindowSettings) :
    ReadsExactly reader settings.toJson settings :=
  Builds.read (Builds.nothing WindowSettings.mk
    |>.field (.written (.natural settings.maxSamples))
    |>.field (.written (.natural settings.maxAgeSeconds))) (by decide) rfl

theorem Weights.reads {weights : Weights Float}
    (restates : ∀ number ∈ weights.toList, Exact number) :
    ReadsExactly reader weights.toJson weights := by
  simp only [toList, List.forall_mem_cons] at restates
  obtain ⟨cpu, memory, network, availability, _⟩ := restates
  exact Builds.read (Builds.nothing Weights.mk
    |>.field (.written (.float cpu))
    |>.field (.written (.float memory))
    |>.field (.written (.float network))
    |>.field (.written (.float availability))) (by decide) rfl

theorem Scoring.reads {scoring : Scoring Float}
    (restates : ∀ number ∈ scoring.numbers, Exact number) :
    ReadsExactly reader scoring.toJson scoring := by
  obtain ⟨baselines, weights⟩ := List.forall_mem_append.mp restates
  simp only [List.forall_mem_cons] at baselines
  obtain ⟨capacity, ceiling, throughput, share, _⟩ := baselines
  exact Builds.read (Builds.nothing Scoring.mk
    |>.field (.written (.float capacity))
    |>.field (.written (.float ceiling))
    |>.field (.written (.float throughput))
    |>.field (.written (.float share))
    |>.field (.written (Weights.reads weights))) (by decide) rfl

theorem Thresholds.reads {thresholds : Thresholds Float}
    (restates : ∀ number ∈ thresholds.numbers, Exact number) :
    ReadsExactly reader thresholds.toJson thresholds := by
  simp only [numbers, List.forall_mem_cons] at restates
  obtain ⟨low, high, lowMargin, highMargin, _⟩ := restates
  exact Builds.read (Builds.nothing Thresholds.mk
    |>.field (.written (.float low))
    |>.field (.written (.float high))
    |>.field (.written (.float lowMargin))
    |>.field (.written (.float highMargin))) (by decide) rfl

theorem RegistrySettings.reads (settings : RegistrySettings) :
    ReadsExactly reader settings.toJson settings := by
  have capacityRead : ReadsExactly Reader.uint64.optional (.nullable .natural settings.capacity)
      settings.capacity := .nullable (fun count _ => .natural count) fun _ _ => nofun
  exact Builds.read (Builds.nothing RegistrySettings.mk
    |>.field (.written capacityRead)
    |>.field (.written (.natural settings.silenceTimeoutSeconds))
    |>.field (.written (.natural settings.sundownRetentionSeconds))
    |>.field (.written (.natural settings.auditLogSize))) (by decide) rfl

theorem Settings.reads {settings : Settings Float}
    (restates : ∀ number ∈ settings.numbers, Exact number) :
    ReadsExactly reader settings.toJson settings := by
  obtain ⟨scoring, thresholds⟩ := List.forall_mem_append.mp restates
  exact Builds.read (Builds.nothing Settings.mk
    |>.field (.written settings.window.reads)
    |>.field (.written (Scoring.reads scoring))
    |>.field (.written (Thresholds.reads thresholds))
    |>.field (.written settings.registry.reads)) (by decide) rfl

open RecordReader.Yields in
theorem Weights.yields :
    reader.Yields fun weights => ∀ number ∈ weights.toList, number.isFinite = true := by
  refine read (field (.required .float) (field (.required .float) (field (.required .float)
    (field (.required .float) (nothing ?_)))))
  intro cpu cpuFinite memory memoryFinite network networkFinite availability availabilityFinite
  simp only [toList, List.forall_mem_cons]
  exact ⟨cpuFinite, memoryFinite, networkFinite, availabilityFinite, List.forall_mem_nil _⟩

open RecordReader.Yields in
theorem Scoring.yields :
    reader.Yields fun scoring => ∀ number ∈ scoring.numbers, number.isFinite = true := by
  have weightsFinite : ∀ number ∈ (Weights.default : Weights Float).toList,
      number.isFinite = true := by decide
  refine read (field (.withDefault Weights.yields weightsFinite)
    (field (.withDefault .float rfl) (field (.withDefault .float rfl)
      (field (.withDefault .float rfl) (field (.withDefault .float rfl) (nothing ?_))))))
  intro capacity capacityFinite ceiling ceilingFinite throughput throughputFinite share shareFinite
    weights finite
  simp only [numbers, List.forall_mem_append, List.forall_mem_cons]
  exact ⟨⟨capacityFinite, ceilingFinite, throughputFinite, shareFinite, List.forall_mem_nil _⟩,
    finite⟩

open RecordReader.Yields in
theorem Thresholds.yields :
    reader.Yields fun thresholds => ∀ number ∈ thresholds.numbers, number.isFinite = true := by
  refine read (field (.withDefault .float rfl) (field (.withDefault .float rfl)
    (field (.withDefault .float rfl) (field (.withDefault .float rfl) (nothing ?_)))))
  intro low lowFinite high highFinite lowMargin lowMarginFinite highMargin highMarginFinite
  simp only [numbers, List.forall_mem_cons]
  exact ⟨lowFinite, highFinite, lowMarginFinite, highMarginFinite, List.forall_mem_nil _⟩

open RecordReader.Yields in
theorem Settings.yields :
    reader.Yields fun settings => ∀ number ∈ settings.numbers, number.isFinite = true := by
  have scoringFinite : ∀ number ∈ (Scoring.default : Scoring Float).numbers,
      number.isFinite = true := by decide
  have thresholdsFinite : ∀ number ∈ (Thresholds.default : Thresholds Float).numbers,
      number.isFinite = true := by decide
  refine read (field (.any _) (field (.withDefault Thresholds.yields thresholdsFinite)
    (field (.withDefault Scoring.yields scoringFinite) (field (.any _) (nothing ?_)))))
  intro _ _ scoring scoringOk thresholds thresholdsOk _ _
  exact List.forall_mem_append.mpr ⟨scoringOk, thresholdsOk⟩

end Headroom
