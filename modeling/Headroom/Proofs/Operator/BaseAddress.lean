import Headroom.Proofs.Operator.Addressing

/-!
# Calls below a base address

Requests go to the scheme, the host and the port of the base address, whatever the call is.  The
path of a call takes the place of what follows the last slash of the base address.  So the
request is below the base address if this one ends in a slash; if it does not, its last segment
is lost.  Dots in the path of a call are steps along this path only: they never lead out of the
place where it starts.
-/

namespace Headroom

open Percent (segment)

namespace Url

/-! ## Base addresses -/

/-- A walk along some segments ends at a segment, even if this one is empty. -/
theorem walk_ne_nil {segments : List String} (some : segments ≠ []) (place : List String) :
    walk place segments ≠ [] := by
  induction segments generalizing place with
  | nil => exact absurd rfl some
  | cons first rest ih =>
    cases rest with
    | nil =>
      rw [walk]
      split_ifs <;> exact List.concat_ne_nil _ _
    | cons next more =>
      have onward := ih (List.cons_ne_nil next more)
      rw [walk]
      · split_ifs <;> exact onward _
      · exact List.cons_ne_nil _ _

theorem segmentsOf_ne_nil (hosted : Bool) (path : List Char) : segmentsOf hosted path ≠ [] := by
  have pieces (text : List Char) : Percent.cut '/' text ≠ [] := by
    cases text with
    | nil => exact List.cons_ne_nil _ _
    | cons char rest =>
      rw [Percent.cut]
      split
      · exact List.cons_ne_nil _ _
      · split <;> exact List.cons_ne_nil _ _
  exact fun none => pieces _ (List.map_eq_nil_iff.mp none)

/-- On a host there is always a path. -/
theorem absolutePath_ne_nil (path : List Char) : absolutePath true path ≠ [] := by
  cases path with
  | nil => exact List.cons_ne_nil _ _
  | cons first rest =>
    rw [absolutePath]
    split <;> exact walk_ne_nil (segmentsOf_ne_nil _ _) _

/-- An address with a path, from which other paths lead on. -/
structure IsPlaced (url : Url) : Prop where
  transparent : url.opaqueRest = false
  path : url.path ≠ []

theorem ofAuthority_eq_some {scheme : String} {hosted : Bool} {text : List Char} {url : Url}
    (parsed : ofAuthority scheme hosted text = some url) :
    url.scheme = scheme ∧ url.opaqueRest = false ∧ ∃ path, url.path = absolutePath hosted path := by
  unfold ofAuthority at parsed
  cases hosted <;>
  · simp only [if_true, if_false, Bool.false_eq_true, Option.bind_eq_bind,
      Option.bind_eq_some_iff] at parsed
    obtain ⟨host, -, ⟨port, unread⟩, -, made⟩ := parsed
    split at made
    · cases made
    · cases made
      exact ⟨rfl, rfl, _, rfl⟩

theorem scheme_ofFile {text : List Char} {url : Url} (parsed : ofFile text = some url) :
    url.scheme = "file" := by
  unfold ofFile at parsed
  extract_lets isPart slashes after hostText isHost rest finish at parsed
  clear_value isHost
  cases isHost <;>
  · simp only [Bool.false_eq_true, if_false, if_true] at parsed
    obtain ⟨host, -, made⟩ := Option.bind_eq_some_iff.mp parsed
    cases made
    rfl

/-- An address of a scheme that always has a host is one with a path. -/
theorem isPlaced_of_parse? {text : String} {url : Url} (parsed : parse? text = some url)
    (hosted : (usualPorts.lookup url.scheme).isSome = true) : url.IsPlaced := by
  simp only [parse?, Option.bind_eq_bind, Option.bind_eq_some_iff] at parsed
  obtain ⟨⟨scheme, rest⟩, -, parsed⟩ := parsed
  dsimp only at parsed
  -- The scheme that is read decides how the rest is read, and it is the scheme of the address.
  have other (same : url.scheme = scheme) (unknown : ¬(usualPorts.lookup scheme).isSome = true) :
      url.IsPlaced := absurd (same ▸ hosted) unknown
  split_ifs at parsed with known file
  · obtain ⟨-, transparent, path, same⟩ := ofAuthority_eq_some parsed
    exact ⟨transparent, same ▸ absolutePath_ne_nil path⟩
  · exact other ((scheme_ofFile parsed).trans file.symm) known
  · split at parsed
    · exact other (ofAuthority_eq_some parsed).1 known
    · cases parsed
      exact other rfl known
    · cases parsed
      exact other rfl known

/-! ## Paths as they are written -/

/-- Segments as they are written in a path, each with a slash in front. -/
def written (segments : List String) : String := String.join (segments.map ("/" ++ ·))

theorem written_append (front back : List String) :
    written (front ++ back) = written front ++ written back := by
  rw [written, List.map_append, String.join_append]
  rfl

theorem written_segments {texts : List String} (some : texts ≠ []) :
    written (texts.map segment) = "/" ++ joined texts :=
  @pathText_segments ⟨"", "", none, texts.map segment, false, none⟩ texts some rfl

/-- The path of an address as it is written, without one slash at its end. -/
def trunk (url : Url) : String :=
  if url.pathText.toList.getLast? = some '/' then String.ofList url.pathText.toList.dropLast
  else url.pathText

def EndsInSlash (url : Url) : Prop := url.path.getLast? = some ""

instance (url : Url) : Decidable url.EndsInSlash := inferInstanceAs (Decidable (_ = _))

/-- A slash at the end of a path stands in front of an empty segment. -/
theorem trunk_of_concat_empty {url : Url} {front : List String} (path : url.path = front ++ [""]) :
    url.trunk = written front := by
  have ends : url.pathText.toList = (written front).toList ++ ['/'] := by
    rw [pathText, path, ← written, written_append, String.toList_append]
    rfl
  rw [trunk, ends, List.getLast?_concat, if_pos rfl, List.dropLast_concat, String.ofList_toList]

theorem length_pathText_concat {url : Url} {front : List String} {last : String}
    (path : url.path = front ++ [last]) :
    url.pathText.length = (written front).length + (last.length + 1) := by
  have segment : (written [last]).length = last.length + 1 := by
    rw [written, List.map_singleton, String.join_cons, String.join_nil, String.append_empty,
      String.length_append, Nat.add_comm]
    rfl
  rw [pathText, path, ← written, written_append, String.length_append, segment]

/-- No more than one slash is left out. -/
theorem length_le_length_trunk (url : Url) : url.pathText.length ≤ url.trunk.length + 1 := by
  rw [trunk]
  split
  · rw [String.length_ofList, List.length_dropLast, String.length_toList]
    omega
  · exact Nat.le_succ _

theorem withQuery_eq (url : Url) (fields : List (String × String)) :
    url.withQuery fields = { url with
      query := if fields.isEmpty then url.query else some (Percent.formOf fields) } := by
  rw [withQuery]
  split <;> rfl

end Url

namespace Operator.Call

/-! ## Where a call leads -/

/-- The segments to which the path of a call leads, from the place where it starts. -/
def landing (call : Call) : List String := Url.walk [] (call.place.map segment)

/-- Only the id of a node can be taken for a step. -/
theorem about_step {call : Call} (step : ¬ ∀ name ∈ call.place, ¬ Url.IsStep name) :
    ∃ id, Url.IsStep id ∧ (call = .node id ∨ call = .decommission id) := by
  have names : ∀ name ∈ ["api", "v1", "nodes", "containers", "transitions", "decommission",
      "stats", "healthz"], ¬ Url.IsStep name := by decide
  simp only [List.forall_mem_cons] at names
  by_contra plain
  apply step
  cases call
  case node id =>
    have noStep : ¬ Url.IsStep id := fun isStep => plain ⟨id, isStep, .inl rfl⟩
    simp [place, names, noStep]
  case decommission id =>
    have noStep : ¬ Url.IsStep id := fun isStep => plain ⟨id, isStep, .inr rfl⟩
    simp [place, names, noStep]
  all_goals simp [place, names]

/-- The path of a call never leads above the place where it starts. -/
theorem walk_place (start : List String) (call : Call) :
    Url.walk start (call.place.map segment) = start ++ call.landing := by
  by_cases names : ∀ name ∈ call.place, ¬ Url.IsStep name
  · rw [landing, Url.walk_names names, Url.walk_names names, List.nil_append]
  · obtain ⟨id, rfl | rfl, rfl | rfl⟩ := about_step names <;>
      simp [landing, place, Url.walk]

theorem landing_of_names {call : Call} (names : ∀ name ∈ call.place, ¬ Url.IsStep name) :
    call.landing = call.place.map segment := by
  rw [landing, Url.walk_names names, List.nil_append]

theorem written_landing {call : Call} (names : ∀ name ∈ call.place, ¬ Url.IsStep name) :
    Url.written call.landing = "/" ++ call.path := by
  rw [landing_of_names names, Url.written_segments (place_ne_nil call), path_eq]

/-- A path with a step in it is written shorter once the step is taken. -/
theorem length_written_landing_lt {call : Call}
    (step : ¬ ∀ name ∈ call.place, ¬ Url.IsStep name) :
    (Url.written call.landing).length < call.path.length + 1 := by
  obtain ⟨id, rfl | rfl, rfl | rfl⟩ := about_step step <;> decide +kernel

/-- A call sends one request, and this one to the given address; its response is the one of the
call. -/
def Requests (base : Url) (call : Call) (url : Url) : Prop :=
  ∀ (σ : Type) (network : Network σ), (call.send network base).run =
    (fun response => response.elim (.error .notSent) .ok) <$> network url (call.request url)

theorem requests_of_url {base url : Url} {call : Call} (known : call.url base = .ok url)
    (sendable : url.scheme ∈ requestSchemes) : call.Requests base url := by
  intro σ network
  have lifted : (liftM (Except.ok url : Except Failure Url) : Conversation σ Url) = pure url := rfl
  have contained : requestSchemes.contains url.scheme = true := List.contains_iff_mem.mpr sendable
  rw [send, known, lifted, pure_bind, if_pos contained, ExceptT.run_bind, ExceptT.run_monadLift,
    bind_map_left, map_eq_pure_bind]
  refine bind_congr fun response => ?_
  cases response <;> rfl

/-- A request is written below its base address if and only if the base address ends in a slash
and no name in the path of the call is taken for a step. -/
theorem pathText_eq_iff {base url : Url} (placed : base.IsPlaced) {call : Call}
    (path : url.path = base.path.dropLast ++ call.landing) :
    url.pathText = base.trunk ++ "/" ++ call.path ↔
      base.EndsInSlash ∧ ∀ name ∈ call.place, ¬ Url.IsStep name := by
  obtain ⟨front, last, whole⟩ := (List.eq_nil_or_concat' base.path).resolve_left placed.path
  have text : url.pathText = Url.written front ++ Url.written call.landing := by
    rw [Url.pathText, path, whole, List.dropLast_concat, ← Url.written, Url.written_append]
  rw [Url.EndsInSlash, whole, List.getLast?_concat, Option.some.injEq, text]
  constructor
  · intro below
    -- A segment that is lost and a step that is taken both make the path too short.
    have slash : "/".length = 1 := rfl
    have lengths : (Url.written front).length + (Url.written call.landing).length =
        base.trunk.length + 1 + call.path.length := by
      simpa only [String.length_append, slash] using congrArg String.length below
    have longer : (Url.written front).length + last.length ≤ base.trunk.length := by
      have longest := base.length_le_length_trunk
      rw [Url.length_pathText_concat whole] at longest
      omega
    by_cases names : ∀ name ∈ call.place, ¬ Url.IsStep name
    · have full : (Url.written call.landing).length = 1 + call.path.length := by
        rw [written_landing names, String.length_append, slash]
      refine ⟨String.length_eq_zero_iff.mp ?_, names⟩
      omega
    · have short := length_written_landing_lt names
      omega
  · rintro ⟨rfl, names⟩
    rw [Url.trunk_of_concat_empty whole, written_landing names, String.append_assoc]

/-- A call at a base address that is accepted requests an address with the scheme, the host and
the port of the base address, and its path starts where the last slash of the base address is.
This is the path of the base address, less one slash at its end, with the path of the call below
it, if and only if the base address ends in a slash and no name is taken for a step. -/
theorem requested_below {text : String} {base : Url} (accepted : Url.parse? text = some base)
    (sendable : base.scheme ∈ requestSchemes) (call : Call) :
    ∃ url, call.Requests base url ∧
      url.scheme = base.scheme ∧ url.host = base.host ∧ url.port = base.port ∧
      url.path = base.path.dropLast ++ call.landing ∧
      url.query = (if call.query.isEmpty then none else some (Percent.formOf call.query)) ∧
      (url.pathText = base.trunk ++ "/" ++ call.path ↔
        base.EndsInSlash ∧ ∀ name ∈ call.place, ¬ Url.IsStep name) := by
  have hosted : ∀ scheme ∈ requestSchemes, (Url.usualPorts.lookup scheme).isSome = true := by
    decide
  have placed : base.IsPlaced := Url.isPlaced_of_parse? accepted (hosted _ sendable)
  have known := url_placed placed.transparent call
  rw [walk_place, Url.withQuery_eq] at known
  exact ⟨_, requests_of_url known sendable, rfl, rfl, rfl, rfl, rfl, pathText_eq_iff placed rfl⟩

/-- A node whose id has a slash and a space is asked for below a path. -/
theorem requested_below_path :
    ∃ base url, Url.parse? "http://[::1]:8080/balancer/" = some base ∧
      base.scheme ∈ requestSchemes ∧ (Call.node "a/b c").Requests base url ∧
      url.host = "[::1]" ∧ url.port = some 8080 ∧
      url.pathText = "/balancer/api/v1/nodes/a%2Fb%20c" := by
  have accepted : Url.parse? "http://[::1]:8080/balancer/" =
      some ⟨"http", "[::1]", some 8080, ["balancer", ""], false, none⟩ := by decide +kernel
  have sendable : "http" ∈ requestSchemes := by decide
  obtain ⟨url, requests, -, host, port, -, -, below⟩ :=
    requested_below accepted sendable (.node "a/b c")
  refine ⟨_, url, accepted, sendable, requests, host, port, ?_⟩
  rw [below.mpr (by decide)]
  decide +kernel

/-- Without a slash at the end of the base address its last segment is lost. -/
theorem last_segment_lost :
    ∃ base url, Url.parse? "http://[::1]:8080/balancer" = some base ∧
      base.scheme ∈ requestSchemes ∧ Call.containers.Requests base url ∧
      base.trunk = "/balancer" ∧ url.pathText = "/api/v1/containers" ∧
      url.pathText ≠ base.trunk ++ "/" ++ Call.containers.path := by
  have accepted : Url.parse? "http://[::1]:8080/balancer" =
      some ⟨"http", "[::1]", some 8080, ["balancer"], false, none⟩ := by decide +kernel
  have sendable : "http" ∈ requestSchemes := by decide
  have known := @url_placed ⟨"http", "[::1]", some 8080, ["balancer"], false, none⟩ rfl .containers
  exact ⟨_, _, accepted, sendable, requests_of_url known sendable, by decide +kernel,
    by decide +kernel, by decide +kernel⟩

end Operator.Call

end Headroom
