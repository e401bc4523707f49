import Headroom.Json.Sorted
import Headroom.Operator.Arguments
import Headroom.Operator.Client
import Headroom.Operator.Preferences
import Headroom.Operator.Report

/-!
# The operator's console

A command line is carried out by calls to a service, and what they answer is shown
as a report or as a document.  All calls of a command are made before anything of
it is shown.
-/

namespace Headroom.Operator

/-- What a command leaves on the screen, and why it failed if it did. -/
structure Shown where
  output : String
  failure : Option Failure
  deriving DecidableEq, Repr

def document (value : Json) : String := Report.line value.indented

/-- An answer as a report or as a document. -/
def present (format : Format) (report : String) (value : Json) : String :=
  match format with
  | .table => report
  | .json => document value

/-- The status of a service as one document, in the order of names. -/
def statusDocument (health : ServiceHealth) (figures : Figures) : Json :=
  (Json.object [("health", health.toJson), ("stats", figures.toJson)]).sorted

/-- The container of a node about which only an image is known. -/
def containerOf (image : String) : Container := { Container.unknown with image := image }

def Command.perform {σ : Type} (network : Network σ) (base : Url) (style : Style)
    (format : Format) : Command → Conversation σ String
  | nodes category => do
    let found ← (Call.nodes category).ask network base (Reader.list NodeSummary.reader)
    return present format (Report.nodes style found) (.list NodeSummary.toJson found)
  | node id => do
    let found ← (Call.node id).ask network base NodeDetail.reader
    return present format (Report.node style found) found.toJson
  | containers => do
    let found ← Call.containers.ask network base (Reader.list ContainerSummary.reader)
    return present format (Report.containers style found) (.list ContainerSummary.toJson found)
  | transitions owner limit => do
    let found ← (Call.transitions owner limit).ask network base (Reader.list CategoryChange.reader)
    return present format (Report.transitions style found) (.list CategoryChange.toJson found)
  | register id name image => do
    let request : NewNode := ⟨id, name, image.map containerOf⟩
    let made ← (Call.register request).ask network base NodeDetail.reader
    return present format (Report.registered style made) made.toJson
  | decommission id => do
    let answer ← (Call.decommission id).ask network base Decommissioned.reader
    return present format (Report.decommissioned style answer) answer.toJson
  | status => do
    let health ← Call.askHealth network base
    let figures ← Call.figures.ask network base Figures.reader
    return present format (Report.status style health figures) (statusDocument health figures)

/-- Carries out a command at a base address that is still a text. -/
def Command.performAt {σ : Type} (network : Network σ) (address : String) (style : Style)
    (format : Format) (command : Command) : Conversation σ String :=
  match Url.parse? address with
  | some base => command.perform network base style format
  | none => throw .invalidAddress

/-- Carries out a command line under the preferences with the given text, if there is one. -/
def Invocation.run {σ : Type} (network : Network σ) (style : Style) (preferences : Option String)
    (invocation : Invocation) : StateM σ Shown := do
  match Preferences.ofText preferences with
  | .error _ => return ⟨"", some .unreadablePreferences⟩
  | .ok preferences =>
    let address := preferences.urlFor invocation.apiUrl
    let format := preferences.formatFor invocation.format
    let preface := if invocation.verbose then style.note ("Using API at " ++ address) else ""
    match ← (invocation.command.performAt network address style format).run with
    | .ok output => return ⟨preface ++ output, none⟩
    | .error failure => return ⟨preface, some failure⟩

end Headroom.Operator
