import Headroom.Http.Message
import Headroom.Http.Status
import Headroom.Http.Url
import Headroom.Json.Printer
import Headroom.Json.Scanner
import Headroom.Operator.Answers
import Headroom.Text.Uppercase

/-!
# Calls to a service

What an operator asks of a service: each call has an address below the base address
of the service, and an answer of a known shape.
-/

namespace Headroom.Operator

/-- Why a command could not be carried out. -/
inductive Failure where
  | unreadablePreferences
  | invalidAddress
  | invalidPath
  | notSent
  | unreadableAnswer
  | unreadableHealth
  | refused (status : Nat) (message : String)
  deriving DecidableEq, Repr

def Failure.message : Failure → String
  | unreadablePreferences => "Failed to parse config file"
  | invalidAddress => "Invalid API URL"
  | invalidPath => "Invalid path"
  | notSent => "Failed to send request"
  | unreadableAnswer => "Failed to parse response"
  | unreadableHealth => "Failed to parse health response"
  | refused status message => "API error (" ++ Status.describe status ++ "): " ++ message

/-- What an operator asks of a service. -/
inductive Call where
  | nodes (category : Option String)
  | node (id : String)
  | containers
  | transitions (node : Option String) (limit : Nat)
  | register (request : NewNode)
  | decommission (id : String)
  | figures
  | health

namespace Call

/-- The path of a call, relative to the base address. -/
def path : Call → String
  | nodes _ | register _ => "api/v1/nodes"
  | node id => "api/v1/nodes/" ++ Percent.segment id
  | containers => "api/v1/containers"
  | transitions .. => "api/v1/transitions"
  | decommission id => "api/v1/nodes/" ++ Percent.segment id ++ "/decommission"
  | figures => "api/v1/stats"
  | health => "healthz"

/-- The names and values of the query of a call.  Categories are asked for in upper case. -/
def query : Call → List (String × String)
  | nodes (some category) => [("category", Text.upper category)]
  | transitions owner limit =>
    [("limit", Decimal.integer limit)] ++ owner.toList.map fun id => ("node", id)
  | _ => []

/-- The content of a call that is a command. -/
def content? : Call → Option Json
  | register request => some request.toJson
  | decommission _ => some (.object [])
  | _ => none

/-- The address of a call at a service. -/
def url (base : Url) (call : Call) : Except Failure Url :=
  match base.join? call.path with
  | some url => .ok (url.withQuery call.query)
  | none => .error .invalidPath

/-- The request of a call to an address. -/
def request (call : Call) (url : Url) : Request :=
  match call.content? with
  | some value => .of "POST" url.target (some "application/json") value.compact
  | none => .of "GET" url.target none ""

end Call

/-- How requests reach services: a request to an address is answered, or is not where nobody
listens. -/
abbrev Network (σ : Type) := Url → Request → StateM σ (Option Response)

/-- A conversation with services, which may fail. -/
abbrev Conversation (σ α : Type) := ExceptT Failure (StateM σ) α

/-- The schemes of addresses that requests can be sent to. -/
def requestSchemes : List String := ["http", "https"]

/-- The text of a response.  Some codes never come with one. -/
def textOf (response : Response) : String :=
  if Status.forbidsContent response.status then ""
  else
    match response.content with
    | .empty => ""
    | .json value => value.compact
    | .text value => value

/-- A text without the mark that may stand at its start. -/
def withoutMark (text : String) : String :=
  match text.toList with
  | '\uFEFF' :: rest => String.ofList rest
  | _ => text

/-- What a refusal says: the error of a complaint, or else the whole text. -/
def complaintText (text : String) : String :=
  match readText Complaint.reader text with
  | .ok complaint => complaint.error
  | .error _ => text

namespace Call

variable {σ α : Type}

def send (network : Network σ) (base : Url) (call : Call) : Conversation σ Response := do
  let url ← call.url base
  if requestSchemes.contains url.scheme then
    match ← network url (call.request url) with
    | some response => return response
    | none => throw .notSent
  else throw .notSent

/-- Makes a call whose answer tells success by its code. -/
def ask (network : Network σ) (base : Url) (reader : Reader α) (call : Call) :
    Conversation σ α := do
  let response ← call.send network base
  let text := textOf response
  if Status.isSuccess response.status then
    match readText reader text with
    | .ok answer => return answer
    | .error _ => throw .unreadableAnswer
  else throw (.refused response.status (complaintText (withoutMark text)))

/-- Asks for the health of a service, which is told whatever the code is. -/
def askHealth (network : Network σ) (base : Url) : Conversation σ ServiceHealth := do
  let response ← Call.health.send network base
  match readText ServiceHealth.reader (textOf response) with
  | .ok answer => return answer
  | .error _ => throw .unreadableHealth

end Call

end Headroom.Operator
