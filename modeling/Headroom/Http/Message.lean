import Headroom.Http.Url
import Headroom.Json.Value

/-!
# Requests and responses

What is sent to a service and what it answers.
-/

namespace Headroom

/-- A request: its method, the path and the query as they are written, and its content. -/
structure Request where
  method : String
  path : String
  query : Option String
  contentType : Option String
  content : String

/-- The content of a response. -/
inductive Content where
  | empty
  | json (value : Json)
  | text (value : String)

/-- A response. -/
structure Response where
  status : Nat
  content : Content

namespace Request

/-- What follows the host in an address that names one.  Where no path follows, the path is
a single slash. -/
def afterHost? (target : List Char) : Option (List Char) :=
  match target.dropWhile Url.isSchemeChar with
  | ':' :: '/' :: '/' :: place =>
    match place.dropWhile fun char => char != '/' && char != '?' with
    | '/' :: rest => some ('/' :: rest)
    | rest => some ('/' :: rest)
  | _ => none

/-- Splits an address that is given to a service into its path and its query.  It may be an
address within the service or one that names a host; a fragment is not part of either. -/
def splitTarget (target : String) : String × Option String :=
  let whole := target.toList.takeWhile (· != '#')
  let kept := (afterHost? whole).getD whole
  let path := kept.takeWhile (· != '?')
  match kept.dropWhile (· != '?') with
  | [] => (String.ofList path, none)
  | _ :: query => (String.ofList path, some (String.ofList query))

/-- A request with the path and the query of an address. -/
def of (method target : String) (contentType : Option String) (content : String) : Request :=
  let (path, query) := splitTarget target
  ⟨method, path, query, contentType, content⟩

end Request

namespace Response

def json (status : Nat) (value : Json) : Response := ⟨status, .json value⟩

def bare (status : Nat) : Response := ⟨status, .empty⟩

/-- The same response without its content. -/
def withoutContent (response : Response) : Response := { response with content := .empty }

end Response

end Headroom
