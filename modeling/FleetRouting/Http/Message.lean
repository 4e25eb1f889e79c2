import FleetRouting.Access.Keyring
import FleetRouting.Http.Peer
import FleetRouting.Http.Target
import FleetRouting.Json.Basic
/-!
# FleetRouting.Http.Message

**Requests and responses.** A request has its path as it was sent, with its escapes. Every response may be read by
pages of any origin.
-/

namespace FleetRouting

/-- A request. -/
structure Request where
  method : String
  path : String
  headers : Headers := []
  body : String := ""
  /-- The address of the client, if it is known. -/
  client : Option IpAddress := none

/-- A request to a target, unless the method is no token or the target none that can be read. -/
def Request.make? (method target : String) (headers : Headers) (body : String)
    (client : Option IpAddress) : Option Request := do
  let path ← Target.path? target
  if isToken method then some ⟨method, path, headers, body, client⟩ else none

/-- What a response carries. -/
inductive Body where
  | empty
  | text (content : String)
  | json (content : Json)
  /-- Events from now on. -/
  | stream

/-- A response. -/
structure Response where
  status : Nat := 200
  body : Body := .empty
  /-- After how many seconds it makes sense to ask again. -/
  retryAfter : Option Nat := none

namespace Response

/-- What kind of content the body is. -/
def contentType (r : Response) : Option String :=
  match r.body with
  | .empty => none
  | .text _ => some "text/plain; charset=utf-8"
  | .json _ => some "application/json"
  | .stream => some "text/event-stream"

/-- The origins whose pages may read a response: all. -/
def allowOrigin : String := "*"

/-- A response that carries JSON. -/
def ofJson (status : Nat) (content : Json) : Response := { status := status, body := .json content }

/-- A response that says what is wrong with a request. -/
def complaint (status : Nat) (content : String) : Response := { status := status, body := .text content }

end Response

end FleetRouting
