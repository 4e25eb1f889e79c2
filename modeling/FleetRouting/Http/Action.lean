import FleetRouting.Access.Role
import FleetRouting.Text.Fold
/-!
# FleetRouting.Http.Action

**What can be asked for over HTTP, and by whom.** A path names a resource, and a resource with a method an action.
Every action besides the public ones needs a role. A request that fits no action is refused, but where keys are
known only a caller with the role that guards the resource is told so: the highest role needed for any action
there, and an administrator's for paths that name nothing.
-/

namespace FleetRouting

open Text

/-- What a path names. An identifier stands as in the path, with its escapes. -/
inductive Resource where
  | health
  | metrics
  | heads
  | head (id : String)
  | headStatus (id : String)
  | route
  | policy
  | events
  | nothing
  deriving DecidableEq, Repr

/-- The resource that a path names. -/
def Resource.ofPath (path : String) : Resource :=
  match split '/' path with
  | ["", "health"] => .health
  | ["", "metrics"] => .metrics
  | ["", "v1", "heads"] => .heads
  | ["", "v1", "heads", id] => if id.isEmpty then .nothing else .head id
  | ["", "v1", "heads", id, "status"] => .headStatus id
  | ["", "v1", "route"] => .route
  | ["", "v1", "policy"] => .policy
  | ["", "v1", "events"] => .events
  | _ => .nothing

/-- What can be asked for. -/
inductive Action where
  | showHealth
  | showMetrics
  | listHeads
  | register
  | report (id : String)
  | deregister (id : String)
  | route
  | showPolicy
  | replacePolicy
  | followEvents
  deriving DecidableEq, Repr

/-- The role that an action needs; none for public ones. -/
def Action.role? : Action → Option Role
  | .showHealth => none
  | .showMetrics => none
  | .listHeads => some .viewer
  | .route => some .viewer
  | .showPolicy => some .viewer
  | .followEvents => some .viewer
  | .register => some .operator
  | .report _ => some .operator
  | .deregister _ => some .operator
  | .replacePolicy => some .admin

namespace Resource

/-- The action of a method on a resource. The headers alone can be asked for wherever a page can be got. -/
def action? (resource : Resource) (method : String) : Option Action :=
  let reads := method == "GET" || method == "HEAD"
  match resource with
  | .health => if reads then some .showHealth else none
  | .metrics => if reads then some .showMetrics else none
  | .heads => if reads then some .listHeads else if method == "POST" then some .register else none
  | .head id => if method == "DELETE" then some (.deregister id) else none
  | .headStatus id => if method == "PUT" then some (.report id) else none
  | .route => if method == "POST" then some .route else none
  | .policy => if reads then some .showPolicy else if method == "PUT" then some .replacePolicy else none
  | .events => if reads then some .followEvents else none
  | .nothing => none

/-- The role that guards a resource against requests that fit no action. -/
def guard? : Resource → Option Role
  | .health => none
  | .metrics => none
  | .heads => some .operator
  | .head _ => some .operator
  | .headStatus _ => some .operator
  | .route => some .viewer
  | .policy => some .admin
  | .events => some .viewer
  | .nothing => some .admin

end Resource

end FleetRouting
