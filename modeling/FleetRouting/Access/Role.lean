import FleetRouting.Text.Blank
import FleetRouting.Text.Fold
/-!
# FleetRouting.Access.Role

**Roles of callers, each including the ones below it, and why a caller is refused.**
-/

namespace FleetRouting

open Text

/-- What a caller may do. -/
inductive Role where
  | viewer
  | operator
  | admin
  deriving DecidableEq, Repr

/-- Why a caller, or a configured key, is refused. -/
inductive AccessError where
  /-- A configured key has a role that does not exist; the name as it was compared. -/
  | unknownRole (name : String)
  | missingToken
  | invalidToken
  | forbidden
  deriving DecidableEq, Repr

namespace AccessError

/-- What is said about a refusal. -/
def message : AccessError → String
  | .unknownRole name => "Unknown role '" ++ name ++ "'"
  | .missingToken => "Missing bearer token"
  | .invalidToken => "Invalid API key"
  | .forbidden => "Insufficient role"

/-- The HTTP status of a refusal. -/
def status : AccessError → Nat
  | .unknownRole _ => 500
  | .missingToken => 401
  | .invalidToken => 401
  | .forbidden => 403

end AccessError

namespace Role

/-- The place of a role among the roles. -/
def rank : Role → Nat
  | .viewer => 0
  | .operator => 1
  | .admin => 2

/-- Whether a role includes another. -/
def includes (role required : Role) : Bool := decide (required.rank ≤ role.rank)

/-- The name of a role. -/
def name : Role → String
  | .viewer => "viewer"
  | .operator => "operator"
  | .admin => "admin"

/-- All roles, the lowest first. -/
def all : List Role := [.viewer, .operator, .admin]

/-- The role of a name, whatever its case and the blanks around it. -/
def read (s : String) : Except AccessError Role :=
  let key := fold (trim s)
  match all.find? fun role => role.name == key with
  | some role => .ok role
  | none => .error (.unknownRole key)

end Role

end FleetRouting
