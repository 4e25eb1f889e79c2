import FleetRouting.Access.Role
import FleetRouting.Config.Basic
import FleetRouting.Digest.Sha256
/-!
# FleetRouting.Access.Keyring

**Who may do what.** Callers present a token in the header `Authorization`, behind the word `Bearer`; the keyring
knows digests of tokens, with a role to each. Of two keys with one digest the later counts. Without keys every
caller is an administrator. What digests tokens is a parameter of the rules (`authorizeWith`).
-/

namespace FleetRouting

open Text

/-- A caller that was let in. -/
structure Caller where
  name : Option String
  role : Role
  deriving DecidableEq

/-- The headers of a request in order. -/
abbrev Headers := List (String × String)

/-- The value of the first header of a name, in any letter case. -/
def Headers.get? (h : Headers) (name : String) : Option String :=
  (h.find? fun e => sameFolded e.1 name).map Prod.snd

/-- The known keys, by digest. -/
structure Keyring where
  keys : SortedMap String Caller := .empty
  deriving DecidableEq

namespace Keyring

/-- A configured key: its digest in small letters, without blanks around it, and its caller. -/
def entry (k : ApiKeyConfig) : Except AccessError (String × Caller) := do
  return (fold (trim k.keySha256), ⟨k.name, ← Role.read k.role⟩)

/-- The keyring of a configuration; the first role that does not exist is an error. -/
def ofConfig (c : AuthConfig) : Except AccessError Keyring := do
  return ⟨.ofList (← c.apiKeys.mapM entry)⟩

/-- True without keys. -/
def isOpen (k : Keyring) : Bool := k.keys.isEmpty

/-- A character that may stand in a header value that is read as text. -/
def isHeaderText (c : Char) : Bool := c = '\t' || (32 ≤ c.toNat && c.toNat < 127)

/-- The token in the value of the header, without blanks around it. -/
def tokenOf? (value : String) : Option String :=
  if value.toList.all isHeaderText then
    (dropStart? "Bearer ".toList value.toList).bind fun rest => trimmed? (String.ofList rest)
  else none

/-- The caller behind the headers of a request, where `digest` digests tokens. -/
def authenticateWith (digest : String → String) (k : Keyring) (headers : Headers) :
    Except AccessError Caller :=
  if k.isOpen then .ok ⟨none, .admin⟩
  else
    match (headers.get? "authorization").bind tokenOf? with
    | none => .error .missingToken
    | some token =>
      match k.keys.get? (digest token) with
      | some caller => .ok caller
      | none => .error .invalidToken

/-- The caller behind the headers of a request, if its role includes the required one. -/
def authorizeWith (digest : String → String) (k : Keyring) (headers : Headers) (required : Role) :
    Except AccessError Caller := do
  let caller ← authenticateWith digest k headers
  if caller.role.includes required then .ok caller else .error .forbidden

/-- The digest of a token, as it stands in a configuration. -/
def tokenDigest (token : String) : String := Sha256.ofText token

/-- The caller behind the headers of a request. -/
def authenticate (k : Keyring) (headers : Headers) : Except AccessError Caller :=
  authenticateWith tokenDigest k headers

/-- The caller behind the headers of a request, if its role includes the required one. -/
def authorize (k : Keyring) (headers : Headers) (required : Role) : Except AccessError Caller :=
  authorizeWith tokenDigest k headers required

end Keyring

end FleetRouting
