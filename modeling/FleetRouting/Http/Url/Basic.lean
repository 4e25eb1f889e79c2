import FleetRouting.Http.IpAddress
import FleetRouting.Http.Percent
/-!
# FleetRouting.Http.Url.Basic

**Addresses of web pages, in their normal form.** All parts are kept as they are written, with their escapes. An address
without a host has only a path behind its scheme, which may be any text; where a host could stand but none does, the
name of the host is empty.
-/

namespace FleetRouting

/-- A host: a name, or the address of a machine. -/
inductive Host where
  | domain (name : String)
  | machine (address : IpAddress)
  deriving DecidableEq, Repr

/-- The text of a host. A longer address stands in brackets, and all its groups are written alike. -/
def Host.toText : Host → String
  | .domain name => name
  | .machine (.v4 bits) => IpAddress.dotted bits
  | .machine (.v6 bits) => "[" ++ IpAddress.compressed (IpAddress.places (bitSpan 16) 8 bits) ++ "]"

/-- A name and a password in an address. -/
structure Credentials where
  name : String
  password : Option String := none
  deriving DecidableEq, Repr

/-- An address in its normal form. -/
structure Url where
  scheme : String
  credentials : Option Credentials := none
  host : Option Host := none
  /-- The port, unless it is the one that the scheme means. -/
  port : Option Nat := none
  path : String := ""
  query : Option String := none
  fragment : Option String := none
  deriving DecidableEq, Repr

/-- The text of a part with a mark in front of it, if there is one. -/
def marked (mark : String) : Option String → String
  | some text => mark ++ text
  | none => ""

/-- The text of credentials. -/
def Credentials.toText (c : Credentials) : String := c.name ++ marked ":" c.password ++ "@"

namespace Url

/-- What stands between the scheme and the path. A path that begins with two slashes is told from a host. -/
def authorityText (u : Url) : String :=
  match u.host with
  | some host =>
    "//" ++ marked "" (u.credentials.map Credentials.toText) ++ host.toText ++
      marked ":" (u.port.map toString)
  | none => if u.path.startsWith "//" then "/." else ""

/-- The text of an address. -/
def toText (u : Url) : String :=
  u.scheme ++ ":" ++ u.authorityText ++ u.path ++ marked "?" u.query ++ marked "#" u.fragment

/-- True for the schemes under which requests can be made. -/
def isWeb (u : Url) : Bool := u.scheme == "http" || u.scheme == "https"

/-- Whether the credentials of an address can be sent along with a request: the name has to be text, and one of both
there. -/
def canSend (c : Credentials) : Bool :=
  (Percent.decode? c.name).any (!·.isEmpty) ||
    (c.name.isEmpty && (c.password.bind Percent.decode?).isSome)

/-- The address without the credentials that are sent along with a request. -/
def withoutCredentials (u : Url) : Url := { u with credentials := u.credentials.filter (!canSend ·) }

end Url

end FleetRouting
