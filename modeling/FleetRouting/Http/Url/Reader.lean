import FleetRouting.Http.Url.Host
import FleetRouting.Http.Url.Path
/-!
# FleetRouting.Http.Url.Reader

**Reading addresses.** Reading forgives what browsers forgive: blanks around an address, line breaks in it, capital
letters in scheme and host, and under the schemes of the web also backslashes for slashes and any number of slashes in
front of the host. `Url.read?` gives the normal form of the address that a text writes.
-/

namespace FleetRouting.Url

open Text Host

/-! ### Escapes -/

/-- A character that a fragment shows by an escape. -/
def inFragment (c : Char) : Bool := isControl c || " \"<>`".toList.contains c

/-- A character that a path shows by an escape. -/
def inPath (c : Char) : Bool := inFragment c || "#?\x7b\x7d".toList.contains c

/-- A character that a name or a password shows by an escape. -/
def inCredentials (c : Char) : Bool := inPath c || "/:;=@[\\]^|".toList.contains c

/-- A character that a query shows by an escape; under the schemes of the web an apostrophe is one. -/
def inQuery (isSpecial : Bool) (c : Char) : Bool :=
  isControl c || " \"#<>".toList.contains c || (isSpecial && c = '\'')

/-- A part with escapes for some of its characters. -/
def escaped (p : Char → Bool) (cs : List Char) : String := String.ofList (Percent.encode p cs)

/-! ### Schemes -/

/-- The port that is meant when none is given, under the schemes whose addresses name a host. -/
def defaultPort? (scheme : String) : Option Nat :=
  [("http", 80), ("https", 443), ("ftp", 21), ("ws", 80), ("wss", 443)].lookup scheme

/-- The address without control characters and blanks around it, and without tabs and line breaks in it. -/
def clean (s : String) : List Char :=
  let outer (c : Char) : Bool := c.toNat ≤ 32
  (((s.toList.dropWhile outer).reverse.dropWhile outer).reverse).filter fun c =>
    c ≠ '\t' && c ≠ '\n' && c ≠ '\r'

/-- Splits off the scheme, in small letters. -/
def takeScheme? (cs : List Char) : Option (String × List Char) :=
  match cs.span (· ≠ ':') with
  | (scheme@(first :: _), ':' :: rest) =>
    if first.isAlpha && scheme.all fun c => c.isAlphanum || c = '+' || c = '-' || c = '.' then
      some (fold (String.ofList scheme), rest)
    else none
  | _ => none

/-- A slash, also one in the other direction under the schemes of the web. -/
def isSlash (isSpecial : Bool) (c : Char) : Bool := c = '/' || (isSpecial && c = '\\')

/-! ### Authorities -/

/-- Splits at the last at sign. -/
def splitCredentials (cs : List Char) : Option (List Char) × List Char :=
  match cs.reverse.span (· ≠ '@') with
  | (host, _ :: credentials) => (some credentials.reverse, host.reverse)
  | (_, []) => (none, cs)

/-- The name and the password in front of an at sign, unless both are empty. -/
def readCredentials (cs : List Char) : Option Credentials :=
  let (name, password) := cs.span (· ≠ ':')
  match name, password.drop 1 with
  | [], [] => none
  | name, [] => some ⟨escaped inCredentials name, none⟩
  | name, password => some ⟨escaped inCredentials name, some (escaped inCredentials password)⟩

/-- The host in front of the first colon outside brackets, and the rest. -/
def takeHost (isInside : Bool) : List Char → List Char × List Char
  | [] => ([], [])
  | c :: rest =>
    if c = ':' ∧ !isInside then ([], c :: rest)
    else
      let (host, rest) := takeHost (c = '[' || (isInside && c ≠ ']')) rest
      (c :: host, rest)

/-- The port behind its colon, unless it is the one that the scheme means, and what a backslash keeps away from
it. -/
def takePort? (scheme : String) : List Char → Option (Option Nat × List Char)
  | [] => some (none, [])
  | _ :: cs =>
    let (digits, rest) := cs.span Char.isDigit
    let port := IpAddress.combine 10 (digits.map fun c => c.toNat - '0'.toNat)
    if bitSpan 16 ≤ port ∨ rest.head?.any (· ≠ '\\') then none
    else some (if digits.isEmpty ∨ defaultPort? scheme = some port then none else some port, rest)

/-- The address of a host as far as its authority says, and what a backslash keeps away from the port. Under the
schemes of the web there has to be a host; elsewhere the host may be missing together with credentials and
port. -/
def readAuthority? (scheme : String) (isSpecial endsAddress : Bool) (cs : List Char) :
    Option (Url × List Char) := do
  let (credentials, rest) := splitCredentials cs
  let (host, port) := takeHost false rest
  let signed := credentials.bind readCredentials
  let mayBeEmpty := !isSpecial && signed.isNone && port.isEmpty &&
    (endsAddress || credentials != some [])
  if host.isEmpty && !mayBeEmpty then none
  else
    let host ← if isSpecial then Host.read? host else Host.readOther? host
    let (port, rest) ← takePort? scheme port
    return ({ scheme := scheme, credentials := signed, host := some host, port := port }, rest)

/-! ### What follows the authority -/

/-- The segments of a path, without the slash in front. -/
def segmentsOf (isSpecial : Bool) (cs : List Char) : List String :=
  (splitChars '/' (cs.map fun c => if isSlash isSpecial c then '/' else c)).map (escaped inPath)

/-- The path of an address that names a host: under the schemes of the web it has one slash at least. -/
def pathOf (isSpecial : Bool) (cs : List Char) : String :=
  match cs with
  | [] => if isSpecial then "/" else ""
  | c :: rest =>
    let segments := segmentsOf isSpecial (if isSlash isSpecial c then rest else cs)
    (Walk.along false {} segments).toText false

/-- Adds the query and the fragment that a text begins with. -/
def withTail (isSpecial : Bool) (u : Url) (cs : List Char) : Url :=
  let (query, fragment) := cs.span (· ≠ '#')
  { u with
    query := if query.isEmpty then none else some (escaped (inQuery isSpecial) (query.drop 1))
    fragment := if fragment.isEmpty then none else some (escaped inFragment (fragment.drop 1)) }

/-- Splits off the path. -/
def takePath (cs : List Char) : List Char × List Char := cs.span fun c => c ≠ '?' && c ≠ '#'

/-- An address behind scheme and slashes. -/
def readHosted? (scheme : String) (isSpecial : Bool) (cs : List Char) : Option Url := do
  let (authority, rest) := cs.span fun c => !isSlash isSpecial c && c ≠ '?' && c ≠ '#'
  let (u, kept) ← readAuthority? scheme isSpecial rest.isEmpty authority
  let (path, tail) := takePath (kept ++ rest)
  return withTail isSpecial { u with path := pathOf isSpecial path } tail

/-! ### Addresses of files -/

/-- The host of a file, which is left out if it is this machine. -/
def fileHost? (cs : List Char) : Option Host :=
  if cs.isEmpty then some (.domain "")
  else (Host.read? cs).map fun host => if host = .domain "localhost" then .domain "" else host

/-- The address of a file on a host. A path that begins with a drive leads away from the host. -/
def onHost (host : Host) (cs : List Char) : Url :=
  let (path, tail) := takePath cs
  let walk := Walk.along true {} (segmentsOf true (if path.head?.any (isSlash true) then path.drop 1 else path))
  let host := if walk.onDrive then .domain "" else host
  withTail true { scheme := "file", host := some host, path := walk.toText true } tail

/-- The address of a file behind the scheme. A drive is no host. -/
def readFile? (cs : List Char) : Option Url :=
  match cs with
  | a :: b :: rest =>
    if isSlash true a && isSlash true b then
      let (host, path) := rest.span fun c => !isSlash true c && c ≠ '?' && c ≠ '#'
      if (drive? host).isSome then some (onHost (.domain "") rest)
      else (fileHost? host).map fun host => onHost host path
    else some (onHost (.domain "") cs)
  | cs => some (onHost (.domain "") cs)

/-! ### All addresses -/

/-- An address under a scheme that is not one of the web. Without slashes in front it has a path only, in which all
text is kept. -/
def readOther? (scheme : String) (cs : List Char) : Option Url :=
  match cs with
  | '/' :: '/' :: rest => readHosted? scheme false rest
  | '/' :: _ =>
    let (path, tail) := takePath cs
    some (withTail false { scheme := scheme, path := pathOf false path } tail)
  | cs =>
    let (path, tail) := takePath cs
    some (withTail false { scheme := scheme, path := escaped isControl path } tail)

/-- The address that a text gives. -/
def read? (s : String) : Option Url := do
  let (scheme, rest) ← takeScheme? (clean s)
  if scheme = "file" then readFile? rest
  else if (defaultPort? scheme).isSome then readHosted? scheme true (rest.dropWhile (isSlash true))
  else readOther? scheme rest

end FleetRouting.Url
