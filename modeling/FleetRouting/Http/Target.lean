import FleetRouting.Http.Token
/-!
# FleetRouting.Http.Target

**The targets of requests.** A target is a path with perhaps a query, or the same behind scheme and authority, or an
authority alone, which has no path. A fragment at the end does not count. `Target.path?` gives the path as it was sent,
with its escapes, unless the text is no target. Only the characters are checked, and the balance of the marks in an
authority; a port need not be a number.
-/

namespace FleetRouting.Target

/-! ### Characters -/

/-- True for a character between two others, both included. -/
def lies (first last c : Char) : Bool := first ≤ c && c ≤ last

/-- A character of a scheme. -/
def isSchemeChar (c : Char) : Bool := c.isAlphanum || "+-.".toList.contains c

/-- A character of an authority, besides colons, brackets, percent and at signs. -/
def isAuthorityChar (c : Char) : Bool := c.isAlphanum || "!$&'()*+,-.;=_~".toList.contains c

/-- A character of a path. -/
def isPathChar (c : Char) : Bool :=
  lies '$' ';' c || lies '@' '_' c || lies 'a' '~' c || "!\"=".toList.contains c || 126 < c.toNat

/-- A character of a query. -/
def isQueryChar (c : Char) : Bool :=
  lies '$' ';' c || lies '?' '~' c || "!=".toList.contains c || 126 < c.toNat

/-- A character that ends an authority. -/
def endsAuthority (c : Char) : Bool := c = '/' || c = '?' || c = '#'

/-! ### Authorities -/

/-- The most colons in a row of parts. -/
def maxColons : Nat := 8

/-- What has been seen of an authority. -/
structure Authority where
  /-- The colons since the last at sign or closing bracket. -/
  colons : Nat := 0
  opened : Bool := false
  closed : Bool := false
  /-- Whether a percent sign came since the last at sign or closing bracket. -/
  escaped : Bool := false
  /-- Whether the last character was an at sign. -/
  named : Bool := false

/-- What has been seen with a further character, if that may stand there. -/
def Authority.step? (a : Authority) (c : Char) : Option Authority :=
  let a := { a with named := false }
  match c with
  | ':' => if a.colons < maxColons then some { a with colons := a.colons + 1 } else none
  | '[' => if a.escaped || a.opened then none else some { a with opened := true }
  | ']' =>
    if a.opened && !a.closed then some { a with closed := true, colons := 0, escaped := false }
    else none
  | '@' => some { a with colons := 0, escaped := false, named := true }
  | '%' => some { a with escaped := true }
  | c => if isAuthorityChar c then some a else none

/-- Whether an authority may end here: brackets are balanced, and behind names and brackets there is at most one colon
and no escape. -/
def Authority.mayEnd (a : Authority) : Bool :=
  a.opened == a.closed && a.colons ≤ 1 && !a.named && !a.escaped

/-- The authority at the front, which may be empty, and the rest. -/
def takeAuthority? (cs : List Char) : Option (List Char × List Char) := do
  let (authority, rest) := cs.span fun c => !endsAuthority c
  let seen ← authority.foldlM Authority.step? {}
  if seen.mayEnd then some (authority, rest) else none

/-! ### Targets -/

/-- The most octets of a target. -/
def maxSize : Nat := 65534

/-- The longest scheme. -/
def maxSchemeSize : Nat := 64

/-- The rest behind a scheme, its colon and two slashes; the whole text when it has no scheme. A scheme may not be too
long. -/
def dropScheme? (cs : List Char) : Option (Bool × List Char) :=
  match cs.span isSchemeChar with
  | (scheme, ':' :: '/' :: '/' :: rest) =>
    if scheme.length ≤ maxSchemeSize then some (true, rest) else none
  | _ => some (false, cs)

/-- The path at the front of a text, if a query and a fragment are all that follows. -/
def takePath? (cs : List Char) : Option (List Char) :=
  let (path, rest) := cs.span isPathChar
  match rest with
  | [] => some path
  | '#' :: _ => some path
  | '?' :: rest =>
    match rest.dropWhile isQueryChar with
    | [] => some path
    | '#' :: _ => some path
    | _ => none
  | _ => none

/-- The path of a target as it was sent: empty if the target names an authority alone, and a slash if it has none
otherwise. -/
def path? (target : String) : Option String :=
  if maxSize < target.utf8ByteSize then none
  else
    match target.toList with
    | [] => none
    | ['*'] => some "*"
    | '/' :: rest => (takePath? ('/' :: rest)).map String.ofList
    | cs => do
      let (hasScheme, rest) ← dropScheme? cs
      let (authority, rest) ← takeAuthority? rest
      if hasScheme then
        if authority.isEmpty then none
        else
          let path ← takePath? rest
          return if path.isEmpty then "/" else String.ofList path
      else if rest.isEmpty then return ""
      else none

end FleetRouting.Target
