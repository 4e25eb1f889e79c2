/-!
# FleetRouting.Http.Token

**The names of HTTP.** Methods, names of headers and the parts of media types are tokens: letters, digits and some
marks. What a header holds may be any text without control characters; a tab is none in this respect.
-/

namespace FleetRouting

/-- A character of a token. -/
def isTokenChar (c : Char) : Bool := c.isAlphanum || "!#$%&'*+-.^_`|~".toList.contains c

/-- Splits off the characters of a token. -/
def takeToken (cs : List Char) : List Char × List Char := cs.span isTokenChar

/-- Whether a text is a token. -/
def isToken (s : String) : Bool := !s.isEmpty && s.toList.all isTokenChar

/-- Whether a text may be what a header holds. -/
def isHeaderValue (s : String) : Bool :=
  s.toList.all fun c => c = '\t' || (31 < c.toNat && c.toNat ≠ 127)

end FleetRouting
