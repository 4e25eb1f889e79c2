import FleetRouting.Domain.Label
/-!
# FleetRouting.Domain.Name

**Domain names in ASCII.** `ascii?` gives the form of a name that is looked up: mapped, composed, and with each label
that needs it in Punycode. A name may have empty labels and labels of any length, and all marks of ASCII but those that
separate the parts of an address.
-/

namespace FleetRouting.Domain

open Text

/-- A character of ASCII that may not stand in a name: it separates the parts of an address, or has no form. -/
def isDenied (c : Char) : Bool :=
  c.toNat ≤ 32 || c.toNat == 127 || "%#/:<>?@[\\]^|".toList.contains c

/-- The name in ASCII. -/
def ascii? (name : List Char) : Option (List Char) := do
  let mapped := Unicode.compose (← name.mapM image?).flatten
  let labels := splitChars '.' mapped
  let plain ← labels.mapM plainLabel?
  let goAlong := !plain.any (·.any goesLeft) || plain.all hasDirection
  if !mapped.any isDenied && plain.all isLabel && goAlong then
    return ['.'].intercalate (← labels.mapM codedLabel?)
  else none

end FleetRouting.Domain
