import FleetRouting.Domain.Name
import FleetRouting.Http.Url.Basic
/-!
# FleetRouting.Http.Url.Host

**Hosts in addresses.** Under the schemes of the web a host is a domain name, whose escapes are decoded and which is
put in ASCII, or the address of a machine: eight groups in brackets, or a name that ends in a number. Such a name has to
be one to four numbers, in base ten, eight or sixteen, the last of which fills the octets that are left. Under any other
scheme a name is kept as it is.
-/

namespace FleetRouting.Host

open Text IpAddress

/-! ### Numbers -/

/-- The number that digits of a base write. -/
def inBase? (base : Nat) (cs : List Char) : Option Nat := do
  let digits ← cs.mapM hexValue?
  if digits.all (· < base) then some (combine base digits) else none

/-- The number in a part of a name: in base sixteen behind `0x`, in base eight behind a zero, or else in base ten. -/
def number? : List Char → Option Nat
  | [] => none
  | '0' :: 'x' :: digits => inBase? 16 digits
  | '0' :: digit :: digits => inBase? 8 (digit :: digits)
  | digits => inBase? 10 digits

/-- The parts of a name between its points; a point at the end counts for nothing. -/
def partsOf (name : List Char) : List (List Char) :=
  match (splitChars '.' name).reverse with
  | [] :: rest => rest.reverse
  | parts => parts.reverse

/-- Whether a name ends in a number, or in digits that could be meant for one. -/
def endsInNumber (name : List Char) : Bool :=
  (partsOf name).getLast?.any fun part =>
    !part.isEmpty && (part.all Char.isDigit || (number? part).isSome)

/-- The address of a machine that a name of numbers writes. -/
def numbered? (name : List Char) : Option IpAddress := do
  let numbers ← (partsOf name).mapM number?
  let last ← numbers.getLast?
  let octets := numbers.dropLast
  if octets.length < 4 ∧ octets.all (· < 256) ∧ last < Nat.pow 256 (4 - octets.length) then
    some (.v4 (lowBits 32 (combine 256 octets * Nat.pow 256 (4 - octets.length) + last)))
  else none

/-! ### Hosts -/

/-- The address of a machine between brackets. -/
def bracketed? (cs : List Char) : Option Host :=
  match cs.getLast? with
  | some ']' =>
    (eight? cs.dropLast).map fun groups => .machine (.v6 (lowBits 128 (combine (bitSpan 16) groups)))
  | _ => none

/-- A host under a scheme of the web. -/
def read? : List Char → Option Host
  | '[' :: rest => bracketed? rest
  | cs => do
    let name ← Domain.ascii? (← Percent.decode? (String.ofList cs)).toList
    if name.isEmpty then none
    else if endsInNumber name then (numbered? name).map .machine
    else some (.domain (String.ofList name))

/-- A character that is escaped wherever it stands: no mark, letter or digit of ASCII. -/
def isControl (c : Char) : Bool := c.toNat < 32 || 126 < c.toNat

/-- A character that may not stand in the name of a host under any scheme. -/
def isForbidden (c : Char) : Bool := "\x00\t\n\x0d #/:<>?@[\\]^|".toList.contains c

/-- A host under a scheme of another kind. -/
def readOther? : List Char → Option Host
  | '[' :: rest => bracketed? rest
  | cs =>
    if cs.any isForbidden then none else some (.domain (String.ofList (Percent.encode isControl cs)))

end FleetRouting.Host
