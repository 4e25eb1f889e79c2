import FleetRouting.Http.IpAddress
/-!
# FleetRouting.Http.Peer

**Clients by address and port.** The longer kind of address stands in brackets, perhaps with the number of a zone,
which does not count: a client is known by its address alone.
-/

namespace FleetRouting

namespace IpAddress

/-- Whether a text is a decimal number of at most so many bits. -/
def isNumber (bits : Nat) (cs : List Char) : Bool :=
  !cs.isEmpty && cs.all Char.isDigit &&
    decide (combine 10 (cs.map fun c => c.toNat - '0'.toNat) < bitSpan bits)

/-- An address of eight groups. A number for the zone may follow a percent sign. -/
def readV6? (cs : List Char) : Option IpAddress := do
  let (address, zone) := cs.span (· ≠ '%')
  if !zone.isEmpty && !isNumber 32 (zone.drop 1) then none
  else (eight? address).map fun groups => .v6 (lowBits 128 (combine (bitSpan 16) groups))

end IpAddress

/-- Whether a text is the number of a port. -/
def isPort (cs : List Char) : Bool := IpAddress.isNumber 16 cs

/-- The address of a peer, which is written with its port: the longer kind of address in brackets. -/
def IpAddress.ofPeer? (peer : String) : Option IpAddress :=
  match peer.toList with
  | '[' :: rest =>
    match rest.span (· ≠ ']') with
    | (address, ']' :: ':' :: port) => if isPort port then readV6? address else none
    | _ => none
  | cs =>
    match cs.span (· ≠ ':') with
    | (address, ':' :: port) => if isPort port then readV4? address else none
    | _ => none

end FleetRouting
