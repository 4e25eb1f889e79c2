import FleetRouting.Text.Hex
/-!
# FleetRouting.Http.Percent

**Octets written as percent signs with two hexadecimal digits.** Decoding works on octets, so an escape may stand
for a part of a character; the octets that come out have to be UTF-8. A percent sign without two digits behind
it stands for itself.
-/

namespace FleetRouting.Percent

open Text

/-- The octets of a character. -/
def octets (c : Char) : List UInt8 := (String.singleton c).toUTF8.toList

/-- The octet that two hexadecimal digits write. -/
def octet? (high low : Char) : Option UInt8 :=
  match hexValue? high, hexValue? low with
  | some h, some l => some (UInt8.ofNat (16 * h + l))
  | _, _ => none

/-- The octets of a text with its escapes decoded. -/
def decodeOctets : List Char → List UInt8
  | '%' :: high :: low :: rest =>
    match octet? high low with
    | some b => b :: decodeOctets rest
    | none => octets '%' ++ decodeOctets (high :: low :: rest)
  | c :: rest => octets c ++ decodeOctets rest
  | [] => []

/-- The text with its escapes decoded, unless the octets are not UTF-8. -/
def decode? (s : String) : Option String :=
  String.fromUTF8? ⟨(decodeOctets s.toList).toArray⟩

/-- An octet as an escape. -/
def escape (b : UInt8) : List Char :=
  ['%', (hexDigit (b.toNat / 16)).toUpper, (hexDigit (b.toNat % 16)).toUpper]

/-- The text with every octet of the characters that satisfy `p` escaped. -/
def encode (p : Char → Bool) (cs : List Char) : List Char :=
  cs.flatMap fun c => if p c then (octets c).flatMap escape else [c]

end FleetRouting.Percent
