import FleetRouting.BitSpan
import FleetRouting.Text.Hex
/-!
# FleetRouting.Uuid

**Identifiers of 128 bits.** Written as thirty-two small hexadecimal digits in groups of eight, four, four, four and
twelve with hyphens between; read in that form or without hyphens, in any letter case, also within braces or
behind `urn:uuid:` in any letter case.
-/

namespace FleetRouting

/-- An identifier of 128 bits. -/
structure Uuid where
  bits : Fin (bitSpan 128)
  deriving DecidableEq, Repr, Inhabited

namespace Uuid

/-- The lengths of the groups of digits. -/
def groups : List Nat := [8, 4, 4, 4, 12]

/-- Thirty-two hexadecimal digits. -/
def digits (u : Uuid) : List Char :=
  (List.range 32).reverse.map fun i => Text.hexDigit (u.bits.val / Nat.pow 16 i % 16)

/-- Cuts digits into groups with a hyphen in front of all but the first. -/
def hyphenate : List Nat → List Char → List Char
  | [], _ => []
  | [n], ds => ds.take n
  | n :: rest, ds => ds.take n ++ '-' :: hyphenate rest (ds.drop n)

/-- The identifier as text, in groups. -/
def toText (u : Uuid) : String := String.ofList (hyphenate groups u.digits)

/-- Removes the hyphens between groups; none if one is missing or a group is too short. -/
def dehyphenate? : List Nat → List Char → Option (List Char)
  | [], _ => none
  | [n], cs => if cs.length = n then some cs else none
  | n :: rest, cs =>
    match cs.drop n with
    | '-' :: after => (dehyphenate? rest after).map (cs.take n ++ ·)
    | _ => none

/-- The identifier that thirty-two hexadecimal digits write. -/
def ofDigits? (ds : List Char) : Option Uuid :=
  if ds.length = 32 then
    (ds.foldlM (fun n d => (Text.hexValue? d).map (16 * n + ·)) 0).map fun n => ⟨lowBits 128 n⟩
  else none

/-- The digits within braces, or behind `urn:uuid:`, or the characters as they are. -/
def unwrap (cs : List Char) : List Char :=
  if (cs.take 9).map Char.toLower = "urn:uuid:".toList then cs.drop 9
  else match cs with
    | '\x7b' :: rest =>
      if cs.length = 38 ∧ rest.getLast? = some '\x7d' then rest.dropLast else cs
    | cs => cs

/-- The identifier that a text writes. -/
def read? (s : String) : Option Uuid :=
  match dehyphenate? groups (unwrap s.toList) with
  | some ds => ofDigits? ds
  | none => ofDigits? s.toList

end Uuid

end FleetRouting
