import FleetRouting.BitSpan
import FleetRouting.Text.Fold
import FleetRouting.Text.Hex
/-!
# FleetRouting.Http.IpAddress

**Addresses of machines.** An address has one normal form, whatever form it is written in: numbers without zeros in
front, hexadecimal digits small, and for the longer kind of address the first of the longest runs of zero groups left
out. A shorter address within the longer kind keeps its points.
-/

namespace FleetRouting

open Text

/-- The address of a machine. -/
inductive IpAddress where
  | v4 (bits : Fin (bitSpan 32))
  | v6 (bits : Fin (bitSpan 128))
  deriving DecidableEq, Repr

namespace IpAddress

/-! ### Writing -/

/-- The digits of a number in a base, written so many digits long. -/
def places (base : Nat) : Nat → Nat → List Nat
  | 0, _ => []
  | count + 1, n => places base count (n / base) ++ [n % base]

/-- Four numbers with points between them. -/
def dotted (n : Nat) : String := ".".intercalate ((places 256 4 n).map toString)

/-- A group in hexadecimal digits. -/
def groupText (n : Nat) : String := String.ofList ((Nat.toDigits 16 n))

/-- Groups with colons between them. -/
def groupsText (groups : List Nat) : String := ":".intercalate (groups.map groupText)

/-- How many zeros stand at the front. -/
def zerosAt (groups : List Nat) : Nat := (groups.takeWhile (· == 0)).length

/-- Where the first of the longest runs of zeros begins, and how long it is. -/
def longestZeros : List Nat → Nat × Nat
  | [] => (0, 0)
  | groups@(_ :: rest) =>
    let here := zerosAt groups
    let (start, length) := longestZeros rest
    if length ≤ here then (0, here) else (start + 1, length)

/-- An address of eight groups. -/
def compressed (groups : List Nat) : String :=
  let (start, length) := longestZeros groups
  if length < 2 then groupsText groups
  else groupsText (groups.take start) ++ "::" ++ groupsText (groups.drop (start + length))

/-- The normal form of an address. -/
def toText : IpAddress → String
  | .v4 bits => dotted bits
  | .v6 bits =>
    if bits.val / bitSpan 32 = 0xffff then "::ffff:" ++ dotted (bits.val % bitSpan 32)
    else compressed (places (bitSpan 16) 8 bits)

/-! ### Reading -/

/-- The number that digits in a base write. -/
def combine (base : Nat) (digits : List Nat) : Nat := digits.foldl (fun n d => base * n + d) 0

/-- A number below 256, without zeros in front. -/
def octet? (cs : List Char) : Option Nat :=
  match cs with
  | ['0'] => some 0
  | '0' :: _ => none
  | cs =>
    let n := combine 10 (cs.map fun c => c.toNat - '0'.toNat)
    if cs.length ≤ 3 ∧ !cs.isEmpty ∧ cs.all Char.isDigit ∧ n < 256 then some n else none

/-- The number that four octets with points between them make. -/
def dotted? (cs : List Char) : Option Nat := do
  let octets ← (splitChars '.' cs).mapM octet?
  if octets.length = 4 then some (combine 256 octets) else none

/-- A group of one to four hexadecimal digits. -/
def group? (cs : List Char) : Option Nat := do
  let digits ← cs.mapM hexValue?
  if 1 ≤ digits.length ∧ digits.length ≤ 4 then some (combine 16 digits) else none

/-- The groups that the parts between colons write; the last part may be an address with points. -/
def parts? (mayBeDotted : Bool) : List (List Char) → Option (List Nat)
  | [] => some []
  | [part] =>
    match group? part with
    | some g => some [g]
    | none => if mayBeDotted then (dotted? part).map (places (bitSpan 16) 2) else none
  | part :: rest => do return (← group? part) :: (← parts? mayBeDotted rest)

/-- The groups in a text with colons between them; the empty text has none. -/
def groups? (mayBeDotted : Bool) (cs : List Char) : Option (List Nat) :=
  if cs.isEmpty then some [] else parts? mayBeDotted (splitChars ':' cs)

/-- The parts in front of the first two colons in a row, and behind them. -/
def splitGap? : List Char → Option (List Char × List Char)
  | ':' :: ':' :: rest => some ([], rest)
  | c :: rest => (splitGap? rest).map fun (before, after) => (c :: before, after)
  | [] => none

/-- The eight groups of an address. -/
def eight? (cs : List Char) : Option (List Nat) :=
  match splitGap? cs with
  | none => (groups? true cs).filter fun groups => groups.length == 8
  | some (before, after) => do
    let before ← groups? false before
    let after ← groups? true after
    let missing := 8 - (before.length + after.length)
    if missing = 0 then none else some (before ++ List.replicate missing 0 ++ after)

/-- An address of four octets. -/
def readV4? (cs : List Char) : Option IpAddress :=
  (dotted? cs).map fun n => .v4 (lowBits 32 n)

end IpAddress

end FleetRouting
