import FleetRouting.Binary64.Basic
import FleetRouting.Text.Fold
/-!
# FleetRouting.Binary64.Reader

**Reading decimal text.** A number is an optional sign followed by digits with an optional point and an
optional exponent, or by one of the words `inf`, `infinity` and `nan` in any case. At least one digit stands
before or after the point. Blanks, separators and other bases are refused. The value is the nearest one of
the format.
-/

namespace FleetRouting.Binary64

open Text

/-- The digits at the front of `cs` and what follows them. -/
def takeDigits (cs : List Char) : List Char × List Char :=
  (cs.takeWhile Char.isDigit, cs.dropWhile Char.isDigit)

/-- The number that decimal digits write. -/
def digitsValue (ds : List Char) : Nat :=
  ds.foldl (fun n d => 10 * n + (d.toNat - '0'.toNat)) 0

/-- An optional sign at the front: whether it is a minus, and what follows it. -/
def takeSign : List Char → Bool × List Char
  | '-' :: rest => (true, rest)
  | '+' :: rest => (false, rest)
  | cs => (false, cs)

/-- The exponent that ends a number: nothing, or `e`, an optional sign and digits. -/
def readExponent? : List Char → Option Int
  | [] => some 0
  | e :: rest =>
    if e = 'e' ∨ e = 'E' then
      let (negative, rest) := takeSign rest
      let (ds, rest) := takeDigits rest
      if ds.isEmpty ∨ !rest.isEmpty then none
      else some (if negative then -digitsValue ds else digitsValue ds)
    else none

/-- The digits, point and exponent of a number without its sign. -/
def readMagnitude? (negative : Bool) (cs : List Char) : Option Binary64 :=
  let (whole, rest) := takeDigits cs
  let (fraction, rest) := match rest with
    | '.' :: rest => takeDigits rest
    | rest => ([], rest)
  if whole.isEmpty ∧ fraction.isEmpty then none
  else (readExponent? rest).map fun e =>
    ofDecimal negative (digitsValue (whole ++ fraction)) (e - fraction.length)

/-- The value that a text writes, if it is a number. -/
def read? (s : String) : Option Binary64 :=
  let (negative, cs) := takeSign s.toList
  match fold (String.ofList cs) with
  | "inf" | "infinity" => some (.infinite negative)
  | "nan" => some .nan
  | _ => readMagnitude? negative cs

end FleetRouting.Binary64
