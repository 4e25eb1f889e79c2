import FleetRouting.Binary64.Basic
import FleetRouting.BitSpan
/-!
# FleetRouting.Binary64.Printer

**Writing values in decimal, always positionally.** `toText` writes the fewest digits that read back as the
same value and, of those, the nearest to it (the larger of two equally near ones). `toFixedText` writes one
digit after the point, rounded from the exact value with a half going to the even digit. Neither writes an
exponent, and a whole number has no point in the first form.
-/

namespace FleetRouting.Binary64

/-- The decimal `digits · 10 ^ exponent`. -/
structure Decimal where
  digits : Nat
  exponent : Int
  deriving DecidableEq, Repr, Inhabited

/-- `a · 10 ^ e` and `b` as two whole numbers over one denominator. -/
def scaled (a : Nat) (e : Int) (b : Nat) : Nat × Nat :=
  if e < 0 then (a, b * Nat.pow 10 (-e).toNat) else (a * Nat.pow 10 e.toNat, b)

/-- Whether `d` rounds to the positive value of `units` units: it lies no further than half way to either
neighbour, and at half way only where the tie would come back. Just above a power of two the lower
neighbour is half as far away as the upper one. -/
def readsBack (units : Nat) (d : Decimal) : Bool :=
  let step := spacing units
  let below := if units = step * bitSpan 52 ∧ 1 < step then step else 2 * step
  let (x, scale) := scaled (d.digits * (4 * unitsPerOne)) d.exponent 1
  let low := (4 * units - below) * scale
  let high := (4 * units + 2 * step) * scale
  if (units / step) % 2 = 0 then decide (low ≤ x) && decide (x ≤ high)
  else decide (low < x) && decide (x < high)

/-- The number of decimal places before the point of a positive value; for a value below one, minus the
number of zeros that follow the point. -/
def places (units : Nat) : Int :=
  if unitsPerOne ≤ units then (Nat.toDigits 10 (units / unitsPerOne)).length
  else
    match (List.range 330).find? fun j => decide (unitsPerOne ≤ units * Nat.pow 10 (j + 1)) with
    | some zeros => -zeros
    | none => -330

/-- The decimal of at most `n` digits that reads back as the value and is nearest to it. -/
def nearest? (units n : Nat) : Option Decimal :=
  let e := places units - n
  let (num, den) := scaled units (-e) unitsPerOne
  let c := num / den
  let low : Decimal := ⟨c, e⟩
  let high : Decimal := ⟨c + 1, e⟩
  match readsBack units low, readsBack units high with
  | true, true => some (if 2 * (num % den) < den then low else high)
  | true, false => some low
  | false, true => some high
  | false, false => none

/-- The shortest decimal that reads back as the positive value of `units` units. Seventeen digits always
suffice. -/
def shortest (units : Nat) : Decimal :=
  ((List.range 17).findSome? fun n => nearest? units (n + 1)).getD default

/-- The text of a natural number followed by `10 ^ exponent`, without an exponent. -/
def Decimal.positional (d : Decimal) : String :=
  let digits := Nat.toDigits 10 d.digits
  if 0 ≤ d.exponent then String.ofList (digits ++ List.replicate d.exponent.toNat '0')
  else
    let places := (-d.exponent).toNat
    let padded := List.replicate (places + 1 - digits.length) '0' ++ digits
    let whole := padded.take (padded.length - places)
    let fraction := (padded.drop (padded.length - places)).reverse.dropWhile (· = '0') |>.reverse
    if fraction.isEmpty then String.ofList whole
    else String.ofList (whole ++ '.' :: fraction)

/-- A minus sign in front of a negative text. -/
def signed (negative : Bool) (text : String) : String := if negative then "-" ++ text else text

/-- The shortest text that reads back as the value. -/
def toText : Binary64 → String
  | .nan => "NaN"
  | .infinite negative => signed negative "inf"
  | .finite negative units =>
    signed negative (if units = 0 then "0" else (shortest units).positional)

/-- The text with one digit after the point. -/
def toFixedText : Binary64 → String
  | .nan => "NaN"
  | .infinite negative => signed negative "inf"
  | .finite negative units =>
    let tenths := roundDiv (10 * units) unitsPerOne
    signed negative (toString (tenths / 10) ++ "." ++ toString (tenths % 10))

end FleetRouting.Binary64
