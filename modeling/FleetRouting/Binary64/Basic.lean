import FleetRouting.BitSpan
/-!
# FleetRouting.Binary64.Basic

**Binary floating point of 64 bits, in exact integer arithmetic.** Every finite value is a whole number of
*units* of `2 ^ -1074`, the smallest positive value of the format. An operation is carried out exactly on
units, as a quotient of natural numbers, and its result is rounded once, to the nearest value of the
format and to the even one of two equally near ones (`round`). Comparison is comparison of integers.
-/

namespace FleetRouting

/-- A value of the format. `finite negative units` stands for `± units · 2 ^ -1074`; zero has a sign. -/
inductive Binary64 where
  | nan
  | infinite (negative : Bool)
  | finite (negative : Bool) (units : Nat)
  deriving DecidableEq, Repr, Inhabited

namespace Binary64

/-- How many units make one. -/
def unitsPerOne : Nat := bitSpan 1074

/-- The first magnitude, in units, that is too large for a finite value. -/
def overflow : Nat := bitSpan 2098

/-- The distance between neighbouring values near `units`: a value has at most 53 significant bits. -/
def spacing (units : Nat) : Nat := bitSpan (units.log2 - 52)

/-- The integer nearest to `num / den`; a half goes to the even neighbour. -/
def roundDiv (num den : Nat) : Nat :=
  let q := num / den
  let r := num % den
  if 2 * r < den then q
  else if den < 2 * r then q + 1
  else if q % 2 = 0 then q else q + 1

/-- The value of the format nearest to `± num / den` units. -/
def round (negative : Bool) (num den : Nat) : Binary64 :=
  let step := spacing (num / den)
  let units := roundDiv num (den * step) * step
  if units < overflow then .finite negative units else .infinite negative

/-- Positive zero. -/
def zero : Binary64 := .finite false 0

/-- The nearest value to a natural number. -/
def ofNat (n : Nat) : Binary64 := round false (n * unitsPerOne) 1

/-- The nearest value to `± digits · 10 ^ exponent`. Beyond four hundred places on either side of the
point the answer is infinity or zero, and no power is formed. -/
def ofDecimal (negative : Bool) (digits : Nat) (exponent : Int) : Binary64 :=
  let place := (Nat.toDigits 10 digits).length + exponent
  if digits = 0 ∨ place < -400 then .finite negative 0
  else if place > 400 then .infinite negative
  else if exponent < 0 then round negative (digits * unitsPerOne) (Nat.pow 10 (-exponent).toNat)
  else round negative (digits * Nat.pow 10 exponent.toNat * unitsPerOne) 1

/-- True for every value but infinities and not-a-number. -/
def isFinite : Binary64 → Bool
  | .finite .. => true
  | _ => false

/-- The place of a value in the order of the numbers; not-a-number has none. -/
def rank? : Binary64 → Option Int
  | .nan => none
  | .infinite true => some (-overflow)
  | .infinite false => some overflow
  | .finite true units => some (-units)
  | .finite false units => some units

/-- Strictly smaller; false when either side is not a number. -/
def lt (a b : Binary64) : Bool :=
  match a.rank?, b.rank? with
  | some i, some j => decide (i < j)
  | _, _ => false

/-- Smaller or equal; false when either side is not a number. -/
def le (a b : Binary64) : Bool :=
  match a.rank?, b.rank? with
  | some i, some j => decide (i ≤ j)
  | _, _ => false

/-- The larger of two values; a value that is not a number gives way to the other. -/
def max (a b : Binary64) : Binary64 :=
  match a, b with
  | .nan, b => b
  | a, .nan => a
  | a, b => if a.lt b then b else a

/-- The product, rounded once. -/
def mul : Binary64 → Binary64 → Binary64
  | .finite s u, .finite t v => round (s != t) (u * v) unitsPerOne
  | .infinite s, .infinite t => .infinite (s != t)
  | .infinite s, .finite t v => if v = 0 then .nan else .infinite (s != t)
  | .finite s u, .infinite t => if u = 0 then .nan else .infinite (s != t)
  | _, _ => .nan

/-- The quotient, rounded once. -/
def div : Binary64 → Binary64 → Binary64
  | .finite s u, .finite t v =>
    if v = 0 then (if u = 0 then .nan else .infinite (s != t))
    else round (s != t) (u * unitsPerOne) v
  | .finite s _, .infinite t => .finite (s != t) 0
  | .infinite s, .finite t _ => .infinite (s != t)
  | _, _ => .nan

instance : Mul Binary64 := ⟨mul⟩
instance : Div Binary64 := ⟨div⟩

/-- The nearest whole number from `0` to `bound`, a half going away from zero: negative values and
not-a-number give `0`, values beyond the bound give the bound. -/
def toNatClamped (bound : Nat) : Binary64 → Nat
  | .finite false units => min bound ((2 * units + unitsPerOne) / (2 * unitsPerOne))
  | .infinite false => bound
  | _ => 0

end Binary64

end FleetRouting
