import FleetRouting.Binary64.Reader
import FleetRouting.Text.Blank
/-!
# FleetRouting.Head.Size

**Sizes of models.** A size is a number, with an optional letter for thousands, millions, billions or trillions
behind it: `7000000000`, `7b` and `1.5T` are sizes.
-/

namespace FleetRouting.ModelSize

open Text

/-- The factor that a letter in last place stands for. -/
def factor? (c : Char) : Option Nat :=
  match c.toLower with
  | 'k' => some 1000
  | 'm' => some 1000000
  | 'b' => some 1000000000
  | 't' => some 1000000000000
  | _ => none

/-- Splits a trimmed text into its number and the factor that follows it. -/
def splitFactor (cs : List Char) : List Char × Nat :=
  match cs.getLast?.bind factor? with
  | some n => (cs.dropLast, n)
  | none => (cs, 1)

/-- The size that a text gives; none if its number is missing, negative or not finite. The product with the
factor may be infinite. -/
def read? (s : String) : Option Binary64 :=
  let cs := trimChars s.toList
  if cs.isEmpty then none
  else
    let (number, factor) := splitFactor cs
    match Binary64.read? (trim (String.ofList number)) with
    | some n => if n.isFinite && Binary64.zero.le n then some (n * Binary64.ofNat factor) else none
    | none => none

end FleetRouting.ModelSize
