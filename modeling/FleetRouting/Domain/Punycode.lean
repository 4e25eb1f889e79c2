import FleetRouting.BitSpan
/-!
# FleetRouting.Domain.Punycode

**Labels of any script, written with letters and digits.** The characters of ASCII come first, then a hyphen, then the
other characters in the order of their code points: each by the number of steps from the one before, where a step goes
to the next place in the text, or from the last place to the next code point. A number is written with digits to base
36, and the weights of its digits adapt to the numbers before.
-/

namespace FleetRouting.Domain.Punycode

/-! ### Digits -/

/-- The digit of a value below 36. -/
def digit (n : Nat) : Char := Char.ofNat (if n < 26 then 'a'.toNat + n else '0'.toNat + (n - 26))

/-- The value of a digit. -/
def digitValue? (c : Char) : Option Nat :=
  if c.isLower then some (c.toNat - 'a'.toNat)
  else if c.isDigit then some (c.toNat - '0'.toNat + 26)
  else none

/-- From which value on a digit at a place is not the last one of its number. -/
def threshold (place bias : Nat) : Nat := min 26 (max 1 (place - bias))

/-- Divides by 35 until at most 455 is left, and counts 36 for each time; the first argument bounds the count. -/
def shrink : Nat → Nat → Nat × Nat
  | 0, n => (n, 0)
  | bound + 1, n =>
    if 455 < n then
      let (left, count) := shrink bound (n / 35)
      (left, count + 36)
    else (n, 0)

/-- The bias behind a number, when so many characters are placed. -/
def adapt (n placed : Nat) (isFirst : Bool) : Nat :=
  let n := if isFirst then n / 700 else n / 2
  let (left, count) := shrink n (n + n / placed)
  count + 36 * left / (left + 38)

/-- The places of digits lie 36 apart. -/
def placeStep : Nat := 36

/-- The bias in front of the first number. -/
def firstBias : Nat := 72

/-- The first code point that is not written as it is. -/
def firstCode : Nat := 128

/-! ### Writing -/

/-- The digits of a number from a place on; the first argument bounds how many there are. -/
def writeNumber (bias : Nat) : Nat → Nat → Nat → List Char
  | 0, _, _ => []
  | bound + 1, place, n =>
    let t := threshold place bias
    if n < t then [digit n]
    else digit (t + (n - t) % (36 - t)) :: writeNumber bias bound (place + placeStep) ((n - t) / (36 - t))

/-- A label in writing. -/
structure Writer where
  /-- What is written, the last character first. -/
  written : List Char := []
  /-- The steps since the last character that was placed. -/
  steps : Nat := 0
  bias : Nat := firstBias
  /-- How many characters are placed. -/
  placed : Nat
  isFirst : Bool := true

/-- Passes over a character of the label when those with the code point `code` are placed. -/
def Writer.pass (code : Nat) (w : Writer) (c : Char) : Writer :=
  if c.toNat < code then { w with steps := w.steps + 1 }
  else if c.toNat = code then
    { written := (writeNumber w.bias (w.steps + 1) placeStep w.steps).reverse ++ w.written
      steps := 0
      bias := adapt w.steps (w.placed + 1) w.isFirst
      placed := w.placed + 1
      isFirst := false }
  else w

/-- Places the characters with the code points of a list, which is in order; `next` is the first code point that has
not been passed. -/
def Writer.place (label : List Char) (w : Writer) (next : Nat) : List Nat → Writer
  | [] => w
  | code :: codes =>
    let w := { w with steps := w.steps + (code - next) * (w.placed + 1) }
    let w := label.foldl (Writer.pass code) w
    Writer.place label { w with steps := w.steps + 1 } (code + 1) codes

/-- The label in letters and digits. -/
def encode (label : List Char) : List Char :=
  let basic := label.filter fun c => c.toNat < firstCode
  let codes := ((label.map Char.toNat).filter fun n => firstCode ≤ n).mergeSort.eraseDups
  let w := Writer.place label { placed := basic.length } firstCode codes
  basic ++ (if basic.isEmpty then [] else ['-']) ++ w.written.reverse

/-! ### Reading -/

/-- A label in reading: what is placed, and the number in progress with the weight and the place of its next digit. -/
structure Reading where
  label : List Char
  /-- The code point of the last character that was placed. -/
  code : Nat := firstCode
  /-- The place behind that character. -/
  start : Nat := 0
  /-- The steps from the start of the label, as far as the number is read. -/
  steps : Nat := 0
  weight : Nat := 1
  place : Nat := placeStep
  bias : Nat := firstBias

/-- One further digit. No number may have more than 32 bits. -/
def Reading.step? (r : Reading) (c : Char) : Option Reading := do
  let d ← digitValue? c
  let steps := r.steps + d * r.weight
  let t := threshold r.place r.bias
  if bitSpan 32 ≤ steps then none
  else if d < t then
    let length := r.label.length + 1
    let code := r.code + steps / length
    let (before, behind) := r.label.splitAt (steps % length)
    if code.isValidChar then
      some {
        label := before ++ Char.ofNat code :: behind
        code := code
        start := steps % length + 1
        steps := steps % length + 1
        bias := adapt (steps - r.start) length (r.start == 0) }
    else none
  else
    let weight := r.weight * (36 - t)
    if bitSpan 32 ≤ weight then none
    else some { r with steps := steps, weight := weight, place := r.place + placeStep }

/-- The label that letters and digits write, unless they end within a number. -/
def decode? (cs : List Char) : Option (List Char) := do
  let (basic, rest) := match cs.reverse.span (· ≠ '-') with
    | (rest, '-' :: basic@(_ :: _)) => (basic.reverse, rest.reverse)
    | _ => ([], cs)
  let read ← rest.foldlM Reading.step? { label := basic }
  if read.weight = 1 then some read.label else none

end FleetRouting.Domain.Punycode
