import FleetRouting.Config.Setting
import FleetRouting.Config.Toml.Text
/-!
# FleetRouting.Config.Toml.Number

**Numbers of TOML.** An integer of 64 bits stands in base ten, perhaps with a sign, or in base sixteen, eight or two
without one. A number with a fraction or an exponent is rounded to the nearest value of 64 bits, but must not grow
beyond all of them upward. Single underscores may stand between digits, and no zero in front of others.
-/

namespace FleetRouting.Toml

open Text

/-- Digits, perhaps with single underscores between them. -/
def digits (isDigit : Char → Bool) : Reader (List Char) := fun cs =>
  let (run, rest) := cs.span fun c => isDigit c || c = '_'
  let groups := splitChars '_' run
  if groups.all (!·.isEmpty) then some (groups.flatten, rest) else none

/-- Digits in base ten with no zero in front of others. -/
def wholeDigits : Reader (List Char) := do
  match ← digits Char.isDigit with
  | '0' :: _ :: _ => failure
  | ds => return ds

/-- An integer, if it has 64 bits with sign. -/
def long (n : Int) : Reader Setting := if Setting.isLong n then return .integer n else failure

/-- An integer in a base, behind what announces the base. -/
def inBase (base : Nat) : Reader Setting := do
  let ds ← digits fun c => (hexValue? c).any (· < base)
  long (ds.foldl (fun n c => base * n + (hexValue? c).getD 0) 0)

/-- The fraction of a number, if it has one. -/
def fraction? : Reader (Option (List Char)) := do
  if ← accept '.' then return some (← digits Char.isDigit)
  return none

/-- The exponent of a number, if it has one. -/
def exponent? : Reader (Option Int) := do
  match ← get with
  | c :: rest =>
    if c = 'e' ∨ c = 'E' then
      let (down, rest) := Binary64.takeSign rest
      set rest
      let n := Binary64.digitsValue (← digits Char.isDigit)
      return some (if down then -n else n)
    else return none
  | [] => return none

/-- A number in base ten, behind its sign. -/
def decimal (negative : Bool) : Reader Setting := do
  let whole ← wholeDigits
  let fraction ← fraction?
  let exponent ← exponent?
  if fraction.isNone && exponent.isNone then
    let n : Int := Binary64.digitsValue whole
    long (if negative then -n else n)
  else
    let fraction := fraction.getD []
    let value := Binary64.ofDecimal negative (Binary64.digitsValue (whole ++ fraction))
      (exponent.getD 0 - fraction.length)
    if value = .infinite false then failure else return .real value

/-- A number or one of the values that are none, behind the sign. -/
def unsigned (negative : Bool) : Reader Setting := do
  match ← get with
  | 'i' :: _ => expectWord "inf".toList; return .real (.infinite negative)
  | 'n' :: _ => expectWord "nan".toList; return .real .nan
  | _ => decimal negative

/-- A number. -/
def number : Reader Setting := do
  match ← get with
  | '0' :: 'x' :: rest => set rest; inBase 16
  | '0' :: 'o' :: rest => set rest; inBase 8
  | '0' :: 'b' :: rest => set rest; inBase 2
  | '+' :: rest => set rest; unsigned false
  | '-' :: rest => set rest; unsigned true
  | _ => unsigned false

end FleetRouting.Toml
