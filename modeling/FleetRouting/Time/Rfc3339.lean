import FleetRouting.Time.Calendar
import FleetRouting.Time.Timestamp
import FleetRouting.Text.Blank
import FleetRouting.Text.Fold
/-!
# FleetRouting.Time.Rfc3339

**Timestamps as text.** Writing gives `YYYY-MM-DDTHH:MM:SS` with no fraction, or with the three, six or nine
digits that lose nothing, and `Z`; years outside 0 to 9999 carry a sign. Reading accepts any offset from UTC and
is lenient in layout: blanks may stand around the parts, fields may have one digit, `t`, `z`, `UTC` and a blank
for `T` are understood, and digits past nanoseconds are dropped. Seconds and the offset are required.
-/

namespace FleetRouting.Timestamp

open Text

/-! ### Writing -/

/-- Decimal digits, filled up with zeros in front to `width` characters. -/
def padded (width n : Nat) : String :=
  let digits := Nat.toDigits 10 n
  String.ofList (List.replicate (width - digits.length) '0' ++ digits)

/-- A year: four digits from 0 to 9999, otherwise a sign and at least four digits. -/
def yearText (year : Int) : String :=
  if 0 ≤ year ∧ year ≤ 9999 then padded 4 year.toNat
  else (if year < 0 then "-" else "+") ++ padded 4 year.natAbs

/-- The fraction of a second, in the fewest groups of three digits. -/
def fractionText (nanos : Nat) : String :=
  if nanos = 0 then ""
  else if nanos % 1000000 = 0 then "." ++ padded 3 (nanos / 1000000)
  else if nanos % 1000 = 0 then "." ++ padded 6 (nanos / 1000)
  else "." ++ padded 9 nanos

/-- The timestamp as text in UTC. -/
def toText (t : Timestamp) : String :=
  let date := Date.ofDays (t.seconds.fdiv secondsPerDay)
  let time := t.secondOfDay.toNat
  let second := time % 60 + t.nanos / nanosPerSecond
  yearText date.year ++ "-" ++ padded 2 date.month ++ "-" ++ padded 2 date.day ++ "T" ++
    padded 2 (time / 3600) ++ ":" ++ padded 2 (time / 60 % 60) ++ ":" ++ padded 2 second ++
    fractionText (t.nanos % nanosPerSecond) ++ "Z"

/-! ### Reading -/

/-- Digits at the front of `cs`, at least one and at most `width`, as a number. -/
def takeNumber? (width : Nat) (cs : List Char) : Option (Nat × List Char) :=
  let ds := (cs.take width).takeWhile Char.isDigit
  if ds.isEmpty then none
  else some (ds.foldl (fun n d => 10 * n + (d.toNat - '0'.toNat)) 0, cs.drop ds.length)

/-- A field of at most two digits, behind blanks. -/
def takeField? (cs : List Char) : Option (Nat × List Char) := takeNumber? 2 (skipBlanks cs)

/-- The year, behind blanks: up to four digits, or any number of them behind a sign. -/
def takeYear? (cs : List Char) : Option (Int × List Char) :=
  match skipBlanks cs with
  | '-' :: rest => (takeNumber? rest.length rest).map fun (y, rest) => (-y, rest)
  | '+' :: rest => (takeNumber? rest.length rest).map fun (y, rest) => ((y : Int), rest)
  | cs => (takeNumber? 4 cs).map fun (y, rest) => ((y : Int), rest)

/-- The separator `c`, behind blanks. -/
def takeMark? (c : Char) (cs : List Char) : Option (List Char) :=
  match skipBlanks cs with
  | d :: rest => if c = d then some rest else none
  | [] => none

/-- A fraction of a second in nanoseconds: up to nine digits count, further ones are dropped. -/
def takeFraction? : List Char → Option (Nat × List Char)
  | '.' :: rest =>
    (takeNumber? 9 rest).map fun (n, after) =>
      (n * Nat.pow 10 (9 - (rest.length - after.length)), after.dropWhile Char.isDigit)
  | cs => some (0, cs)

/-- The sign of an offset. -/
def takeOffsetSign? : List Char → Option (Int × List Char)
  | '+' :: rest => some (1, rest)
  | '-' :: rest => some (-1, rest)
  | '\u2212' :: rest => some (-1, rest)
  | _ => none

/-- Exactly two digits. -/
def takeTwo? : List Char → Option (Nat × List Char)
  | a :: b :: rest =>
    if a.isDigit ∧ b.isDigit then
      some (10 * (a.toNat - '0'.toNat) + (b.toNat - '0'.toNat), rest)
    else none
  | _ => none

/-- The offset from UTC in seconds: `Z`, `UTC`, or hours and minutes behind a sign, less than a day. -/
def takeOffset? (cs : List Char) : Option (Int × List Char) :=
  match dropStart? "utc".toList (cs.take 3 |>.map Char.toLower), cs with
  | some _, _ => some (0, cs.drop 3)
  | none, 'Z' :: rest => some (0, rest)
  | none, 'z' :: rest => some (0, rest)
  | none, cs => do
    let (sign, rest) ← takeOffsetSign? cs
    let (hours, rest) ← takeTwo? rest
    let (minutes, rest) ← takeTwo? (rest.dropWhile fun c => c = ':' || isBlank c)
    if minutes ≤ 59 ∧ hours < 24 then some (sign * (hours * 3600 + minutes * 60 : Nat), rest)
    else none

/-- The `T` between date and time. -/
def takeTimeMark? : List Char → Option (List Char)
  | 'T' :: rest => some rest
  | 't' :: rest => some rest
  | ' ' :: rest => some rest
  | _ => none

/-- The timestamp that a text writes, if it is one and lies in the calendar. -/
def read? (s : String) : Option Timestamp := do
  let (year, cs) ← takeYear? s.toList
  let (month, cs) ← takeField? (← takeMark? '-' cs)
  let (day, cs) ← takeField? (← takeMark? '-' cs)
  let cs ← takeTimeMark? cs
  let (hour, cs) ← takeField? cs
  let (minute, cs) ← takeField? (← takeMark? ':' cs)
  let (second, cs) ← takeField? (← takeMark? ':' cs)
  let (nanos, cs) ← takeFraction? cs
  let (offset, cs) ← takeOffset? (skipBlanks cs)
  guard (skipBlanks cs).isEmpty
  let date : Date := ⟨year, month, day⟩
  guard (date.isValid && hour < 24 && minute < 60 && second ≤ 60)
  let seconds := date.toDays * secondsPerDay + (hour * 3600 + minute * 60 + min second 59 : Nat) - offset
  guard (firstSecond ≤ seconds ∧ seconds ≤ lastSecond)
  pure ⟨seconds, if second = 60 then nanos + nanosPerSecond else nanos⟩

end FleetRouting.Timestamp
