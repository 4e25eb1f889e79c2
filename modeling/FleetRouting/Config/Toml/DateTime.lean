import FleetRouting.Binary64.Reader
import FleetRouting.Config.Toml.Text
import FleetRouting.Time.Rfc3339
/-!
# FleetRouting.Config.Toml.DateTime

**Dates and times of TOML.** A date, a time of day, or both, and then perhaps the offset from UTC. Writing keeps what
was read, except that `T` stands before the time, `Z` is large, and the fraction of a second has at most nine digits
and no zeros at its end.
-/

namespace FleetRouting.Toml

open Timestamp (padded)

/-- A time of day. -/
structure TimeOfDay where
  hour : Nat
  minute : Nat
  second : Nat
  nanos : Nat
  deriving DecidableEq

/-- The distance of a local time from UTC. -/
inductive Offset where
  /-- The time is in UTC. -/
  | utc
  /-- In minutes, east of UTC or west of it. -/
  | minutes (west : Bool) (count : Nat)
  deriving DecidableEq

/-- A date, a time of day, or both. -/
inductive DateTime where
  | date (date : Date)
  | time (time : TimeOfDay)
  | both (date : Date) (time : TimeOfDay) (offset : Option Offset)
  deriving DecidableEq

/-! ### Writing -/

/-- A date as text. -/
def dateText (d : Date) : String :=
  padded 4 d.year.toNat ++ "-" ++ padded 2 d.month ++ "-" ++ padded 2 d.day

/-- The fraction of a second as text, without zeros at its end. -/
def fractionText (nanos : Nat) : String :=
  if nanos = 0 then ""
  else "." ++ String.ofList ((padded 9 nanos).toList.reverse.dropWhile (· = '0')).reverse

/-- A time of day as text. -/
def TimeOfDay.toText (t : TimeOfDay) : String :=
  padded 2 t.hour ++ ":" ++ padded 2 t.minute ++ ":" ++ padded 2 t.second ++ fractionText t.nanos

/-- An offset as text. No distance is written as one to the east. -/
def Offset.toText : Offset → String
  | .utc => "Z"
  | .minutes west count =>
    (if west ∧ 0 < count then "-" else "+") ++ padded 2 (count / 60) ++ ":" ++ padded 2 (count % 60)

/-- A date and time as text. -/
def DateTime.toText : DateTime → String
  | .date d => dateText d
  | .time t => t.toText
  | .both d t offset => dateText d ++ "T" ++ t.toText ++ (offset.map Offset.toText).getD ""

/-! ### Reading -/

/-- How much is allowed in a date and time: written as such, the hours end at 23; in a text there may be 24 of them, and
an offset may be any number of minutes within a day. -/
inductive Strictness where
  | asWritten
  | inText
  deriving DecidableEq

/-- A number of exactly so many digits. -/
def fixedDigits (width : Nat) : Reader Nat := fun cs =>
  let ds := cs.take width
  if ds.length = width ∧ ds.all Char.isDigit then some (Binary64.digitsValue ds, cs.drop width) else none

/-- A date of the calendar. -/
def date : Reader Date := do
  let year ← fixedDigits 4
  expect '-'
  let month ← fixedDigits 2
  expect '-'
  let d : Date := ⟨year, month, ← fixedDigits 2⟩
  if d.isValid then return d else failure

/-- The fraction of a second in nanoseconds; further digits are dropped. -/
def nanos : Reader Nat := do
  if ← accept '.' then
    let (ds, rest) := (← get).span Char.isDigit
    if ds.isEmpty then failure
    set rest
    return Binary64.digitsValue (ds ++ List.replicate 9 '0' |>.take 9)
  return 0

/-- A time of day. -/
def timeOfDay (strictness : Strictness) : Reader TimeOfDay := do
  let hour ← fixedDigits 2
  expect ':'
  let minute ← fixedDigits 2
  expect ':'
  let t : TimeOfDay := ⟨hour, minute, ← fixedDigits 2, ← nanos⟩
  let lastHour := if strictness = .asWritten then 23 else 24
  if hour ≤ lastHour ∧ minute ≤ 59 ∧ t.second ≤ 60 then return t else failure

/-- The offset from UTC, if there is one. -/
def offset? (strictness : Strictness) : Reader (Option Offset) := do
  match ← get with
  | sign :: rest =>
    if sign = 'Z' ∨ sign = 'z' then
      set rest
      return some .utc
    else if sign = '+' ∨ sign = '-' then
      set rest
      let hour ← fixedDigits 2
      expect ':'
      let minute ← fixedDigits 2
      let count := 60 * hour + minute
      let isAllowed := match strictness with
        | .asWritten => hour ≤ 23 && minute ≤ 59
        | .inText => count ≤ 24 * 60
      if isAllowed then return some (.minutes (sign = '-') count) else failure
    else return none
  | [] => return none

/-- What stands between a date and a time. -/
def separator : Reader Unit := expect 'T' <|> expect 't' <|> expect ' '

/-- A date and time. -/
def dateTime (strictness : Strictness) : Reader DateTime :=
  (do
    let d ← date
    (do
      separator
      let t ← timeOfDay strictness
      return .both d t (← offset? strictness)) <|> return .date d) <|>
  .time <$> timeOfDay strictness

/-- The date and time that a text is. -/
def DateTime.read? (s : String) : Option DateTime :=
  match dateTime .inText s.toList with
  | some (d, []) => some d
  | _ => none

end FleetRouting.Toml
