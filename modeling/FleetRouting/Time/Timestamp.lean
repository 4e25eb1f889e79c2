/-!
# FleetRouting.Time.Timestamp

**Points of wall-clock time.** A timestamp counts seconds since 1970-01-01T00:00:00Z and nanoseconds within the
second. A leap second is written into the nanoseconds of the second before it, which then run past one
thousand million. `elapsed` is the signed distance of two timestamps in nanoseconds, and `Moment` pairs the
wall clock with a monotonic one.
-/

namespace FleetRouting

/-- A point of time in UTC with nanosecond precision. -/
structure Timestamp where
  /-- Seconds since 1970-01-01T00:00:00Z. -/
  seconds : Int
  /-- Nanoseconds of the second; from one thousand million on, those of a leap second that follows it. -/
  nanos : Nat
  deriving DecidableEq, Repr, Inhabited

/-- Nanoseconds in a second. -/
def nanosPerSecond : Nat := 1000000000

/-- Seconds in a day. -/
def secondsPerDay : Nat := 86400

namespace Timestamp

/-- Earlier in time. -/
def before (a b : Timestamp) : Bool :=
  decide (a.seconds < b.seconds) || (a.seconds == b.seconds && decide (a.nanos < b.nanos))

/-- The second of the day. -/
def secondOfDay (t : Timestamp) : Int := t.seconds.emod secondsPerDay

/-- True within a leap second. -/
def inLeapSecond (t : Timestamp) : Bool := decide (nanosPerSecond ≤ t.nanos)

/-- The nanoseconds from `b` to `a`. A leap second counts when the other time of day lies beyond it. -/
def elapsed (a b : Timestamp) : Int :=
  let leap : Int :=
    if b.secondOfDay < a.secondOfDay ∧ b.inLeapSecond then 1
    else if a.secondOfDay < b.secondOfDay ∧ a.inLeapSecond then -1
    else 0
  (a.seconds - b.seconds + leap) * nanosPerSecond + (a.nanos - b.nanos)

/-- The first representable second, at the start of the year -262143. -/
def firstSecond : Int := -8334601228800

/-- The last representable second, at the end of the year 262142. -/
def lastSecond : Int := 8210266876799

/-- The start of a second, if it is representable. -/
def ofUnix? (seconds : Int) : Option Timestamp :=
  if firstSecond ≤ seconds ∧ seconds ≤ lastSecond then some ⟨seconds, 0⟩ else none

/-- The timestamp `nanos` nanoseconds later. -/
def after (t : Timestamp) (nanos : Nat) : Timestamp :=
  let n := t.nanos + nanos
  ⟨t.seconds + (n / nanosPerSecond : Nat), n % nanosPerSecond⟩

end Timestamp

/-- What the clocks show at one moment: the wall clock and a monotonic count of nanoseconds. -/
structure Moment where
  wall : Timestamp
  /-- Nanoseconds on a clock that never goes back. -/
  tick : Nat
  deriving DecidableEq, Repr, Inhabited

namespace Moment

/-- Both clocks `nanos` nanoseconds later. -/
def after (m : Moment) (nanos : Nat) : Moment := ⟨m.wall.after nanos, m.tick + nanos⟩

end Moment

end FleetRouting
