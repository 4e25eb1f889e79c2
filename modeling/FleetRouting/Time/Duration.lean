/-!
# FleetRouting.Time.Duration

**Spans of time, in nanoseconds.**
-/

namespace FleetRouting

/-- A span of time in nanoseconds. -/
abbrev Duration := Nat

namespace Duration

/-- A number of milliseconds. -/
def ofMillis (n : Nat) : Duration := n * 1000000

/-- A number of seconds. -/
def ofSecs (n : Nat) : Duration := n * 1000000000

/-- The whole seconds of a span. -/
def secs (d : Duration) : Nat := d / 1000000000

/-- The nanoseconds beyond the whole seconds. -/
def subsecNanos (d : Duration) : Nat := d % 1000000000

end Duration

end FleetRouting
