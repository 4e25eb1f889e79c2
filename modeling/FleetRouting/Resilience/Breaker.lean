import FleetRouting.BitSpan
import FleetRouting.Config.Basic
import FleetRouting.Time.Duration
/-!
# FleetRouting.Resilience.Breaker

**Circuit breakers.** Calls to a service are let through until as many have failed in a row as its threshold says.
Then the circuit is open, and calls are refused, until the reset time has passed since the last failure; one
call is let through as a probe, and its outcome closes the circuit or opens it again. A probe that does not
report within the reset time makes room for another one. Every service has a circuit of its own.
-/

namespace FleetRouting

/-- The state of a circuit as it shows. -/
inductive CircuitState where
  | closed
  | opened
  | halfOpen
  deriving DecidableEq, Repr

/-- The name of a state. -/
def CircuitState.name : CircuitState → String
  | .closed => "closed"
  | .opened => "open"
  | .halfOpen => "half_open"

/-- When a circuit opens, and how long it stays open. -/
structure BreakerSettings where
  threshold : Nat := 5
  resetTimeout : Duration := .ofSecs 30
  deriving DecidableEq, Repr

/-- What is known of the calls to one service. -/
structure Circuit where
  /-- Failures since the last success, as far as 32 bits count them. -/
  failures : Nat := 0
  successes : Nat := 0
  lastFailure : Option Nat := none
  /-- When the probe was let through that has not reported yet. -/
  probeStarted : Option Nat := none
  deriving DecidableEq, Repr, Inhabited

namespace Circuit

/-- The most failures that are counted. -/
def maxFailures : Nat := bitSpan 32 - 1

/-- The state of a circuit under its settings. -/
def state (c : Circuit) (s : BreakerSettings) : CircuitState :=
  if c.probeStarted.isSome then .halfOpen
  else if s.threshold ≤ c.failures then .opened
  else .closed

/-- Whether the reset time has passed at `tick` since an event; always, if there was none. -/
def hasRested (s : BreakerSettings) (tick : Nat) (since : Option Nat) : Bool :=
  match since with
  | some t => decide (s.resetTimeout ≤ tick - t)
  | none => true

/-- Whether a call may go through at `tick`, and the circuit after the answer. -/
def allow (c : Circuit) (s : BreakerSettings) (tick : Nat) : Bool × Circuit :=
  match c.state s with
  | .closed => (true, c)
  | .halfOpen =>
    if hasRested s tick c.probeStarted then (true, { c with probeStarted := some tick }) else (false, c)
  | .opened =>
    if hasRested s tick c.lastFailure then (true, { c with probeStarted := some tick }) else (false, c)

/-- A call failed at `tick`. -/
def fail (c : Circuit) (tick : Nat) : Circuit :=
  { c with
    failures := min (c.failures + 1) maxFailures, lastFailure := some tick, probeStarted := none }

/-- A call succeeded. -/
def success (c : Circuit) : Circuit :=
  { c with failures := 0, successes := c.successes + 1, probeStarted := none }

end Circuit

/-- The circuits of all services. -/
structure Breaker where
  defaults : BreakerSettings := {}
  overrides : SortedMap String BreakerSettings := .empty
  circuits : SortedMap String Circuit := .empty
  deriving DecidableEq

namespace Breaker

/-- A breaker with the same settings for every service. -/
def ofSettings (defaults : BreakerSettings) : Breaker := { defaults := defaults }

/-- A breaker from its configuration. No threshold is below one. -/
def ofConfig (c : BreakerConfig) : Breaker :=
  let defaults : BreakerSettings := ⟨max c.threshold 1, .ofMillis c.resetTimeoutMs⟩
  { defaults := defaults
    overrides := c.overrides.mapValues fun o =>
      ⟨max (o.threshold.getD defaults.threshold) 1,
        (o.resetTimeoutMs.map Duration.ofMillis).getD defaults.resetTimeout⟩ }

/-- The settings of a service. -/
def settings (b : Breaker) (service : String) : BreakerSettings :=
  (b.overrides.get? service).getD b.defaults

/-- The circuit of a service. -/
def circuit (b : Breaker) (service : String) : Circuit := (b.circuits.get? service).getD {}

/-- Whether a call to a service may go through at `tick`. The first call to a service always may. -/
def allow (b : Breaker) (service : String) (tick : Nat) : Bool × Breaker :=
  match b.circuits.get? service with
  | none => (true, b)
  | some c =>
    let (granted, c) := c.allow (b.settings service) tick
    (granted, { b with circuits := b.circuits.insert service c })

/-- A call to a service failed at `tick`. -/
def fail (b : Breaker) (service : String) (tick : Nat) : Breaker :=
  { b with circuits := b.circuits.insert service ((b.circuit service).fail tick) }

/-- A call to a service succeeded. -/
def success (b : Breaker) (service : String) : Breaker :=
  { b with circuits := b.circuits.insert service (b.circuit service).success }

/-- The state of the circuit of a service. It is closed as long as no call has reported. -/
def state (b : Breaker) (service : String) : CircuitState :=
  match b.circuits.get? service with
  | some c => c.state (b.settings service)
  | none => .closed

end Breaker

end FleetRouting
