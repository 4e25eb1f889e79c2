import FleetRouting.Config.Basic
import FleetRouting.Time.Duration
/-!
# FleetRouting.Resilience.Limiter

**Rate limits per client.** A client has two windows, a long one and a short one for bursts, each with a limit. A
window begins with the first request after the last one ran out. A request has to fit into both and then counts
in both; a refused request counts in neither and is told when the window that refused it runs out. Once a minute
the clients whose windows have run out are forgotten.
-/

namespace FleetRouting

/-- The limits of a client. -/
structure LimitSettings where
  threshold : Nat := 100
  window : Duration := .ofSecs 60
  burstLimit : Nat := 20
  burstDuration : Duration := .ofSecs 1
  deriving DecidableEq, Repr

/-- The answer to a request. -/
inductive Verdict where
  | allowed
  /-- Refused; the window that refused it runs out after this time. -/
  | limited (retryAfter : Duration)
  deriving DecidableEq, Repr

/-- True for an allowed request. -/
def Verdict.isAllowed : Verdict → Bool
  | .allowed => true
  | .limited _ => false

/-- The windows of a client. -/
structure ClientWindows where
  requests : Nat
  windowStart : Nat
  burst : Nat
  burstStart : Nat
  deriving DecidableEq, Repr

namespace ClientWindows

/-- Two windows that begin at `tick`. -/
def new (tick : Nat) : ClientWindows := ⟨0, tick, 0, tick⟩

/-- Begins the windows anew that have run out at `tick`. -/
def refresh (w : ClientWindows) (s : LimitSettings) (tick : Nat) : ClientWindows :=
  let w := if s.window ≤ tick - w.windowStart then { w with requests := 0, windowStart := tick } else w
  if s.burstDuration ≤ tick - w.burstStart then { w with burst := 0, burstStart := tick } else w

/-- A request at `tick`. The long window is asked first. -/
def acquire (w : ClientWindows) (s : LimitSettings) (tick : Nat) : Verdict × ClientWindows :=
  let w := w.refresh s tick
  if s.threshold ≤ w.requests then (.limited (s.window - (tick - w.windowStart)), w)
  else if s.burstLimit ≤ w.burst then (.limited (s.burstDuration - (tick - w.burstStart)), w)
  else (.allowed, { w with requests := w.requests + 1, burst := w.burst + 1 })

/-- Whether both windows have run out, so that nothing is lost with them. -/
def isExpired (w : ClientWindows) (s : LimitSettings) (tick : Nat) : Bool :=
  decide (s.window ≤ tick - w.windowStart) && decide (s.burstDuration ≤ tick - w.burstStart)

end ClientWindows

/-- The windows of all clients. -/
structure Limiter where
  enabled : Bool := true
  defaults : LimitSettings := {}
  overrides : SortedMap String LimitSettings := .empty
  clients : SortedMap String ClientWindows := .empty
  lastCleanup : Nat := 0
  deriving DecidableEq

namespace Limiter

/-- How long to wait between two times of forgetting clients. -/
def cleanupInterval : Duration := .ofSecs 60

/-- A limiter with the same limits for every client, made at `tick`. -/
def ofSettings (defaults : LimitSettings) (tick : Nat) : Limiter :=
  { defaults := defaults, lastCleanup := tick }

/-- A limiter that allows everything. -/
def disabled (tick : Nat) : Limiter := { ofSettings {} tick with enabled := false }

/-- A limiter from its configuration, made at `tick`. -/
def ofConfig (c : LimitConfig) (tick : Nat) : Limiter :=
  let defaults : LimitSettings :=
    ⟨c.threshold, .ofSecs c.windowSecs, c.burstLimit, .ofMillis c.burstDurationMs⟩
  { enabled := c.enabled
    defaults := defaults
    overrides := c.overrides.mapValues fun o =>
      ⟨o.threshold.getD defaults.threshold,
        (o.windowSecs.map Duration.ofSecs).getD defaults.window,
        o.burstLimit.getD defaults.burstLimit,
        (o.burstDurationMs.map Duration.ofMillis).getD defaults.burstDuration⟩
    lastCleanup := tick }

/-- The limits of a client. -/
def settings (l : Limiter) (key : String) : LimitSettings := (l.overrides.get? key).getD l.defaults

/-- Forgets the clients whose windows have run out, if it is time to. -/
def cleanup (l : Limiter) (tick : Nat) : Limiter :=
  if cleanupInterval ≤ tick - l.lastCleanup then
    { l with
      clients := l.clients.filter fun key w => !w.isExpired (l.settings key) tick
      lastCleanup := tick }
  else l

/-- A request of a client at `tick`. -/
def check (l : Limiter) (key : String) (tick : Nat) : Verdict × Limiter :=
  if l.enabled then
    let l := l.cleanup tick
    let windows := (l.clients.get? key).getD (.new tick)
    let (verdict, windows) := windows.acquire (l.settings key) tick
    (verdict, { l with clients := l.clients.insert key windows })
  else (.allowed, l)

/-- The number of clients that are remembered. -/
def tracked (l : Limiter) : Nat := l.clients.size

end Limiter

end FleetRouting
