import FleetRouting.Event.Bus
import FleetRouting.Resilience.Breaker
import FleetRouting.Routing.Router
import FleetRouting.Store.Fleet
/-!
# FleetRouting.Service

**The fleet service.** Changes are made in memory first, then written to the store behind a circuit breaker, then
announced. A write that fails, or is refused by the open circuit, is reported to the caller, but the change and
its announcement stand. A snapshot of a head is written only if no later one was.
-/

namespace FleetRouting

/-- Why a change was refused, or not written. -/
inductive FleetError where
  | headNotFound (id : String)
  /-- A field of the request is blank. -/
  | blankField (field : String)
  /-- The change was made, but the store failed. -/
  | persistence (error : StoreError)
  /-- The change was made, but the circuit of the store is open. -/
  | circuitOpen (service : String)
  deriving DecidableEq, Repr

namespace FleetError

/-- What is said about an error. -/
def message : FleetError → String
  | .headNotFound id => "Head not found: " ++ id
  | .blankField field => "Invalid request: " ++ field ++ " must not be empty"
  | .persistence error => "Persistence failed: " ++ error.message
  | .circuitOpen service => "Circuit open for service '" ++ service ++ "'"

/-- The HTTP status of an error. -/
def status : FleetError → Nat
  | .headNotFound _ => 404
  | .blankField _ => 400
  | .persistence _ => 503
  | .circuitOpen _ => 503

end FleetError

/-- The state of the service. -/
structure Service where
  router : Router := {}
  store : Store := {}
  breaker : Breaker := {}
  bus : Bus := {}
  /-- The last revision that was written of a head. -/
  written : SortedMap String Nat := .empty

/-- What was found in the store at the start. -/
structure BootstrapReport where
  headsRestored : Nat
  policyRestored : Bool
  deriving DecidableEq

namespace Service

/-- The name under which the breaker knows the store. -/
def storeService : String := "store"

/-- A new service over a store. -/
def start (store : Store) (breaker : Breaker) (bus : Bus) (cacheTtl : Option Duration) : Service :=
  { router := { cache := { ttl := cacheTtl } }, store := store, breaker := breaker, bus := bus }

/-! ### Parts of the state -/

/-- Changes the cache. -/
def mapCache (s : Service) (f : Cache → Cache) : Service :=
  { s with router := { s.router with cache := f s.router.cache } }

/-- Changes the counters. -/
def count (s : Service) (f : Metrics → Metrics) : Service :=
  { s with router := { s.router with metrics := f s.router.metrics } }

/-- Exchanges the registry. -/
def withRegistry (s : Service) (registry : Registry) : Service :=
  { s with router := { s.router with registry := registry } }

/-- Announces an event. -/
def publish (s : Service) (e : FleetEvent) : Service := { s with bus := s.bus.publish e }

/-! ### Writing to the store -/

/-- Calls the store. -/
def call {α : Type} (s : Service) (action : StoreM α) : Except StoreError α × Service :=
  let (result, store) := action.run s.store
  (result, { s with store := store })

/-- A write that was not made counts as failed. -/
def countFailure (s : Service) : Service :=
  s.count fun m => { m with persistenceFailures := m.persistenceFailures + 1 }

/-- Writes to the store if its circuit lets the call through. -/
def guarded (s : Service) (tick : Nat) (write : StoreM Unit) : Except FleetError Unit × Service :=
  let (granted, breaker) := s.breaker.allow storeService tick
  let s := { s with breaker := breaker }
  if granted then
    match s.call write with
    | (.ok (), s) => (.ok (), { s with breaker := s.breaker.success storeService })
    | (.error e, s) =>
      (.error (.persistence e), { s with breaker := s.breaker.fail storeService tick }.countFailure)
  else
    (.error (.circuitOpen storeService),
      (s.count fun m => { m with breakerRejections := m.breakerRejections + 1 }).countFailure)

/-- Writes a snapshot of a head, unless a later one was written. -/
def saveSnapshot (s : Service) (tick : Nat) (head : Head) : Except FleetError Unit × Service :=
  if head.revision < (s.written.get? head.id).getD 0 then (.ok (), s)
  else
    match s.guarded tick (Store.saveHead head) with
    | (.ok (), s) => (.ok (), { s with written := s.written.insert head.id head.revision })
    | (.error e, s) => (.error e, s)

/-- Writes a snapshot, announces the change whether or not it was written, and gives the head. -/
def finish (s : Service) (tick : Nat) (head : Head) (event : FleetEvent) :
    Except FleetError Head × Service :=
  let (saved, s) := s.saveSnapshot tick head
  (saved.map fun _ => head, s.publish event)

/-! ### Operations -/

/-- The first of some named values that is blank. -/
def blank? (fields : List (String × String)) : Option FleetError :=
  (fields.find? fun f => Text.isBlankText f.2).map fun f => .blankField f.1

/-- Forgets the choices that a registration may change: those for the new model type, and those for the model type
that the head leaves. -/
def forgetRegistration (cache : Cache) (head : Head) (previous : Option Head) : Cache :=
  let cache := cache.invalidateModel head.modelType
  match previous with
  | some p => if p.modelType ≠ head.modelType then cache.invalidateModel p.modelType else cache
  | none => cache

/-- Registers a head, or registers it anew. -/
def register (s : Service) (now : Moment) (q : Registration) : Except FleetError Head × Service :=
  match blank? [("head_id", q.headId), ("endpoint", q.endpoint), ("model_type", q.modelType)] with
  | some e => (.error e, s)
  | none =>
    let previous := s.router.registry.get? q.headId
    let (head, registry) := s.router.registry.register q now.wall
    let s := (s.withRegistry registry).mapCache (forgetRegistration · head previous)
    let s := s.count fun m => { m with registrations := m.registrations + 1 }
    s.finish now.tick head (.registered head)

/-- Forgets the choices that a status report may change. -/
def forgetReport (cache : Cache) (change : StatusChange) : Cache :=
  if change.statusChanged || change.loadChanged then cache.invalidateModel change.current.modelType
  else if !change.current.isActive then cache.invalidateHead change.current.id
  else cache

/-- Takes a status report into account. -/
def update (s : Service) (now : Moment) (q : StatusReport) : Except FleetError Head × Service :=
  match blank? [("head_id", q.headId)] with
  | some e => (.error e, s)
  | none =>
    match s.router.registry.update? q.headId q.status q.currentLoad (q.reportedAt now.wall) with
    | none => (.error (.headNotFound q.headId), s)
    | some (change, registry) =>
      let s := (s.withRegistry registry).mapCache (forgetReport · change)
      let s := s.count fun m => { m with statusUpdates := m.statusUpdates + 1 }
      s.finish now.tick change.current (.statusChanged change.current)

/-- Takes a head out of routing. -/
def deregister (s : Service) (now : Moment) (id : String) : Except FleetError Head × Service :=
  match blank? [("head_id", id)] with
  | some e => (.error e, s)
  | none =>
    match s.router.registry.deactivate? id with
    | none => (.error (.headNotFound id), s)
    | some (change, registry) =>
      let s := (s.withRegistry registry).mapCache (·.invalidateHead id)
      s.finish now.tick change.current (.statusChanged change.current)

/-- Answers a request. A decision that names a head is announced under the identifier `decisionId`. -/
def route (s : Service) (now : Moment) (decisionId : Uuid) (c : Criteria) : Decision × Service :=
  let (decision, router) := s.router.decide c now.tick
  let s := { s with router := router }
  if decision.isEmpty then (decision, s)
  else
    (decision, s.publish
      (.routingDecided decisionId c.modelType decision.headId decision.strategyUsed now.wall))

/-- Replaces the policy, and forgets every choice. -/
def setPolicy (s : Service) (now : Moment) (policy : Policy) : Except FleetError Unit × Service :=
  let s := { s with router := { s.router with policy := policy } }.mapCache (·.clear)
  let (saved, s) := s.guarded now.tick (Store.savePolicy policy)
  (saved, s.publish (.policyUpdated policy.defaultStrategy now.wall))

/-- Finishes the deactivation of a silent head. -/
def finishStale (tick : Nat) (s : Service) (head : Head) : Service :=
  ((s.mapCache (·.invalidateHead head.id)).finish tick head (.statusChanged head)).2

/-- Takes the heads out of routing that have been silent for longer than `timeout`, in whichever order it comes by
them; gives their number. A write that fails does not matter here. -/
def sweep (s : Service) (now : Moment) (timeout : Duration) (order : List String := []) : Nat × Service :=
  let (stale, registry) := s.router.registry.markStale now.wall timeout order
  (stale.length, stale.foldl (finishStale now.tick) (s.withRegistry registry))

/-- Restores heads and policy from the store, as far as they can be read. -/
def bootstrap (s : Service) : BootstrapReport × Service :=
  let (heads, s) := s.call Store.loadHeads
  let (restored, s) := match heads with
    | .ok heads => (heads.length, s.withRegistry (s.router.registry.restore heads))
    | .error _ => (0, s)
  let (policy, s) := s.call Store.loadPolicy
  match policy with
  | .ok (some policy) => (⟨restored, true⟩, { s with router := { s.router with policy := policy } })
  | _ => (⟨restored, false⟩, s)

end Service

/-- A task that looks for silent heads at intervals. -/
structure Sweeper where
  interval : Duration
  /-- How long a head may be silent. -/
  timeout : Duration
  /-- When the heads were looked at last. -/
  lastSweep : Option Nat := none
  deriving DecidableEq

namespace Sweeper

/-- A sweeper, unless the interval or the time of silence is zero. -/
def start? (interval timeout : Duration) : Option Sweeper :=
  if interval = 0 ∨ timeout = 0 then none else some ⟨interval, timeout, none⟩

/-- Whether it is time to look: at once in the beginning, and then after each interval. -/
def isDue (w : Sweeper) (tick : Nat) : Bool :=
  match w.lastSweep with
  | some t => decide (w.interval ≤ tick - t)
  | none => true

/-- Looks for silent heads if it is time to. -/
def run (w : Sweeper) (s : Service) (now : Moment) (order : List String := []) : Sweeper × Service :=
  if w.isDue now.tick then ({ w with lastSweep := some now.tick }, (s.sweep now w.timeout order).2)
  else (w, s)

end Sweeper

end FleetRouting
