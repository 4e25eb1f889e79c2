import FleetRouting.Metrics
import FleetRouting.Registry
import FleetRouting.Routing.Cache
import FleetRouting.Routing.Selection
/-!
# FleetRouting.Routing.Router

**Answering requests.** A remembered choice counts if its head is still known, active and of the model type that
is asked for; otherwise it is forgotten and the strategy is asked. The answer always shows the head as it is
now. A choice that may be repeated is remembered; rotations move the turn of their model type. Routing never
fails: without heads the answer is an empty decision.
-/

namespace FleetRouting

/-- All that routing knows and keeps. -/
structure Router where
  registry : Registry := {}
  policy : Policy := {}
  cache : Cache := {}
  /-- The next turn of the rotation, by model type. -/
  cursors : SortedMap String UInt64 := .empty
  metrics : Metrics := {}
  deriving DecidableEq

namespace Router

/-- The strategy that answers name when the choice was remembered. -/
def cachedName : String := "cached"

/-- The next turn of a model type. -/
def cursor (r : Router) (modelType : String) : UInt64 := (r.cursors.get? modelType).getD 0

/-- Whether a head can be the answer to a request. -/
def serves (h : Head) (c : Criteria) : Bool := h.isActive && h.modelType == c.modelType

/-- The remembered answer to a request, if it still counts. -/
def remembered (r : Router) (c : Criteria) (tick : Nat) : Option Decision × Router :=
  let key := CacheKey.ofCriteria c
  match r.cache.get? key tick with
  | none => (none, r)
  | some id =>
    match r.registry.get? id with
    | some h =>
      if serves h c then
        (some (.ofHead h cachedName "cached decision"),
          { r with metrics := { r.metrics with cacheHits := r.metrics.cacheHits + 1 } })
      else (none, { r with cache := r.cache.remove key })
    | none => (none, { r with cache := r.cache.remove key })

/-- Keeps what has to be kept of a choice. -/
def note (r : Router) (c : Criteria) (strategy : Strategy) (s : Selection) (tick : Nat) : Router :=
  { r with
    cache := if s.cacheable then r.cache.insert (.ofCriteria c) s.head.id tick else r.cache
    metrics := r.metrics.recordDecision ⟨strategy.name, c.modelType, c.regionPreference⟩ }

/-- The answer that the strategy of a request gives. -/
def compute (r : Router) (c : Criteria) (tick : Nat) : Decision × Router :=
  let r := { r with metrics := { r.metrics with cacheMisses := r.metrics.cacheMisses + 1 } }
  let candidates := r.registry.listActive c.modelType
  if candidates.isEmpty then (.none "none" "no available heads for model type", r)
  else
    let strategy := c.effectiveStrategy r.policy.defaultStrategy
    let (selection, turn) := (select strategy candidates c r.policy).run (r.cursor c.modelType)
    let r := { r with cursors := r.cursors.insert c.modelType turn }
    match selection with
    | none => (.none strategy.name "no suitable head found", r)
    | some s => (.ofHead s.head strategy.name s.reason.text, r.note c strategy s tick)

/-- The answer to a request. -/
def decide (r : Router) (c : Criteria) (tick : Nat) : Decision × Router :=
  match r.remembered c tick with
  | (some decision, r) => (decision, r)
  | (none, r) => r.compute c tick

end Router

end FleetRouting
