import FleetRouting.SortedMap
/-!
# FleetRouting.Config.Basic

**Settings of the service, with their defaults.** Times are kept in the unit that their field names; a cache time
to live of zero means none.
-/

namespace FleetRouting

/-- Where the service listens. -/
structure ServerConfig where
  host : String := "0.0.0.0"
  port : Nat := 8090
  deriving DecidableEq

/-- What is logged. -/
structure LoggingConfig where
  level : String := "info"
  deriving DecidableEq

/-- The kinds of store. -/
inductive StoreKind where
  | memory
  | sqlite
  deriving DecidableEq

/-- Every kind of store with its name. -/
def StoreKind.names : List (String × StoreKind) := [("memory", .memory), ("sqlite", .sqlite)]

/-- The name of a kind of store. -/
def StoreKind.name : StoreKind → String
  | .memory => "memory"
  | .sqlite => "sqlite"

/-- Which store is used. -/
structure StoreConfig where
  backend : StoreKind := .memory
  path : String := "./data/fleet.db"
  /-- How long a call may take. -/
  timeoutMs : Nat := 2000
  deriving DecidableEq

/-- How choices are remembered and silent heads found. -/
structure RoutingConfig where
  cacheTtlSecs : Nat := 0
  heartbeatTimeoutSecs : Nat := 90
  sweepIntervalSecs : Nat := 15
  deriving DecidableEq

/-- How long a choice is remembered, in seconds. -/
def RoutingConfig.cacheTtl (c : RoutingConfig) : Option Nat :=
  if 0 < c.cacheTtlSecs then some c.cacheTtlSecs else none

/-- What differs for one guarded service. -/
structure BreakerOverride where
  threshold : Option Nat := none
  resetTimeoutMs : Option Nat := none
  deriving DecidableEq

/-- When circuits open, and how long they stay open. -/
structure BreakerConfig where
  threshold : Nat := 5
  resetTimeoutMs : Nat := 30000
  /-- By name of the guarded service. -/
  overrides : SortedMap String BreakerOverride := .empty
  deriving DecidableEq

/-- What differs for one client. -/
structure LimitOverride where
  threshold : Option Nat := none
  windowSecs : Option Nat := none
  burstLimit : Option Nat := none
  burstDurationMs : Option Nat := none
  deriving DecidableEq

/-- How many requests clients may make. -/
structure LimitConfig where
  enabled : Bool := true
  threshold : Nat := 100
  windowSecs : Nat := 60
  burstLimit : Nat := 20
  burstDurationMs : Nat := 1000
  /-- By client. -/
  overrides : SortedMap String LimitOverride := .empty
  deriving DecidableEq

/-- Where events are posted. -/
structure WebhookConfig where
  urls : List String := []
  timeoutMs : Nat := 5000
  queueSize : Nat := 1024
  deriving DecidableEq

/-- A key that callers may present: the digest of its token, the role by name, and a name for it. -/
structure ApiKeyConfig where
  keySha256 : String
  role : String
  name : Option String := none
  deriving DecidableEq

/-- The keys that callers may present; with none, everybody may do everything. -/
structure AuthConfig where
  apiKeys : List ApiKeyConfig := []
  deriving DecidableEq

/-- All settings. -/
structure Config where
  server : ServerConfig := {}
  logging : LoggingConfig := {}
  store : StoreConfig := {}
  routing : RoutingConfig := {}
  circuitBreaker : BreakerConfig := {}
  rateLimit : LimitConfig := {}
  webhooks : WebhookConfig := {}
  auth : AuthConfig := {}
  deriving DecidableEq

end FleetRouting
