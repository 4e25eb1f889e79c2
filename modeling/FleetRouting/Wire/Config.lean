import FleetRouting.Config.Basic
import FleetRouting.Json.Basic
/-!
# FleetRouting.Wire.Config

**Settings as JSON.** Every field is written out, also where it has its default; what is absent is `null`.
-/

namespace FleetRouting

open Json

/-- What differs for one guarded service, as JSON. -/
def BreakerOverride.toJson (o : BreakerOverride) : Json := .obj [
  ("threshold", nullable Json.nat o.threshold),
  ("reset_timeout_ms", nullable Json.nat o.resetTimeoutMs)]

/-- What differs for one client, as JSON. -/
def LimitOverride.toJson (o : LimitOverride) : Json := .obj [
  ("threshold", nullable Json.nat o.threshold),
  ("window_secs", nullable Json.nat o.windowSecs),
  ("burst_limit", nullable Json.nat o.burstLimit),
  ("burst_duration_ms", nullable Json.nat o.burstDurationMs)]

/-- A configured key as JSON. -/
def ApiKeyConfig.toJson (k : ApiKeyConfig) : Json := .obj [
  ("key_sha256", .str k.keySha256),
  ("role", .str k.role),
  ("name", nullable Json.str k.name)]

/-- The section `routing` as JSON, with the time to live that follows from it. -/
def RoutingConfig.toJson (c : RoutingConfig) : Json := .obj [
  ("cache_ttl_secs", .nat c.cacheTtlSecs),
  ("cache_ttl", nullable Json.nat c.cacheTtl),
  ("heartbeat_timeout_secs", .nat c.heartbeatTimeoutSecs),
  ("sweep_interval_secs", .nat c.sweepIntervalSecs)]

/-- The section `circuit_breaker` as JSON. -/
def BreakerConfig.toJson (c : BreakerConfig) : Json := .obj [
  ("threshold", .nat c.threshold),
  ("reset_timeout_ms", .nat c.resetTimeoutMs),
  ("overrides", .obj (c.overrides.mapValues BreakerOverride.toJson).toList)]

/-- The section `rate_limit` as JSON. -/
def LimitConfig.toJson (c : LimitConfig) : Json := .obj [
  ("enabled", .bool c.enabled),
  ("threshold", .nat c.threshold),
  ("window_secs", .nat c.windowSecs),
  ("burst_limit", .nat c.burstLimit),
  ("burst_duration_ms", .nat c.burstDurationMs),
  ("overrides", .obj (c.overrides.mapValues LimitOverride.toJson).toList)]

/-- All settings as JSON. -/
def Config.toJson (c : Config) : Json := .obj [
  ("server", .obj [("host", .str c.server.host), ("port", .nat c.server.port)]),
  ("logging", .obj [("level", .str c.logging.level)]),
  ("store", .obj [("backend", .str c.store.backend.name), ("path", .str c.store.path),
    ("timeout_ms", .nat c.store.timeoutMs)]),
  ("routing", c.routing.toJson),
  ("circuit_breaker", c.circuitBreaker.toJson),
  ("rate_limit", c.rateLimit.toJson),
  ("webhooks", .obj [("urls", .array (c.webhooks.urls.map Json.str)),
    ("timeout_ms", .nat c.webhooks.timeoutMs), ("queue_size", .nat c.webhooks.queueSize)]),
  ("auth", .obj [("api_keys", .array (c.auth.apiKeys.map ApiKeyConfig.toJson))])]

end FleetRouting
