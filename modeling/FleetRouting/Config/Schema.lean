import FleetRouting.BitSpan
import FleetRouting.Config.Basic
import FleetRouting.Schema.Fields
/-!
# FleetRouting.Config.Schema

**How settings are decoded, from any source.** Every section and nearly every field may be left out; names that are
not known are passed over.
-/

namespace FleetRouting

open Fields Source

variable {σ : Type} [Source σ]

/-- A number of 64 bits. -/
def long : Decoder σ Nat := natural (bitSpan 64)

/-- A number of 32 bits. -/
def word32 : Decoder σ Nat := natural (bitSpan 32)

/-- The section `server`. -/
def ServerConfig.decode : Decoder σ ServerConfig := record <|
  ServerConfig.mk
    <$> optional "host" "0.0.0.0" text
    <*> optional "port" 8090 (natural (bitSpan 16))

/-- The section `logging`. -/
def LoggingConfig.decode : Decoder σ LoggingConfig := record <|
  LoggingConfig.mk <$> optional "level" "info" text

/-- The section `store`. -/
def StoreConfig.decode : Decoder σ StoreConfig := record <|
  StoreConfig.mk
    <$> optional "backend" .memory (choice StoreKind.names)
    <*> optional "path" "./data/fleet.db" text
    <*> optional "timeout_ms" 2000 long

/-- The section `routing`. -/
def RoutingConfig.decode : Decoder σ RoutingConfig := record <|
  RoutingConfig.mk
    <$> optional "cache_ttl_secs" 0 long
    <*> optional "heartbeat_timeout_secs" 90 long
    <*> optional "sweep_interval_secs" 15 long

/-- What differs for one guarded service. -/
def BreakerOverride.decode : Decoder σ BreakerOverride := record <|
  BreakerOverride.mk
    <$> optional "threshold" none (nullable word32)
    <*> optional "reset_timeout_ms" none (nullable long)

/-- The section `circuit_breaker`. -/
def BreakerConfig.decode : Decoder σ BreakerConfig := record <|
  BreakerConfig.mk
    <$> optional "threshold" 5 word32
    <*> optional "reset_timeout_ms" 30000 long
    <*> optional "overrides" .empty (dict BreakerOverride.decode)

/-- What differs for one client. -/
def LimitOverride.decode : Decoder σ LimitOverride := record <|
  LimitOverride.mk
    <$> optional "threshold" none (nullable word32)
    <*> optional "window_secs" none (nullable long)
    <*> optional "burst_limit" none (nullable word32)
    <*> optional "burst_duration_ms" none (nullable long)

/-- The section `rate_limit`. -/
def LimitConfig.decode : Decoder σ LimitConfig := record <|
  LimitConfig.mk
    <$> optional "enabled" true flag
    <*> optional "threshold" 100 word32
    <*> optional "window_secs" 60 long
    <*> optional "burst_limit" 20 word32
    <*> optional "burst_duration_ms" 1000 long
    <*> optional "overrides" .empty (dict LimitOverride.decode)

/-- The section `webhooks`. -/
def WebhookConfig.decode : Decoder σ WebhookConfig := record <|
  WebhookConfig.mk
    <$> optional "urls" [] (list text)
    <*> optional "timeout_ms" 5000 long
    <*> optional "queue_size" 1024 long

/-- A configured key. -/
def ApiKeyConfig.decode : Decoder σ ApiKeyConfig := record <|
  ApiKeyConfig.mk
    <$> required "key_sha256" text
    <*> required "role" text
    <*> optional "name" none (nullable text)

/-- The section `auth`. -/
def AuthConfig.decode : Decoder σ AuthConfig := record <|
  AuthConfig.mk <$> optional "api_keys" [] (list ApiKeyConfig.decode)

/-- All settings. -/
def Config.decode : Decoder σ Config := record <|
  Config.mk
    <$> optional "server" {} ServerConfig.decode
    <*> optional "logging" {} LoggingConfig.decode
    <*> optional "store" {} StoreConfig.decode
    <*> optional "routing" {} RoutingConfig.decode
    <*> optional "circuit_breaker" {} BreakerConfig.decode
    <*> optional "rate_limit" {} LimitConfig.decode
    <*> optional "webhooks" {} WebhookConfig.decode
    <*> optional "auth" {} AuthConfig.decode

end FleetRouting
