import FleetRouting.Routing.Criteria
import FleetRouting.Wire.Head
/-!
# FleetRouting.Wire.Routing

**Policies, criteria, decisions and plain answers as JSON.**
-/

namespace FleetRouting

open Fields Json

/-- A strategy from its name; every text names one. -/
def Strategy.ofJson (j : Json) : Except Fault Strategy := (text j).map Strategy.ofName

/-- A strategy as JSON. -/
def Strategy.toJson (s : Strategy) : Json := .str s.name

/-- The fields of a policy. -/
def Policy.fields : Fields Json Policy :=
  Policy.mk
    <$> required "default_strategy" Strategy.ofJson
    <*> optional "enable_geo_routing" true flag
    <*> optional "enable_load_balancing" true flag
    <*> optional "enable_model_specific" true flag
    <*> optional "strategy_config" .empty Json.metadata

/-- A policy from JSON. -/
def Policy.ofJson : Json → Except Fault Policy := record Policy.fields

/-- A policy as JSON. -/
def Policy.toJson (p : Policy) : Json := .obj [
  ("default_strategy", p.defaultStrategy.toJson),
  ("enable_geo_routing", .bool p.geoRouting),
  ("enable_load_balancing", .bool p.loadBalancing),
  ("enable_model_specific", .bool p.modelMatching),
  ("strategy_config", ofMetadata p.tuning)]

/-- The fields of criteria. -/
def Criteria.fields : Fields Json Criteria :=
  Criteria.mk
    <$> required "model_type" text
    <*> optional "region_preference" "" text
    <*> optional "strategy" none (orNull text)
    <*> optional "metadata" .empty Json.metadata

/-- Criteria from JSON. -/
def Criteria.ofJson : Json → Except Fault Criteria := record Criteria.fields

/-- Criteria as JSON. -/
def Criteria.toJson (c : Criteria) : Json := .obj [
  ("model_type", .str c.modelType),
  ("region_preference", .str c.regionPreference),
  ("strategy", nullable Json.str c.strategy),
  ("metadata", ofMetadata c.metadata)]

/-- The fields of a decision. -/
def Decision.fields : Fields Json Decision :=
  Decision.mk
    <$> required "head_id" text
    <*> required "endpoint" text
    <*> required "strategy_used" text
    <*> required "reason" text
    <*> optional "metadata" .empty Json.metadata

/-- A decision from JSON. -/
def Decision.ofJson : Json → Except Fault Decision := record Decision.fields

/-- A decision as JSON. -/
def Decision.toJson (d : Decision) : Json := .obj [
  ("head_id", .str d.headId),
  ("endpoint", .str d.endpoint),
  ("strategy_used", .str d.strategyUsed),
  ("reason", .str d.reason),
  ("metadata", ofMetadata d.metadata)]

/-- The answer to an operation: whether it was done, and a message. -/
structure Acknowledgement where
  success : Bool
  message : String
  deriving DecidableEq

/-- The fields of an acknowledgement. -/
def Acknowledgement.fields : Fields Json Acknowledgement :=
  Acknowledgement.mk <$> required "success" flag <*> required "message" text

/-- An acknowledgement from JSON. -/
def Acknowledgement.ofJson : Json → Except Fault Acknowledgement := record Acknowledgement.fields

/-- An acknowledgement as JSON. -/
def Acknowledgement.toJson (a : Acknowledgement) : Json :=
  .obj [("success", .bool a.success), ("message", .str a.message)]

end FleetRouting
