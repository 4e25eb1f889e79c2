import FleetRouting.Event.Basic
import FleetRouting.Wire.Routing
/-!
# FleetRouting.Wire.Event

**Events as JSON.** The member `type` names the kind of the event and may stand anywhere among the others; in the
array form it comes first. Because the kind has to be known before the fields, the whole value is read first,
and it has to be sound throughout.
-/

namespace FleetRouting

open Fields Json

/-- An identifier. -/
def Uuid.ofJson (j : Json) : Except Fault Uuid := do
  match Uuid.read? (← text j) with
  | some u => .ok u
  | none => .error .mismatched

/-- An identifier as JSON. -/
def Uuid.toJson (u : Uuid) : Json := .str u.toText

namespace FleetEvent

/-- The fields of an event of some kind, besides the kind. -/
def fields? (kind : String) : Option (Fields Json FleetEvent) :=
  match kind with
  | "head_registered" => some (headRegistered
      <$> required "head_id" text
      <*> required "endpoint" text
      <*> required "model_type" text
      <*> required "region" text
      <*> required "timestamp" timestamp)
  | "head_status_changed" => some (headStatusChanged
      <$> required "head_id" text
      <*> required "status" (heldChoice HeadStatus.names)
      <*> required "current_load" word
      <*> required "timestamp" timestamp)
  | "routing_decided" => some (routingDecided
      <$> required "decision_id" Uuid.ofJson
      <*> required "model_type" text
      <*> required "head_id" text
      <*> required "strategy_used" text
      <*> required "timestamp" timestamp)
  | "policy_updated" => some (policyUpdated
      <$> required "default_strategy" Strategy.ofJson
      <*> required "timestamp" timestamp)
  | _ => none

/-- The event of a kind, from its fields. -/
def ofKind (kind : Json) (body : Json) : Except Fault FleetEvent := do
  match fields? (← text kind) with
  | some fields => record fields body
  | none => .error .mismatched

/-- Whether a member of an object gives the kind. -/
def isKind (member : Option String × Json) : Bool := member.1 == some "type"

/-- An event from JSON. -/
def ofJson (j : Json) : Except Fault FleetEvent :=
  if j.isSound maxDepth then
    match j with
    | .object members =>
      match members.filter isKind with
      | [(_, kind)] => ofKind kind (.object (members.filter fun m => !isKind m))
      | _ => .error .mismatched
    | .array (kind :: rest) => ofKind kind (.array rest)
    | _ => .error .mismatched
  else .error .malformed

/-- The fields of an event as the members of an object. -/
def members : FleetEvent → List (String × Json)
  | .headRegistered headId endpoint modelType region timestamp => [
      ("head_id", .str headId), ("endpoint", .str endpoint), ("model_type", .str modelType),
      ("region", .str region), ("timestamp", ofTimestamp timestamp)]
  | .headStatusChanged headId status currentLoad timestamp => [
      ("head_id", .str headId), ("status", status.toJson), ("current_load", ofWord currentLoad),
      ("timestamp", ofTimestamp timestamp)]
  | .routingDecided decisionId modelType headId strategyUsed timestamp => [
      ("decision_id", decisionId.toJson), ("model_type", .str modelType), ("head_id", .str headId),
      ("strategy_used", .str strategyUsed), ("timestamp", ofTimestamp timestamp)]
  | .policyUpdated defaultStrategy timestamp => [
      ("default_strategy", defaultStrategy.toJson), ("timestamp", ofTimestamp timestamp)]

/-- An event as JSON. -/
def toJson (e : FleetEvent) : Json := .obj (("type", .str e.kind) :: e.members)

end FleetEvent

end FleetRouting
