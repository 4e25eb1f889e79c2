import FleetRouting.BitSpan
import FleetRouting.Head.Basic
import FleetRouting.Json.Decode
import FleetRouting.Time.Rfc3339
/-!
# FleetRouting.Wire.Head

**Heads, registrations and status reports as JSON.** Field names are those of the interface; fields that may be
left out stand with their defaults. Fields are listed in the order of their array form.
-/

namespace FleetRouting

open Fields Json

/-- A number of 32 bits. -/
def Json.word (j : Json) : Except Fault UInt32 := (natural (bitSpan 32) j).map UInt32.ofNat

/-- A number of 32 bits as JSON. -/
def Json.ofWord (n : UInt32) : Json := .nat n.toNat

/-- A point of time. -/
def Json.timestamp (j : Json) : Except Fault Timestamp := do
  match Timestamp.read? (← text j) with
  | some t => .ok t
  | none => .error .mismatched

/-- A point of time as JSON. -/
def Json.ofTimestamp (t : Timestamp) : Json := .str t.toText

/-- Text values by name. -/
def Json.metadata : Json → Except Fault Metadata := dict text

/-- Text values by name as JSON. -/
def Json.ofMetadata (m : Metadata) : Json := .obj (m.mapValues Json.str).toList

/-- The status of a head. -/
def HeadStatus.ofJson : Json → Except Fault HeadStatus := choice HeadStatus.names

/-- The status of a head as JSON. -/
def HeadStatus.toJson (s : HeadStatus) : Json := .str s.name

/-- The fields of a head. -/
def Head.fields : Fields Json Head :=
  Head.mk
    <$> required "head_id" text
    <*> required "endpoint" text
    <*> required "status" HeadStatus.ofJson
    <*> required "current_load" word
    <*> optional "load_history" [] (list word)
    <*> required "region" text
    <*> required "model_type" text
    <*> required "version" text
    <*> optional "metadata" .empty Json.metadata
    <*> required "last_heartbeat" timestamp
    <*> required "registered_at" timestamp
    <*> optional "sequence" 0 (natural (bitSpan 64))
    <*> optional "revision" 0 (natural (bitSpan 64))

/-- A head from JSON. -/
def Head.ofJson : Json → Except Fault Head := record Head.fields

/-- A head as JSON. -/
def Head.toJson (h : Head) : Json := .obj [
  ("head_id", .str h.id),
  ("endpoint", .str h.endpoint),
  ("status", h.status.toJson),
  ("current_load", ofWord h.currentLoad),
  ("load_history", .array (h.loadHistory.map ofWord)),
  ("region", .str h.region),
  ("model_type", .str h.modelType),
  ("version", .str h.version),
  ("metadata", ofMetadata h.metadata),
  ("last_heartbeat", ofTimestamp h.lastHeartbeat),
  ("registered_at", ofTimestamp h.registeredAt),
  ("sequence", .nat h.sequence),
  ("revision", .nat h.revision)]

/-- The fields of a registration. -/
def Registration.fields : Fields Json Registration :=
  Registration.mk
    <$> required "head_id" text
    <*> required "endpoint" text
    <*> required "model_type" text
    <*> optional "region" "" text
    <*> optional "version" "" text
    <*> optional "metadata" .empty Json.metadata
    <*> optional "current_load" 0 word

/-- A registration from JSON. -/
def Registration.ofJson : Json → Except Fault Registration := record Registration.fields

/-- A registration as JSON. -/
def Registration.toJson (q : Registration) : Json := .obj [
  ("head_id", .str q.headId),
  ("endpoint", .str q.endpoint),
  ("model_type", .str q.modelType),
  ("region", .str q.region),
  ("version", .str q.version),
  ("metadata", ofMetadata q.metadata),
  ("current_load", ofWord q.currentLoad)]

/-- The fields of the body of a status report. -/
def StatusBody.fields : Fields Json StatusBody :=
  StatusBody.mk
    <$> required "status" HeadStatus.ofJson
    <*> optional "current_load" 0 word
    <*> optional "timestamp" none (orNull Source.integer)

/-- The body of a status report from JSON. -/
def StatusBody.ofJson : Json → Except Fault StatusBody := record StatusBody.fields

/-- The body of a status report as the members of an object. -/
def StatusBody.members (r : StatusBody) : List (String × Json) := [
  ("status", r.status.toJson),
  ("current_load", ofWord r.currentLoad),
  ("timestamp", nullable Json.int r.timestamp)]

/-- The body of a status report as JSON. -/
def StatusBody.toJson (r : StatusBody) : Json := .obj r.members

/-- The fields of a status report. -/
def StatusReport.fields : Fields Json StatusReport :=
  (fun id body => ⟨body, id⟩) <$> required "head_id" text <*> StatusBody.fields

/-- A status report from JSON. -/
def StatusReport.ofJson : Json → Except Fault StatusReport := record StatusReport.fields

/-- A status report as JSON. -/
def StatusReport.toJson (r : StatusReport) : Json :=
  .obj (("head_id", .str r.headId) :: r.toStatusBody.members)

end FleetRouting
