import FleetRouting.Head.Basic
import FleetRouting.Strategy
import FleetRouting.Uuid
/-!
# FleetRouting.Event.Basic

**What is announced about the fleet.**
-/

namespace FleetRouting

/-- A change of the fleet, or a request that was given a head. -/
inductive FleetEvent where
  | headRegistered (headId endpoint modelType region : String) (timestamp : Timestamp)
  | headStatusChanged (headId : String) (status : HeadStatus) (currentLoad : UInt32)
      (timestamp : Timestamp)
  | routingDecided (decisionId : Uuid) (modelType headId strategyUsed : String)
      (timestamp : Timestamp)
  | policyUpdated (defaultStrategy : Strategy) (timestamp : Timestamp)
  deriving DecidableEq

namespace FleetEvent

/-- The short name of an event. -/
def kind : FleetEvent → String
  | .headRegistered .. => "head_registered"
  | .headStatusChanged .. => "head_status_changed"
  | .routingDecided .. => "routing_decided"
  | .policyUpdated .. => "policy_updated"

/-- The announcement that a head was registered. -/
def registered (h : Head) : FleetEvent :=
  .headRegistered h.id h.endpoint h.modelType h.region h.lastHeartbeat

/-- The announcement of a head's new state. -/
def statusChanged (h : Head) : FleetEvent :=
  .headStatusChanged h.id h.status h.currentLoad h.lastHeartbeat

end FleetEvent

end FleetRouting
