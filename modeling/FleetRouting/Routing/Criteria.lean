import FleetRouting.Head.Basic
import FleetRouting.Strategy
/-!
# FleetRouting.Routing.Criteria

**What a request asks for, and what it gets.** Criteria name a model type and may prefer a region, name a strategy,
and hint in their metadata at a version, a size or a capability; blank hints do not count. A decision without a
head is the answer when none was found.
-/

namespace FleetRouting

open Text

/-- What a request asks for. -/
structure Criteria where
  modelType : String
  regionPreference : String := ""
  /-- The strategy by name; the policy decides when it is absent or blank. -/
  strategy : Option String := none
  metadata : Metadata := .empty
  deriving DecidableEq, Inhabited

namespace Criteria

/-- The strategy that the request names, without blanks around it. -/
def requestedStrategy? (c : Criteria) : Option String := c.strategy.bind trimmed?

/-- The strategy to use under a default. -/
def effectiveStrategy (c : Criteria) (default : Strategy) : Strategy :=
  match c.requestedStrategy? with
  | some name => .ofName name
  | none => default

/-- A hint that is not blank, without blanks around it. -/
def hint? (c : Criteria) (name : String) : Option String := (c.metadata.get? name).bind trimmed?

/-- The version that is asked for. -/
def modelVersion? (c : Criteria) : Option String := c.hint? "model_version"

/-- The model size that is asked for, as text. -/
def modelSize? (c : Criteria) : Option String := c.hint? "model_size"

/-- The capability that is asked for. -/
def capability? (c : Criteria) : Option String := c.hint? "capability"

end Criteria

/-- The answer to a request. -/
structure Decision where
  /-- The chosen head; empty when there is none. -/
  headId : String
  endpoint : String
  /-- The strategy that chose, or why none did. -/
  strategyUsed : String
  reason : String
  metadata : Metadata
  deriving DecidableEq, Inhabited

namespace Decision

/-- The answer without a head. -/
def none (strategyUsed reason : String) : Decision := ⟨"", "", strategyUsed, reason, .empty⟩

/-- True when no head was chosen. -/
def isEmpty (d : Decision) : Bool := d.headId.isEmpty

/-- The answer that names a head, with what the requester may want to know of it. -/
def ofHead (h : Head) (strategyUsed reason : String) : Decision where
  headId := h.id
  endpoint := h.endpoint
  strategyUsed := strategyUsed
  reason := reason
  metadata := .ofList [("region", h.region), ("model_type", h.modelType), ("version", h.version),
    ("current_load", toString h.currentLoad.toNat)]

end Decision

end FleetRouting
