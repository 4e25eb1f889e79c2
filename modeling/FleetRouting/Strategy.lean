import FleetRouting.SortedMap
import FleetRouting.Text.Blank
import FleetRouting.Text.Fold
/-!
# FleetRouting.Strategy

**Routing strategies and the policy that chooses among them.** A strategy is named by text in requests and in the
policy; a name that is not known means round robin.
-/

namespace FleetRouting

open Text

/-- How a head is picked for a request. -/
inductive Strategy where
  | roundRobin
  | leastLoaded
  | geoPreferred
  | modelSpecific
  | hybrid
  | predictive
  | adaptive
  deriving DecidableEq, Repr, Inhabited

namespace Strategy

/-- All strategies. -/
def all : List Strategy :=
  [.roundRobin, .leastLoaded, .geoPreferred, .modelSpecific, .hybrid, .predictive, .adaptive]

/-- The name of a strategy. -/
def name : Strategy → String
  | .roundRobin => "round_robin"
  | .leastLoaded => "least_loaded"
  | .geoPreferred => "geo_preferred"
  | .modelSpecific => "model_specific"
  | .hybrid => "hybrid"
  | .predictive => "predictive"
  | .adaptive => "adaptive"

/-- The strategy of a name, whatever its case and the blanks around it; round robin for any other text. -/
def ofName (s : String) : Strategy :=
  let key := fold (trim s)
  (all.find? fun strategy => strategy.name == key).getD .roundRobin

end Strategy

/-- How requests are routed unless they say otherwise. -/
structure Policy where
  /-- The strategy of a request that names none. -/
  defaultStrategy : Strategy := .leastLoaded
  /-- Whether the adaptive strategy looks at regions. -/
  geoRouting : Bool := true
  /-- Whether the adaptive strategy ends with the lowest projected load rather than with rotation. -/
  loadBalancing : Bool := true
  /-- Whether the adaptive strategy begins with the best model match. -/
  modelMatching : Bool := true
  /-- Numbers that strategies read, by name. -/
  tuning : SortedMap String String := .empty
  deriving DecidableEq, Inhabited

end FleetRouting
