import FleetRouting.Proofs.Wire.Head
import FleetRouting.Wire.Routing
/-!
# FleetRouting.Proofs.Wire.Routing

**A policy decodes from the text it is stored as** (`Policy.decodeText_toText`), since every strategy is found by its name,
and a decision from its own (`Decision.yields_toJson`).
-/

namespace FleetRouting

open Json

@[simp] theorem Strategy.ofName_name (s : Strategy) : ofName s.name = s := by
  cases s <;> decide +kernel

theorem Strategy.yields_toJson (s : Strategy) : Yields Strategy.ofJson s.toJson s := by
  refine yields_of_isScalar trivial ?_
  simp [Strategy.ofJson, Strategy.toJson, Except.map]

theorem Json.yields_flag (b : Bool) : Yields flag (.bool b) b := yields_of_isScalar trivial rfl

namespace Policy

open Fields.Reads in
/-- **The fields of a policy take back its values,** in any order. -/
theorem yields_toJson (p : Policy) : Yields Policy.ofJson p.toJson p := by
  have hreads : Policy.fields.Reads _ p := ((((map Policy.mk (required p.defaultStrategy.yields_toJson)).seq
    (optional (yields_flag p.geoRouting))).seq
    (optional (yields_flag p.loadBalancing))).seq
    (optional (yields_flag p.modelMatching))).seq
    (optional (yields_metadata p.tuning))
  have hnames : ["default_strategy", "enable_geo_routing", "enable_load_balancing", "enable_model_specific",
      "strategy_config"].Nodup := by decide
  exact hreads.record hnames

theorem plain_toJson (p : Policy) : p.toJson.Plain := by
  refine plain_obj fun m hm => ?_
  simp only [List.mem_cons, List.not_mem_nil, or_false] at hm
  rcases hm with rfl | rfl | rfl | rfl | rfl
  · exact plain_str _
  · trivial
  · trivial
  · trivial
  · exact plain_metadata p.tuning

/-- **A policy decodes from its text,** in whatever order that was written. -/
theorem survives (p : Policy) : p.toJson.Survives Policy.ofJson p := p.yields_toJson.survives p.plain_toJson

theorem decodeText_toText (p : Policy) : decodeText Policy.ofJson p.toJson.toText = .ok p := p.survives.decodeText_eq

end Policy

namespace Decision

open Fields.Reads in
/-- **The fields of a decision take back its values,** in any order. -/
theorem yields_toJson (d : Decision) : Yields Decision.ofJson d.toJson d := by
  have hreads : Decision.fields.Reads _ d := ((((map Decision.mk (required (yields_str d.headId))).seq
    (required (yields_str d.endpoint))).seq
    (required (yields_str d.strategyUsed))).seq
    (required (yields_str d.reason))).seq
    (optional (yields_metadata d.metadata))
  have hnames : ["head_id", "endpoint", "strategy_used", "reason", "metadata"].Nodup := by decide
  exact hreads.record hnames

theorem plain_toJson (d : Decision) : d.toJson.Plain := by
  refine plain_obj fun m hm => ?_
  simp only [List.mem_cons, List.not_mem_nil, or_false] at hm
  rcases hm with rfl | rfl | rfl | rfl | rfl
  case inr.inr.inr.inr => exact plain_metadata d.metadata
  all_goals exact plain_str _

end Decision

end FleetRouting
