import FleetRouting.Json.Basic
import FleetRouting.Service
/-!
# FleetRouting.Http.Report

**What the service says about itself.**
-/

namespace FleetRouting.Service

/-- The version of the service. -/
def version : String := "0.1.0"

/-- The state of the service as JSON. It is degraded while the circuit of the store is not closed. -/
def health (s : Service) : Json :=
  let circuit := s.breaker.state storeService
  .obj [
    ("status", .str (if circuit = .closed then "ok" else "degraded")),
    ("version", .str version),
    ("heads", .nat s.router.registry.count),
    ("active_heads", .nat s.router.registry.activeCount),
    ("store_circuit", .str circuit.name)]

/-- A measure of one value that may go up and down. -/
def gauge (name help value : String) : String := Metrics.metric name help "gauge" (value ++ "\n")

/-- The measures of the service and its counters, as text for scrapers. -/
def measures (s : Service) : String :=
  String.join [
    gauge "fleet_up" "Whether the service is up" "fleet_up 1",
    gauge "fleet_info" "Service information"
      ("fleet_info\x7bversion=" ++ Metrics.quoted version ++ "\x7d 1"),
    gauge "fleet_heads" "Registered heads" ("fleet_heads " ++ toString s.router.registry.count),
    gauge "fleet_active_heads" "Heads currently in rotation"
      ("fleet_active_heads " ++ toString s.router.registry.activeCount),
    s.router.metrics.render]

end FleetRouting.Service
