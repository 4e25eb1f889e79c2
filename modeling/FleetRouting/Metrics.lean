import FleetRouting.SortedMap
/-!
# FleetRouting.Metrics

**Counters, and their text for scrapers.** Decisions are counted by strategy, model type and region; the text lists
these counts in the order of the labels. Within quotes a label value has its backslashes, quotes and line breaks
escaped, so that a count stays on its line.
-/

namespace FleetRouting

/-- What a decision is counted under. -/
structure DecisionLabels where
  strategy : String
  modelType : String
  region : String
  deriving DecidableEq, Repr

namespace DecisionLabels

/-- The labels in the order in which they are compared. -/
def toList (l : DecisionLabels) : List String := [l.strategy, l.modelType, l.region]

theorem toList_injective {l m : DecisionLabels} (h : l.toList = m.toList) : l = m := by
  cases l; cases m; simp_all [toList]

instance : LT DecisionLabels := ⟨fun l m => l.toList < m.toList⟩

instance : DecidableLT DecisionLabels := fun l m =>
  inferInstanceAs (Decidable (l.toList < m.toList))

instance : KeyOrder DecisionLabels where
  irrefl l := List.lt_irrefl l.toList
  trans h h' := List.lt_trans h h'
  eq_of_not_lt h h' := toList_injective (List.le_antisymm (List.not_lt.1 h') (List.not_lt.1 h))

end DecisionLabels

/-- How often things happened. -/
structure Metrics where
  registrations : Nat := 0
  statusUpdates : Nat := 0
  cacheHits : Nat := 0
  cacheMisses : Nat := 0
  rateLimited : Nat := 0
  breakerRejections : Nat := 0
  persistenceFailures : Nat := 0
  decisions : SortedMap DecisionLabels Nat := .empty
  deriving DecidableEq

namespace Metrics

/-- How many decisions were counted under some labels. -/
def decisionCount (m : Metrics) (labels : DecisionLabels) : Nat := (m.decisions.get? labels).getD 0

/-- Counts a decision. -/
def recordDecision (m : Metrics) (labels : DecisionLabels) : Metrics :=
  { m with decisions := m.decisions.insert labels (m.decisionCount labels + 1) }

/-! ### The text for scrapers -/

/-- A character within the quotes of a label value. -/
def escapeChar (c : Char) : List Char :=
  match c with
  | '\\' => ['\\', '\\']
  | '"' => ['\\', '"']
  | '\n' => ['\\', 'n']
  | c => [c]

/-- A label value within quotes. -/
def quoted (value : String) : String :=
  String.ofList ('"' :: (value.toList.flatMap escapeChar ++ ['"']))

/-- A metric of one value, with its description and its type. -/
def metric (name help type : String) (value : String) : String :=
  "# HELP " ++ name ++ " " ++ help ++ "\n# TYPE " ++ name ++ " " ++ type ++ "\n" ++ value

/-- A counter without labels. -/
def counter (name help : String) (value : Nat) : String :=
  metric name help "counter" (name ++ " " ++ toString value ++ "\n")

/-- The line of a decision count. -/
def decisionLine (labels : DecisionLabels) (count : Nat) : String :=
  "fleet_decisions_total\x7bstrategy=" ++ quoted labels.strategy ++ ",model_type=" ++
    quoted labels.modelType ++ ",region=" ++ quoted labels.region ++ "\x7d " ++ toString count ++ "\n"

/-- All counters as text. -/
def render (m : Metrics) : String :=
  String.join [
    counter "fleet_registrations_total" "Head registrations" m.registrations,
    counter "fleet_status_updates_total" "Head status updates" m.statusUpdates,
    counter "fleet_cache_hits_total" "Decision cache hits" m.cacheHits,
    counter "fleet_cache_misses_total" "Decision cache misses" m.cacheMisses,
    counter "fleet_rate_limited_total" "Requests rejected by the rate limiter" m.rateLimited,
    counter "fleet_breaker_rejections_total" "Outbound calls rejected by an open circuit"
      m.breakerRejections,
    counter "fleet_persistence_failures_total" "Failed store writes" m.persistenceFailures,
    metric "fleet_decisions_total" "Routing decisions computed" "counter"
      (String.join (m.decisions.toList.map fun e => decisionLine e.1 e.2))]

end Metrics

end FleetRouting
