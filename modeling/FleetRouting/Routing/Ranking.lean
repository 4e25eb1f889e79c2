import FleetRouting.Routing.Criteria
/-!
# FleetRouting.Routing.Ranking

**Orders on heads.** Three measures rank the candidates of a request: the current load, the match with the model
that is asked for, and the load projected from the recent ones. Equal heads are told apart by the smaller
identifier, so a ranking does not depend on the order of the candidates.
-/

namespace FleetRouting

open Text

/-- The numbers that strategies read from the policy. -/
structure Tuning where
  /-- The part of its capacity that a head may carry and still have headroom. -/
  capacityThreshold : Binary64
  /-- How much more than the recent mean is expected. -/
  growthFactor : Binary64
  deriving DecidableEq

namespace Tuning

/-- The threshold of a policy that names none: eight tenths. -/
def defaultThreshold : Binary64 := .ofDecimal false 8 (-1)

/-- The growth of a policy that names none: a tenth on top. -/
def defaultGrowth : Binary64 := .ofDecimal false 11 (-1)

/-- The positive finite number under a name, or else a default. -/
def number (values : SortedMap String String) (name : String) (default : Binary64) : Binary64 :=
  match (values.get? name).bind fun s => Binary64.read? (trim s) with
  | some v => if v.isFinite && Binary64.zero.lt v then v else default
  | none => default

/-- The numbers of a policy. -/
def ofPolicy (p : Policy) : Tuning where
  capacityThreshold := number p.tuning "capacity_threshold" defaultThreshold
  growthFactor := number p.tuning "growth_factor" defaultGrowth

end Tuning

/-- The first element that no other is strictly better than, where `better a b` prefers `a`. -/
def firstBest? {α : Type} (better : α → α → Bool) : List α → Option α
  | [] => none
  | a :: rest => some (rest.foldl (fun best b => if better b best then b else best) a)

/-- The candidate with the lowest load; of equal loads, with the smallest identifier. -/
def leastLoaded? (candidates : List Head) : Option Head :=
  firstBest? (fun a b => a.currentLoad < b.currentLoad ||
    (a.currentLoad == b.currentLoad && decide (a.id < b.id))) candidates

/-- The first candidate in a region; none when no region is given. -/
def geoMatch? (candidates : List Head) (region : String) : Option Head :=
  if region.isEmpty then none else candidates.find? fun h => h.region == region

/-- Three points for the very version that is asked for, two for one that begins with it. -/
def versionScore (h : Head) (c : Criteria) : Nat :=
  match c.modelVersion? with
  | some wanted =>
    if h.version = wanted then 3
    else if (dropStart? wanted.toList h.version.toList).isSome then 2 else 0
  | none => 0

/-- Two points for accepting models of the size that is asked for. -/
def sizeScore (h : Head) (c : Criteria) : Nat :=
  match c.modelSize?.bind ModelSize.read?, h.maxModelSize? with
  | some wanted, some largest => if wanted.le largest then 2 else 0
  | _, _ => 0

/-- Two points for the capability that is asked for. -/
def capabilityScore (h : Head) (c : Criteria) : Nat :=
  match c.capability? with
  | some wanted => if h.hasCapability wanted then 2 else 0
  | none => 0

/-- How well a head matches the model that is asked for; headroom counts one point. -/
def modelScore (h : Head) (c : Criteria) (t : Tuning) : Nat :=
  versionScore h c + sizeScore h c + capabilityScore h c +
    (if h.hasHeadroom t.capacityThreshold then 1 else 0)

/-- The best element where later ones win ties: `worse a b` means that `b` is better than `a`. -/
def lastBest? {α : Type} (worse : α → α → Bool) : List α → Option α
  | [] => none
  | a :: rest => some (rest.foldl (fun best b => if worse b best then best else b) a)

/-- The candidate with the highest score and that score; of equal scores, with the smallest identifier. -/
def modelMatch? (candidates : List Head) (c : Criteria) (t : Tuning) : Option (Head × Nat) :=
  lastBest? (fun a b => decide (a.2 < b.2) || (a.2 == b.2 && decide (b.1.id < a.1.id)))
    (candidates.map fun h => (h, modelScore h c t))

/-- The load to expect: the recent mean grown by the factor, and at least the current load. -/
def projectedLoad (h : Head) (growth : Binary64) : Binary64 :=
  match h.averageLoad? with
  | some mean => (mean * growth).max h.load
  | none => h.load

/-- The candidate with the lowest projected load and that load; of equal ones, with the smallest
identifier. -/
def lowestProjected? (candidates : List Head) (t : Tuning) : Option (Head × Binary64) :=
  firstBest? (fun a b => a.2.lt b.2 || (!b.2.lt a.2 && decide (a.1.id < b.1.id)))
    (candidates.map fun h => (h, projectedLoad h t.growthFactor))

end FleetRouting
