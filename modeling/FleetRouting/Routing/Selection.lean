import FleetRouting.Binary64.Printer
import FleetRouting.Routing.Ranking
/-!
# FleetRouting.Routing.Selection

**Picking a head by strategy.** The candidates are the active heads of the model type in registration order. The
only state is the turn of the rotation, which moves on exactly when a head is picked by rotation; such a pick is
not to be remembered, while every other pick depends on its arguments alone.
-/

namespace FleetRouting

/-- Why a head was picked. -/
inductive Reason where
  | rotation
  | lowestLoad (load : UInt32)
  | region (name : String)
  | rotationWithoutRegion
  | modelMatch (score : Nat)
  | lowestLoadWithoutRegion (load : UInt32)
  | projectedLoad (load : Binary64)
  | adaptiveModel (score : Nat)
  | adaptiveRegion (name : String)
  | adaptiveProjected (load : Binary64)
  | adaptiveRotation
  deriving DecidableEq

/-- A reason in words. -/
def Reason.text : Reason → String
  | .rotation => "round robin rotation"
  | .lowestLoad load => "lowest current load (" ++ toString load.toNat ++ ")"
  | .region name => "matched preferred region " ++ name
  | .rotationWithoutRegion => "no head in preferred region, round robin fallback"
  | .modelMatch score => "best model match (score " ++ toString score ++ ")"
  | .lowestLoadWithoutRegion load =>
    "no regional match, lowest current load (" ++ toString load.toNat ++ ")"
  | .projectedLoad load => "lowest projected load (" ++ load.toFixedText ++ ")"
  | .adaptiveModel score => "adaptive: model match with headroom (score " ++ toString score ++ ")"
  | .adaptiveRegion name => "adaptive: preferred region " ++ name ++ " with headroom"
  | .adaptiveProjected load => "adaptive: lowest projected load (" ++ load.toFixedText ++ ")"
  | .adaptiveRotation => "adaptive: round robin rotation"

/-- A picked head. -/
structure Selection where
  head : Head
  reason : Reason
  /-- Whether the same request may be given the same head again without asking. -/
  cacheable : Bool
  deriving DecidableEq

/-- Computations that may take turns in a rotation. The turn counts up and wraps around. -/
abbrev Rotation := StateM UInt64

/-- The present turn; the next one comes after it. -/
def takeTurn : Rotation UInt64 := fun turn => (turn, turn + 1)

/-- The candidate whose turn it is. Without candidates no turn is taken. -/
def roundRobin (candidates : List Head) : Rotation (Option Head) :=
  if candidates.isEmpty then pure none
  else do
    let turn ← takeTurn
    return candidates[turn.toNat % candidates.length]?

/-- The candidate whose turn it is, as a selection. -/
def rotate (candidates : List Head) (reason : Reason) : Rotation (Option Selection) := do
  return (← roundRobin candidates).map fun h => ⟨h, reason, false⟩

/-- A selection that needs no turn. -/
def settle (h : Head) (reason : Reason) : Selection := ⟨h, reason, true⟩

/-- The candidate in the preferred region with the reason for it. -/
def selectRegion? (candidates : List Head) (c : Criteria) : Option Selection :=
  (geoMatch? candidates c.regionPreference).map fun h => settle h (.region c.regionPreference)

/-- The best model match, if the policy asks for one and it has headroom. -/
def adaptiveModel? (candidates : List Head) (c : Criteria) (p : Policy) (t : Tuning) :
    Option Selection :=
  if p.modelMatching then
    match modelMatch? candidates c t with
    | some (h, score) =>
      if h.hasHeadroom t.capacityThreshold then some (settle h (.adaptiveModel score)) else none
    | none => none
  else none

/-- The candidate in the preferred region, if the policy asks for one and it has headroom. -/
def adaptiveRegion? (candidates : List Head) (c : Criteria) (p : Policy) (t : Tuning) :
    Option Selection :=
  if p.geoRouting then
    match geoMatch? candidates c.regionPreference with
    | some h =>
      if h.hasHeadroom t.capacityThreshold then some (settle h (.adaptiveRegion c.regionPreference))
      else none
    | none => none
  else none

/-- The first of a model match, a region and, as the policy says, the lowest projected load or rotation. -/
def selectAdaptive (candidates : List Head) (c : Criteria) (p : Policy) :
    Rotation (Option Selection) :=
  let t := Tuning.ofPolicy p
  match adaptiveModel? candidates c p t with
  | some s => return some s
  | none =>
    match adaptiveRegion? candidates c p t with
    | some s => return some s
    | none =>
      if p.loadBalancing then
        return (lowestProjected? candidates t).map fun (h, load) => settle h (.adaptiveProjected load)
      else rotate candidates .adaptiveRotation

/-- The head that a strategy picks among the candidates. -/
def select (strategy : Strategy) (candidates : List Head) (c : Criteria) (p : Policy) :
    Rotation (Option Selection) :=
  let t := Tuning.ofPolicy p
  match strategy with
  | .roundRobin => rotate candidates .rotation
  | .leastLoaded =>
    return (leastLoaded? candidates).map fun h => settle h (.lowestLoad h.currentLoad)
  | .geoPreferred =>
    match selectRegion? candidates c with
    | some s => return some s
    | none => rotate candidates .rotationWithoutRegion
  | .modelSpecific =>
    return (modelMatch? candidates c t).map fun (h, score) => settle h (.modelMatch score)
  | .hybrid =>
    match selectRegion? candidates c with
    | some s => return some s
    | none =>
      return (leastLoaded? candidates).map fun h => settle h (.lowestLoadWithoutRegion h.currentLoad)
  | .predictive =>
    return (lowestProjected? candidates t).map fun (h, load) => settle h (.projectedLoad load)
  | .adaptive => selectAdaptive candidates c p

end FleetRouting
