import FleetRouting.Proofs.Routing.Steady
/-!
# FleetRouting.Proofs.Routing.Renumbering

**Strategies read the order of heads, and not their numbers.** A head without its numbers (`Head.unnumbered`) says
neither where it stands among all heads nor how often they changed. Every strategy picks the same head from candidates
with and without numbers, for the same reason, and takes a turn of the rotation for the one when it does for the other
(`select_unnumbered`).
-/

namespace FleetRouting

/-- A head without its place in the order of registrations and its revision. -/
def Head.unnumbered (h : Head) : Head := { h with sequence := 0, revision := 0 }

/-- A selection of a head without numbers. -/
def Selection.unnumbered (s : Selection) : Selection := { s with head := s.head.unnumbered }

@[simp] theorem Head.unnumbered_unnumbered (h : Head) : h.unnumbered.unnumbered = h.unnumbered := rfl

@[simp] theorem Head.unnumbered_id (h : Head) : h.unnumbered.id = h.id := rfl

@[simp] theorem Head.unnumbered_modelType (h : Head) : h.unnumbered.modelType = h.modelType := rfl

@[simp] theorem Head.unnumbered_isActive (h : Head) : h.unnumbered.isActive = h.isActive := rfl

/-- To lose its numbers is less than to be refreshed. -/
theorem Head.refreshes_unnumbered (h : Head) : h.Refreshes h.unnumbered := ⟨rfl, rfl, rfl, rfl, rfl⟩

/-- An answer does not show numbers. -/
theorem Decision.ofHead_unnumbered (h : Head) (strategyUsed reason : String) :
    ofHead h.unnumbered strategyUsed reason = ofHead h strategyUsed reason := rfl

section

variable {candidates : List Head} {c : Criteria} {p : Policy} {t : Tuning}

/-! ### Rankings -/

theorem geoMatch?_unnumbered (candidates : List Head) (region : String) :
    geoMatch? (candidates.map Head.unnumbered) region = (geoMatch? candidates region).map Head.unnumbered :=
  geoMatch?_map fun _ _ => rfl

theorem Distinct.modelMatch?_unnumbered (h : Distinct candidates) (c : Criteria) (t : Tuning) :
    modelMatch? (candidates.map Head.unnumbered) c t =
      (modelMatch? candidates c t).map fun w => (w.1.unnumbered, w.2) :=
  h.modelMatch?_map fun a _ => ⟨rfl, a.refreshes_unnumbered.modelScore_eq c t⟩

theorem leastLoaded?_unnumbered (candidates : List Head) :
    leastLoaded? (candidates.map Head.unnumbered) = (leastLoaded? candidates).map Head.unnumbered := by
  rw [leastLoaded?, Ranks.firstBest?_measured]
  rfl

theorem lowestProjected?_unnumbered (candidates : List Head) (t : Tuning) :
    lowestProjected? (candidates.map Head.unnumbered) t =
      (lowestProjected? candidates t).map fun w => (w.1.unnumbered, w.2) := by
  have hloads : (candidates.map Head.unnumbered).map (fun h => (h, projectedLoad h t.growthFactor)) =
      (candidates.map fun h => (h, projectedLoad h t.growthFactor)).map fun w => (w.1.unnumbered, w.2) := by
    rw [List.map_map, List.map_map]
    rfl
  rw [lowestProjected?, hloads, Ranks.firstBest?_measured]
  rfl

/-! ### Selections -/

theorem rotate_unnumbered (candidates : List Head) (reason : Reason) (turn : UInt64) :
    (rotate (candidates.map Head.unnumbered) reason).run turn =
      (((rotate candidates reason).run turn).1.map Selection.unnumbered, ((rotate candidates reason).run turn).2) := by
  cases candidates with
  | nil => rfl
  | cons a l =>
      have hrun (a : Head) (l : List Head) : (rotate (a :: l) reason).run turn =
          ((a :: l)[turn.toNat % (a :: l).length]?.map fun h => ⟨h, reason, false⟩, turn + 1) := rfl
      rw [List.map_cons, hrun, hrun, ← List.map_cons, List.length_map, List.getElem?_map, Option.map_map, Option.map_map]
      rfl

theorem selectRegion?_unnumbered (candidates : List Head) (c : Criteria) :
    selectRegion? (candidates.map Head.unnumbered) c = (selectRegion? candidates c).map Selection.unnumbered := by
  rw [selectRegion?, selectRegion?, geoMatch?_unnumbered, Option.map_map, Option.map_map]
  rfl

theorem Distinct.adaptiveModel?_unnumbered (h : Distinct candidates) (c : Criteria) (p : Policy) (t : Tuning) :
    adaptiveModel? (candidates.map Head.unnumbered) c p t =
      (adaptiveModel? candidates c p t).map Selection.unnumbered := by
  simp only [adaptiveModel?, h.modelMatch?_unnumbered]
  split
  · cases modelMatch? candidates c t with
    | none => rfl
    | some w =>
        have hroom : w.1.unnumbered.hasHeadroom t.capacityThreshold = w.1.hasHeadroom t.capacityThreshold := rfl
        simp only [Option.map_some, hroom]
        split <;> rfl
  · rfl

theorem adaptiveRegion?_unnumbered (candidates : List Head) (c : Criteria) (p : Policy) (t : Tuning) :
    adaptiveRegion? (candidates.map Head.unnumbered) c p t =
      (adaptiveRegion? candidates c p t).map Selection.unnumbered := by
  simp only [adaptiveRegion?, geoMatch?_unnumbered]
  split
  · cases geoMatch? candidates c.regionPreference with
    | none => rfl
    | some a =>
        have hroom : a.unnumbered.hasHeadroom t.capacityThreshold = a.hasHeadroom t.capacityThreshold := rfl
        simp only [Option.map_some, hroom]
        split <;> rfl
  · rfl

theorem Distinct.selectAdaptive_unnumbered (h : Distinct candidates) (c : Criteria) (p : Policy) (turn : UInt64) :
    (selectAdaptive (candidates.map Head.unnumbered) c p).run turn =
      (((selectAdaptive candidates c p).run turn).1.map Selection.unnumbered,
        ((selectAdaptive candidates c p).run turn).2) := by
  simp only [selectAdaptive, h.adaptiveModel?_unnumbered, adaptiveRegion?_unnumbered]
  cases adaptiveModel? candidates c p (.ofPolicy p) with
  | some s => rfl
  | none =>
      cases adaptiveRegion? candidates c p (.ofPolicy p) with
      | some s => rfl
      | none =>
          simp only [Option.map_none]
          split
          · rw [lowestProjected?_unnumbered]
            cases lowestProjected? candidates (.ofPolicy p) <;> rfl
          · exact rotate_unnumbered candidates _ turn

/-- **A strategy picks the same head with and without numbers**, and leaves the same turn. -/
theorem Distinct.select_unnumbered (h : Distinct candidates) (strategy : Strategy) (c : Criteria) (p : Policy)
    (turn : UInt64) :
    (select strategy (candidates.map Head.unnumbered) c p).run turn =
      (((select strategy candidates c p).run turn).1.map Selection.unnumbered,
        ((select strategy candidates c p).run turn).2) := by
  cases strategy with
  | roundRobin => exact rotate_unnumbered candidates _ turn
  | leastLoaded =>
      simp only [select, leastLoaded?_unnumbered]
      cases leastLoaded? candidates <;> rfl
  | geoPreferred =>
      simp only [select, selectRegion?_unnumbered]
      cases selectRegion? candidates c with
      | some s => rfl
      | none => exact rotate_unnumbered candidates _ turn
  | modelSpecific =>
      simp only [select, h.modelMatch?_unnumbered]
      cases modelMatch? candidates c (.ofPolicy p) <;> rfl
  | hybrid =>
      simp only [select, selectRegion?_unnumbered, leastLoaded?_unnumbered]
      cases selectRegion? candidates c with
      | some s => rfl
      | none => cases leastLoaded? candidates <;> rfl
  | predictive =>
      simp only [select, lowestProjected?_unnumbered]
      cases lowestProjected? candidates (.ofPolicy p) <;> rfl
  | adaptive => exact h.selectAdaptive_unnumbered c p turn

end

end FleetRouting
