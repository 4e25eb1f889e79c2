import FleetRouting.Proofs.Routing.CacheKey
import FleetRouting.Proofs.Routing.Ranking
import FleetRouting.Routing.Selection
import Mathlib.Data.List.Find
/-!
# FleetRouting.Proofs.Routing.Steady

**Strategies whose choice is the best or the first candidate.** A steady choice (`steadyPick?`) takes no turn and reads
of a candidate only what a repeated report leaves alone. So it stays when other candidates leave, moves along when
candidates are refreshed, and is the same for requests of one key.
-/

namespace FleetRouting

/-- The strategies with a steady choice. A model match is steady only for requests that name no size, since a key does
not tell the sizes themselves apart. -/
def Strategy.IsSteady (strategy : Strategy) (c : Criteria) : Prop :=
  match strategy with
  | .leastLoaded => True
  | .geoPreferred => True
  | .hybrid => True
  | .modelSpecific => c.modelSize? = none
  | _ => False

/-- The choice of a strategy as far as it is not by rotation. -/
def steadyPick? (strategy : Strategy) (candidates : List Head) (c : Criteria) (p : Policy) : Option Head :=
  match strategy with
  | .leastLoaded => leastLoaded? candidates
  | .geoPreferred => geoMatch? candidates c.regionPreference
  | .hybrid => (geoMatch? candidates c.regionPreference).or (leastLoaded? candidates)
  | .modelSpecific => (modelMatch? candidates c (.ofPolicy p)).map Prod.fst
  | _ => none

/-- A rotation is never to be repeated. -/
theorem not_cacheable_of_rotate {candidates : List Head} {reason : Reason} {turn : UInt64} {s : Selection}
    (h : ((rotate candidates reason).run turn).1 = some s) : s.cacheable = false := by
  unfold rotate roundRobin at h
  split at h
  · cases h
  · obtain ⟨_, -, rfl⟩ := Option.map_eq_some_iff.1 h
    rfl

theorem selectRegion?_eq_some {candidates : List Head} {c : Criteria} {s : Selection}
    (h : selectRegion? candidates c = some s) : geoMatch? candidates c.regionPreference = some s.head := by
  obtain ⟨_, hmatch, rfl⟩ := Option.map_eq_some_iff.1 h
  exact hmatch

theorem selectRegion?_eq_none {candidates : List Head} {c : Criteria} (h : selectRegion? candidates c = none) :
    geoMatch? candidates c.regionPreference = none :=
  Option.map_eq_none_iff.1 h

/-- What may be repeated of a steady strategy is its steady choice. -/
theorem steadyPick?_of_select {strategy : Strategy} {candidates : List Head} {c : Criteria} {p : Policy}
    {turn : UInt64} {s : Selection} (hsteady : strategy.IsSteady c)
    (hselect : ((select strategy candidates c p).run turn).1 = some s) (hcacheable : s.cacheable) :
    steadyPick? strategy candidates c p = some s.head := by
  cases strategy with
  | leastLoaded =>
      obtain ⟨_, hbest, rfl⟩ := Option.map_eq_some_iff.1 hselect
      exact hbest
  | geoPreferred =>
      simp only [select] at hselect
      cases hregion : selectRegion? candidates c with
      | some s' =>
          rw [hregion] at hselect
          obtain rfl := Option.some.inj hselect
          exact selectRegion?_eq_some hregion
      | none =>
          -- without a match in the region the head is found by rotation
          rw [hregion] at hselect
          rw [not_cacheable_of_rotate hselect] at hcacheable
          cases hcacheable
  | modelSpecific =>
      obtain ⟨w, hbest, rfl⟩ := Option.map_eq_some_iff.1 hselect
      simp only [steadyPick?, hbest]
      rfl
  | hybrid =>
      simp only [select] at hselect
      cases hregion : selectRegion? candidates c with
      | some s' =>
          rw [hregion] at hselect
          obtain rfl := Option.some.inj hselect
          simp only [steadyPick?, selectRegion?_eq_some hregion, Option.some_or]
      | none =>
          rw [hregion] at hselect
          obtain ⟨_, hbest, rfl⟩ := Option.map_eq_some_iff.1 hselect
          simp only [steadyPick?, selectRegion?_eq_none hregion, Option.none_or]
          exact hbest
  | _ => cases hsteady

/-- A steady choice is selected, whatever the turn is. -/
theorem select_of_steadyPick? {strategy : Strategy} {candidates : List Head} {c : Criteria} {p : Policy}
    {h : Head} (hpick : steadyPick? strategy candidates c p = some h) (turn : UInt64) :
    ∃ s, ((select strategy candidates c p).run turn).1 = some s ∧ s.head = h := by
  cases strategy with
  | leastLoaded => exact ⟨_, congrArg (Option.map _) hpick, rfl⟩
  | geoPreferred =>
      have hregion : selectRegion? candidates c = some (settle h (.region c.regionPreference)) :=
        congrArg (Option.map _) hpick
      simp only [select, hregion]
      exact ⟨_, rfl, rfl⟩
  | modelSpecific =>
      obtain ⟨w, hbest, rfl⟩ := Option.map_eq_some_iff.1 hpick
      exact ⟨_, congrArg (Option.map _) hbest, rfl⟩
  | hybrid =>
      simp only [steadyPick?] at hpick
      cases hmatch : geoMatch? candidates c.regionPreference with
      | some w =>
          rw [hmatch, Option.some_or] at hpick
          obtain rfl := Option.some.inj hpick
          simp only [select, selectRegion?, hmatch]
          exact ⟨_, rfl, rfl⟩
      | none =>
          rw [hmatch, Option.none_or] at hpick
          simp only [select, selectRegion?, hmatch]
          exact ⟨_, congrArg (Option.map _) hpick, rfl⟩
  | _ => cases hpick

theorem mem_of_geoMatch? {candidates : List Head} {region : String} {w : Head}
    (hmatch : geoMatch? candidates region = some w) : w ∈ candidates := by
  unfold geoMatch? at hmatch
  split at hmatch
  · cases hmatch
  · exact List.mem_of_find?_eq_some hmatch

/-- A steady choice is a candidate. -/
theorem Distinct.mem_of_steadyPick? {candidates : List Head} (h : Distinct candidates) {strategy : Strategy}
    {c : Criteria} {p : Policy} {w : Head} (hw : steadyPick? strategy candidates c p = some w) :
    w ∈ candidates := by
  have hload : leastLoaded? candidates = some w → w ∈ candidates :=
    fun hbest => (h.ranks_load.firstBest?_eq_some_iff.1 hbest).1
  cases strategy with
  | leastLoaded => exact hload hw
  | geoPreferred => exact mem_of_geoMatch? hw
  | modelSpecific =>
      obtain ⟨w, hbest, rfl⟩ := Option.map_eq_some_iff.1 hw
      rw [h.modelMatch?_eq] at hbest
      obtain ⟨hmem, -⟩ := (h.ranks_score _).firstBest?_eq_some_iff.1 hbest
      obtain ⟨a, ha, rfl⟩ := List.mem_map.1 hmem
      exact ha
  | hybrid =>
      rcases Option.or_eq_some_iff.1 hw with hmatch | ⟨-, hbest⟩
      · exact mem_of_geoMatch? hmatch
      · exact hload hbest
  | _ => cases hw

/-! ### When candidates change -/

/-- A first match stays the first match when others leave. -/
theorem geoMatch?_filter {candidates : List Head} {region : String} {w : Head} {p : Head → Bool}
    (hw : geoMatch? candidates region = some w) (hp : p w) :
    geoMatch? (candidates.filter p) region = some w := by
  unfold geoMatch? at hw ⊢
  split at hw
  · cases hw
  · next hregion =>
      obtain ⟨hmatch, front, back, rfl, hfront⟩ := List.find?_eq_some_iff_append.1 hw
      rw [if_neg hregion, List.find?_filter]
      refine List.find?_eq_some_iff_append.2 ⟨?_, front, back, rfl, fun a ha => ?_⟩
      · rw [hp, hmatch]
        rfl
      · have hlost := hfront a ha
        rw [Bool.not_eq_true'] at hlost ⊢
        exact decide_eq_false fun hboth => Bool.false_ne_true (hlost.symm.trans hboth.2)

/-- Where nothing matches, nothing does when some leave. -/
theorem geoMatch?_filter_none {candidates : List Head} {region : String} {p : Head → Bool}
    (hnone : geoMatch? candidates region = none) : geoMatch? (candidates.filter p) region = none := by
  unfold geoMatch? at hnone ⊢
  split at hnone
  · next hregion => rw [if_pos hregion]
  · next hregion =>
      rw [if_neg hregion]
      exact List.find?_eq_none.2 fun a ha => List.find?_eq_none.1 hnone a (List.mem_filter.1 ha).1

theorem geoMatch?_map {candidates : List Head} {region : String} {f : Head → Head}
    (hf : ∀ a ∈ candidates, (f a).region = a.region) :
    geoMatch? (candidates.map f) region = (geoMatch? candidates region).map f := by
  unfold geoMatch?
  split
  · rfl
  · rw [List.find?_map]
    refine congrArg (Option.map f) (List.find?_congr fun a ha => ?_)
    exact congrArg (· == region) (hf a ha)

/-- A steady choice stays when others leave. -/
theorem Distinct.steadyPick?_filter {candidates : List Head} (h : Distinct candidates) {strategy : Strategy}
    {c : Criteria} {p : Policy} {w : Head} {q : Head → Bool} (hw : steadyPick? strategy candidates c p = some w)
    (hq : q w) : steadyPick? strategy (candidates.filter q) c p = some w := by
  cases strategy with
  | leastLoaded => exact h.leastLoaded?_filter hw hq
  | geoPreferred => exact geoMatch?_filter hw hq
  | modelSpecific =>
      obtain ⟨w, hbest, rfl⟩ := Option.map_eq_some_iff.1 hw
      exact congrArg (Option.map Prod.fst) (h.modelMatch?_filter hbest hq)
  | hybrid =>
      simp only [steadyPick?] at hw ⊢
      cases hmatch : geoMatch? candidates c.regionPreference with
      | some w' =>
          rw [hmatch, Option.some_or] at hw
          obtain rfl := Option.some.inj hw
          rw [geoMatch?_filter hmatch hq, Option.some_or]
      | none =>
          rw [hmatch, Option.none_or] at hw
          rw [geoMatch?_filter_none hmatch, Option.none_or]
          exact h.leastLoaded?_filter hw hq
  | _ => cases hw

/-- Two states of a head between which only its history and its times differ. -/
structure Head.Refreshes (a b : Head) : Prop where
  id : b.id = a.id
  currentLoad : b.currentLoad = a.currentLoad
  region : b.region = a.region
  version : b.version = a.version
  metadata : b.metadata = a.metadata

theorem Head.Refreshes.modelScore_eq {a b : Head} (h : a.Refreshes b) (c : Criteria) (t : Tuning) :
    modelScore b c t = modelScore a c t := by
  have hsize : b.maxModelSize? = a.maxModelSize? := by rw [Head.maxModelSize?, Head.maxModelSize?, h.metadata]
  have hcapability (s : String) : b.hasCapability s = a.hasCapability s := by
    rw [Head.hasCapability, Head.hasCapability, h.metadata]
  have hheadroom : b.hasHeadroom t.capacityThreshold = a.hasHeadroom t.capacityThreshold := by
    rw [Head.hasHeadroom, Head.hasHeadroom, Head.capacity?, Head.capacity?, Head.load, Head.load, h.metadata,
      h.currentLoad]
  simp only [modelScore, versionScore, sizeScore, capabilityScore, h.version, hsize, hcapability, hheadroom]

/-- A steady choice moves along with refreshed candidates. -/
theorem Distinct.steadyPick?_map {candidates : List Head} (h : Distinct candidates) {f : Head → Head}
    (hf : ∀ a ∈ candidates, a.Refreshes (f a)) (strategy : Strategy) (c : Criteria) (p : Policy) :
    steadyPick? strategy (candidates.map f) c p = (steadyPick? strategy candidates c p).map f := by
  have hregion : geoMatch? (candidates.map f) c.regionPreference =
      (geoMatch? candidates c.regionPreference).map f :=
    geoMatch?_map fun a ha => (hf a ha).region
  have hload := h.leastLoaded?_map fun a ha => ⟨(hf a ha).id, (hf a ha).currentLoad⟩
  cases strategy with
  | leastLoaded => exact hload
  | geoPreferred => exact hregion
  | modelSpecific =>
      simp only [steadyPick?]
      rw [h.modelMatch?_map fun a ha => ⟨(hf a ha).id, (hf a ha).modelScore_eq c _⟩, Option.map_map,
        Option.map_map]
      rfl
  | hybrid =>
      simp only [steadyPick?]
      rw [hregion, hload]
      cases geoMatch? candidates c.regionPreference <;> rfl
  | _ => rfl

/-- Requests of one key have the same steady choice. -/
theorem CacheKey.Agrees.steadyPick?_eq {c d : Criteria} (h : CacheKey.Agrees c d) {strategy : Strategy}
    (hsteady : strategy.IsSteady c) (candidates : List Head) (p : Policy) :
    steadyPick? strategy candidates c p = steadyPick? strategy candidates d p := by
  cases strategy with
  | modelSpecific =>
      simp only [steadyPick?, modelMatch?, h.modelScore_eq (h.wantedSize?_eq_of_none hsteady)]
  | _ => simp only [steadyPick?, h.region]

theorem CacheKey.Agrees.isSteady {c d : Criteria} (h : CacheKey.Agrees c d) {strategy : Strategy}
    (hsteady : strategy.IsSteady c) : strategy.IsSteady d := by
  cases strategy with
  | modelSpecific => exact h.size hsteady
  | _ => exact hsteady

end FleetRouting
