import FleetRouting.Proofs.Routing.Steady
/-!
# FleetRouting.Proofs.Routing.Turns

**A turn is taken for each pick by rotation and for nothing else.** What a strategy does with turns does not depend on
where they come from, so the strategies are stated over any source of turns (`selectBy`); the rotation's own source gives
back `select`. A choice then takes one of three courses (`Course`): there is nobody to choose, a candidate is chosen
without a turn, or exactly one turn is taken and decides. Only the last one is not to be repeated.
-/

namespace FleetRouting

/-! ### The steps of the adaptive strategy -/

section

variable {candidates : List Head} {c : Criteria} {p : Policy} {t : Tuning}

theorem adaptiveModel?_eq_some {s : Selection} :
    adaptiveModel? candidates c p t = some s ↔ p.modelMatching ∧ ∃ h score,
      modelMatch? candidates c t = some (h, score) ∧ h.hasHeadroom t.capacityThreshold ∧
        settle h (.adaptiveModel score) = s := by
  unfold adaptiveModel?
  cases p.modelMatching with
  | false => simp
  | true =>
      rcases modelMatch? candidates c t with _ | ⟨h, score⟩
      · simp
      · simp [Option.ite_none_right_eq_some]

theorem adaptiveModel?_eq_none :
    adaptiveModel? candidates c p t = none ↔ (p.modelMatching → ∀ h score,
      modelMatch? candidates c t = some (h, score) → h.hasHeadroom t.capacityThreshold = false) := by
  unfold adaptiveModel?
  cases p.modelMatching with
  | false => simp
  | true =>
      rcases modelMatch? candidates c t with _ | ⟨h, score⟩
      · simp
      · simp

theorem adaptiveRegion?_eq_some {s : Selection} :
    adaptiveRegion? candidates c p t = some s ↔ p.geoRouting ∧ ∃ h,
      geoMatch? candidates c.regionPreference = some h ∧ h.hasHeadroom t.capacityThreshold ∧
        settle h (.adaptiveRegion c.regionPreference) = s := by
  unfold adaptiveRegion?
  cases p.geoRouting with
  | false => simp
  | true =>
      cases geoMatch? candidates c.regionPreference with
      | none => simp
      | some w => simp [Option.ite_none_right_eq_some]

theorem adaptiveRegion?_eq_none :
    adaptiveRegion? candidates c p t = none ↔ (p.geoRouting → ∀ h,
      geoMatch? candidates c.regionPreference = some h → h.hasHeadroom t.capacityThreshold = false) := by
  unfold adaptiveRegion?
  cases p.geoRouting with
  | false => simp
  | true =>
      cases geoMatch? candidates c.regionPreference with
      | none => simp
      | some w => simp

theorem mem_of_selectRegion? {s : Selection} (hs : selectRegion? candidates c = some s) : s.head ∈ candidates :=
  mem_of_geoMatch? (selectRegion?_eq_some hs)

end

/-! ### Any source of turns -/

section

variable {σ τ : Type} (next : StateM σ UInt64)

/-- `roundRobin` over a source of turns. -/
def roundRobinBy (candidates : List Head) : StateM σ (Option Head) :=
  if candidates.isEmpty then pure none
  else do
    let turn ← next
    return candidates[turn.toNat % candidates.length]?

/-- `rotate` over a source of turns. -/
def rotateBy (candidates : List Head) (reason : Reason) : StateM σ (Option Selection) := do
  return (← roundRobinBy next candidates).map fun h => ⟨h, reason, false⟩

/-- `selectAdaptive` over a source of turns. -/
def selectAdaptiveBy (candidates : List Head) (c : Criteria) (p : Policy) : StateM σ (Option Selection) :=
  let t := Tuning.ofPolicy p
  match adaptiveModel? candidates c p t with
  | some s => return some s
  | none =>
    match adaptiveRegion? candidates c p t with
    | some s => return some s
    | none =>
      if p.loadBalancing then
        return (lowestProjected? candidates t).map fun (h, load) => settle h (.adaptiveProjected load)
      else rotateBy next candidates .adaptiveRotation

/-- `select` over a source of turns. -/
def selectBy (strategy : Strategy) (candidates : List Head) (c : Criteria) (p : Policy) : StateM σ (Option Selection) :=
  let t := Tuning.ofPolicy p
  match strategy with
  | .roundRobin => rotateBy next candidates .rotation
  | .leastLoaded =>
    return (leastLoaded? candidates).map fun h => settle h (.lowestLoad h.currentLoad)
  | .geoPreferred =>
    match selectRegion? candidates c with
    | some s => return some s
    | none => rotateBy next candidates .rotationWithoutRegion
  | .modelSpecific =>
    return (modelMatch? candidates c t).map fun (h, score) => settle h (.modelMatch score)
  | .hybrid =>
    match selectRegion? candidates c with
    | some s => return some s
    | none =>
      return (leastLoaded? candidates).map fun h => settle h (.lowestLoadWithoutRegion h.currentLoad)
  | .predictive =>
    return (lowestProjected? candidates t).map fun (h, load) => settle h (.projectedLoad load)
  | .adaptive => selectAdaptiveBy next candidates c p

/-- The same source of turns, counting how often it is asked. -/
def counted : StateM (σ × Nat) UInt64 := fun (s, asked) =>
  let (turn, s) := next s
  (turn, s, asked + 1)

/-- The strategies of routing are those whose turns come from the rotation. -/
theorem selectBy_takeTurn : selectBy takeTurn = select := by
  funext strategy candidates c p
  cases strategy <;> rfl

end

/-! ### The courses of a choice -/

/-- The reasons of picks by rotation. -/
def Reason.ofRotation : Reason → Bool
  | .rotation | .rotationWithoutRegion | .adaptiveRotation => true
  | _ => false

/-- The reason that a strategy gives for a pick by rotation, if it makes any. -/
def Strategy.rotationReason? : Strategy → Option Reason
  | .roundRobin => some .rotation
  | .geoPreferred => some .rotationWithoutRegion
  | .adaptive => some .adaptiveRotation
  | _ => none

theorem Strategy.ofRotation_of_rotationReason? {strategy : Strategy} {reason : Reason}
    (h : strategy.rotationReason? = some reason) : reason.ofRotation = true := by
  cases strategy <;> cases h <;> rfl

/-- How a choice among candidates comes about, whatever the source of turns is; `rotating` is the reason for a pick by
rotation. -/
inductive Course (candidates : List Head) (rotating : Option Reason)
    (choice : ∀ {σ : Type}, StateM σ UInt64 → StateM σ (Option Selection)) : Prop
  | nobody (hnil : candidates = []) (hrun : ∀ {σ : Type} (next : StateM σ UInt64) (s : σ), (choice next).run s = (none, s))
  | settled (w : Selection) (hmem : w.head ∈ candidates) (hcacheable : w.cacheable = true)
      (hreason : w.reason.ofRotation = false)
      (hrun : ∀ {σ : Type} (next : StateM σ UInt64) (s : σ), (choice next).run s = (some w, s))
  | turned (reason : Reason) (hreason : rotating = some reason)
      (hrun : ∀ {σ : Type} (next : StateM σ UInt64) (s : σ), ∃ h ∈ candidates,
        candidates[(next s).1.toNat % candidates.length]? = some h ∧
          (choice next).run s = (some ⟨h, reason, false⟩, (next s).2))

namespace Course

variable {candidates : List Head} {rotating : Option Reason} {c : Criteria} {p : Policy}

/-- The course of what is picked without a turn, wherever there are candidates. -/
theorem of_pick {pick : Option Selection} (hnil : candidates = [] → pick = none)
    (hne : candidates ≠ [] → ∃ s ∈ pick, s.head ∈ candidates ∧ s.cacheable = true ∧ s.reason.ofRotation = false) :
    Course candidates rotating fun _ => pure pick := by
  by_cases hempty : candidates = []
  · obtain rfl := hnil hempty
    exact nobody hempty fun _ _ => rfl
  · obtain ⟨s, rfl, hmem, hcacheable, hreason⟩ := hne hempty
    exact settled s hmem hcacheable hreason fun _ _ => rfl

theorem of_rotateBy (reason : Reason) :
    Course candidates (some reason) fun next => rotateBy next candidates reason := by
  cases candidates with
  | nil => exact nobody rfl fun _ _ => rfl
  | cons a l =>
      refine turned reason rfl fun next s => ?_
      have hturn : (next s).1.toNat % (a :: l).length < (a :: l).length := Nat.mod_lt _ (Nat.succ_pos _)
      have hhead := List.getElem?_eq_getElem hturn
      exact ⟨_, List.getElem_mem hturn, hhead,
        congrArg (fun w => (Option.map (fun h => (⟨h, reason, false⟩ : Selection)) w, (next s).2)) hhead⟩

theorem of_leastLoaded {reason : Head → Reason} (hreason : ∀ h, (reason h).ofRotation = false) :
    Course candidates rotating fun _ => pure ((leastLoaded? candidates).map fun h => settle h (reason h)) := by
  refine of_pick (fun hnil => by rw [hnil]; rfl) fun hne => ?_
  obtain ⟨a, ha, hleast⟩ : ∃ a ∈ candidates, leastLoaded? candidates = some a := exists_firstBest? _ hne
  exact ⟨settle a (reason a), by rw [hleast]; rfl, ha, rfl, hreason a⟩

theorem of_lowestProjected {t : Tuning} {reason : Binary64 → Reason}
    (hreason : ∀ load, (reason load).ofRotation = false) :
    Course candidates rotating fun _ =>
      pure ((lowestProjected? candidates t).map fun (h, load) => settle h (reason load)) := by
  refine of_pick (fun hnil => by rw [hnil]; rfl) fun hne => ?_
  obtain ⟨a, ha, load, hlowest⟩ := exists_lowestProjected? hne (t := t)
  exact ⟨settle a (reason load), by rw [hlowest]; rfl, ha, rfl, hreason load⟩

theorem of_modelMatch {t : Tuning} :
    Course candidates rotating fun _ =>
      pure ((modelMatch? candidates c t).map fun (h, score) => settle h (.modelMatch score)) := by
  refine of_pick (fun hnil => by rw [hnil]; rfl) fun hne => ?_
  obtain ⟨a, ha, score, hmatch⟩ := exists_modelMatch? hne (c := c) (t := t)
  exact ⟨settle a (.modelMatch score), by rw [hmatch]; rfl, ha, rfl, rfl⟩

/-- The course by way of the region, where another way is gone if that finds nobody. -/
theorem of_selectRegion {otherwise : ∀ {σ : Type}, StateM σ UInt64 → StateM σ (Option Selection)}
    (hotherwise : Course candidates rotating otherwise) :
    Course candidates rotating fun next =>
      match selectRegion? candidates c with
      | some s => pure (some s)
      | none => otherwise next := by
  cases hregion : selectRegion? candidates c with
  | some s =>
      obtain ⟨h, -, rfl⟩ := Option.map_eq_some_iff.1 hregion
      exact settled _ (mem_of_selectRegion? hregion) rfl rfl fun _ _ => rfl
  | none => exact hotherwise

theorem of_selectAdaptiveBy :
    Course candidates (some .adaptiveRotation) fun next => selectAdaptiveBy next candidates c p := by
  simp only [selectAdaptiveBy]
  cases hmodel : adaptiveModel? candidates c p (.ofPolicy p) with
  | some s =>
      obtain ⟨-, a, score, hmatch, -, rfl⟩ := adaptiveModel?_eq_some.1 hmodel
      exact settled _ (mem_of_modelMatch? hmatch) rfl rfl fun _ _ => rfl
  | none =>
      cases hregion : adaptiveRegion? candidates c p (.ofPolicy p) with
      | some s =>
          obtain ⟨-, a, hmatch, -, rfl⟩ := adaptiveRegion?_eq_some.1 hregion
          exact settled _ (mem_of_geoMatch? hmatch) rfl rfl fun _ _ => rfl
      | none =>
          cases hbalancing : p.loadBalancing with
          | true => exact of_lowestProjected fun _ => rfl
          | false => exact of_rotateBy _

/-- **Every strategy takes one of the three courses.** -/
theorem of_selectBy (strategy : Strategy) :
    Course candidates strategy.rotationReason? fun next => selectBy next strategy candidates c p := by
  cases strategy with
  | roundRobin => exact of_rotateBy _
  | leastLoaded => exact of_leastLoaded fun _ => rfl
  | geoPreferred => exact of_selectRegion (of_rotateBy _)
  | modelSpecific => exact of_modelMatch
  | hybrid => exact of_selectRegion (of_leastLoaded fun _ => rfl)
  | predictive => exact of_lowestProjected fun _ => rfl
  | adaptive => exact of_selectAdaptiveBy

end Course

section

variable {candidates : List Head} {c : Criteria} {p : Policy}

/-- The courses as they show in the rotation of routing. -/
theorem select_cases (strategy : Strategy) (candidates : List Head) (c : Criteria) (p : Policy) (turn : UInt64) :
    candidates = [] ∧ (select strategy candidates c p).run turn = (none, turn) ∨
      (∃ w, w.head ∈ candidates ∧ w.reason.ofRotation = false ∧
        (select strategy candidates c p).run turn = (some w, turn)) ∨
        ∃ h ∈ candidates, ∃ reason, candidates[turn.toNat % candidates.length]? = some h ∧
          strategy.rotationReason? = some reason ∧
            (select strategy candidates c p).run turn = (some ⟨h, reason, false⟩, turn + 1) := by
  have hcourse : Course candidates strategy.rotationReason? fun next => selectBy next strategy candidates c p :=
    Course.of_selectBy strategy
  rw [← selectBy_takeTurn]
  cases hcourse with
  | nobody hnil hrun => exact .inl ⟨hnil, hrun takeTurn turn⟩
  | settled w hmem _ hreason hrun => exact .inr (.inl ⟨w, hmem, hreason, hrun takeTurn turn⟩)
  | turned reason hreason hrun =>
      obtain ⟨h, hmem, hhead, hturned⟩ := hrun takeTurn turn
      exact .inr (.inr ⟨h, hmem, reason, hhead, hreason, hturned⟩)

/-- **Every strategy picks one of its candidates**, as soon as there are any. -/
theorem exists_select (h : candidates ≠ []) (strategy : Strategy) (turn : UInt64) :
    ∃ s, ((select strategy candidates c p).run turn).1 = some s ∧ s.head ∈ candidates := by
  rcases select_cases strategy candidates c p turn with ⟨hnil, -⟩ | ⟨w, hmem, -, hrun⟩ | ⟨a, hmem, reason, -, -, hrun⟩
  · exact absurd hnil h
  · exact ⟨w, congrArg Prod.fst hrun, hmem⟩
  · exact ⟨⟨a, reason, false⟩, congrArg Prod.fst hrun, hmem⟩

/-- What is selected is a candidate. -/
theorem mem_of_select {strategy : Strategy} {turn : UInt64} {s : Selection}
    (h : ((select strategy candidates c p).run turn).1 = some s) : s.head ∈ candidates := by
  rcases select_cases strategy candidates c p turn with ⟨-, hrun⟩ | ⟨w, hmem, -, hrun⟩ | ⟨a, hmem, reason, -, -, hrun⟩
  · rw [hrun] at h
    cases h
  · rw [hrun] at h
    exact Option.some.inj h ▸ hmem
  · rw [hrun] at h
    exact Option.some.inj h ▸ hmem

end

/-- **Rotation, turns and what may be repeated coincide.** The strategies of routing are strategies over a source of turns,
and for every source, in every state: nobody is selected exactly if there are no candidates, and a selected head is one of
them. The source is asked at most once, and it is asked exactly for the selections that are not to be repeated, which are
those by rotation; the turn then says which candidate it is. Where it is not asked, the selection is the same for all
sources. -/
theorem selectBy_turns : selectBy takeTurn = select ∧
    ∀ {σ : Type} (next : StateM σ UInt64) (s : σ) (strategy : Strategy) (candidates : List Head) (c : Criteria)
      (p : Policy),
      let outcome := (selectBy (counted next) strategy candidates c p).run (s, 0)
      let selection := outcome.1
      let after := outcome.2.1
      let asked := outcome.2.2
      (selectBy next strategy candidates c p).run s = (selection, after) ∧
        (selection = none ↔ candidates = []) ∧ (∀ w ∈ selection, w.head ∈ candidates) ∧
          asked ≤ 1 ∧ (asked = 1 ↔ ∃ w ∈ selection, w.cacheable = false) ∧
            (∀ w ∈ selection, w.cacheable = false ↔ strategy.rotationReason? = some w.reason) ∧
              (asked = 1 → after = (next s).2 ∧
                selection.map Selection.head = candidates[(next s).1.toNat % candidates.length]?) ∧
                (asked = 0 → after = s ∧ ∀ {τ : Type} (other : StateM τ UInt64) (t : τ),
                  (selectBy other strategy candidates c p).run t = (selection, t)) := by
  refine ⟨selectBy_takeTurn, fun next s strategy candidates c p => ?_⟩
  intro outcome selection after asked
  have hcourse : Course candidates strategy.rotationReason? fun next => selectBy next strategy candidates c p :=
    Course.of_selectBy strategy
  cases hcourse with
  | nobody hnil hrun =>
      have houtcome : outcome = (none, s, 0) := hrun (counted next) (s, 0)
      subst hnil
      simp [selection, after, asked, houtcome, hrun]
  | settled w hmem hcacheable hreason hrun =>
      have houtcome : outcome = (some w, s, 0) := hrun (counted next) (s, 0)
      have hother : strategy.rotationReason? ≠ some w.reason := by
        intro hrotation
        rw [Strategy.ofRotation_of_rotationReason? hrotation] at hreason
        cases hreason
      simp [selection, after, asked, houtcome, hrun, hmem, hcacheable, hother, List.ne_nil_of_mem hmem]
  | turned reason hreason hrun =>
      obtain ⟨h, hmem, hhead, hplain⟩ := hrun next s
      obtain ⟨h', -, hhead', hcounted⟩ := hrun (counted next) (s, 0)
      -- counting does not change the turn, so it is the same head
      obtain rfl : h = h' := Option.some.inj (hhead.symm.trans hhead')
      have houtcome : outcome = (some ⟨h, reason, false⟩, (next s).2, 1) := hcounted
      simp [selection, after, asked, houtcome, hplain, hhead, hmem, hreason, List.ne_nil_of_mem hmem]

end FleetRouting
