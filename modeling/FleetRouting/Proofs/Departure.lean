import FleetRouting.Proofs.Routing.Completeness
import FleetRouting.Proofs.StoreIsolation
/-!
# FleetRouting.Proofs.Departure

**Departures and adaptive choices.** A head that is deregistered or silent takes along only the remembered choices of
itself. For an adaptive choice that is enough unless the head was passed over for want of headroom: it stood in front of
others, and where it has left, another one may be chosen than the one that is remembered
(`Session.Reachable.adaptive_after_departure`, `Session.exists_outdated_adaptive_choice`).
-/

namespace FleetRouting

/-! ### Adaptive choices -/

section

variable {candidates : List Head} {c : Criteria} {p : Policy} {t : Tuning} {stays : Head → Bool}

/-- Without a model match there is no candidate. -/
theorem eq_nil_of_modelMatch? (h : modelMatch? candidates c t = none) : candidates = [] := by
  cases candidates with
  | nil => rfl
  | cons a l => cases h

namespace Distinct

theorem adaptiveModel?_filter (h : Distinct candidates) {s : Selection}
    (hs : adaptiveModel? candidates c p t = some s) (hstays : stays s.head) :
    adaptiveModel? (candidates.filter stays) c p t = some s := by
  obtain ⟨hon, a, score, hmatch, hroom, rfl⟩ := adaptiveModel?_eq_some.1 hs
  exact adaptiveModel?_eq_some.2 ⟨hon, a, score, h.modelMatch?_filter hmatch hstays, hroom, rfl⟩

/-- A model match without headroom blocks this choice as long as it stays. -/
theorem adaptiveModel?_filter_none (h : Distinct candidates) (hnone : adaptiveModel? candidates c p t = none)
    (hstays : p.modelMatching → ∀ a score, modelMatch? candidates c t = some (a, score) → stays a) :
    adaptiveModel? (candidates.filter stays) c p t = none := by
  refine adaptiveModel?_eq_none.2 fun hon b score' hmatch' => ?_
  cases hmatch : modelMatch? candidates c t with
  | none =>
      rw [eq_nil_of_modelMatch? hmatch] at hmatch'
      cases hmatch'
  | some w =>
      rw [h.modelMatch?_filter hmatch (hstays hon w.1 w.2 hmatch)] at hmatch'
      obtain rfl := Option.some.inj hmatch'
      exact adaptiveModel?_eq_none.1 hnone hon b score' hmatch

end Distinct

theorem adaptiveRegion?_filter {s : Selection} (hs : adaptiveRegion? candidates c p t = some s)
    (hstays : stays s.head) : adaptiveRegion? (candidates.filter stays) c p t = some s := by
  obtain ⟨hon, a, hmatch, hroom, rfl⟩ := adaptiveRegion?_eq_some.1 hs
  exact adaptiveRegion?_eq_some.2 ⟨hon, a, geoMatch?_filter hmatch hstays, hroom, rfl⟩

/-- A head of the region without headroom blocks this choice as long as it stays. -/
theorem adaptiveRegion?_filter_none (hnone : adaptiveRegion? candidates c p t = none)
    (hstays : p.geoRouting → ∀ a, geoMatch? candidates c.regionPreference = some a → stays a) :
    adaptiveRegion? (candidates.filter stays) c p t = none := by
  refine adaptiveRegion?_eq_none.2 fun hon b hmatch' => ?_
  cases hmatch : geoMatch? candidates c.regionPreference with
  | none =>
      rw [geoMatch?_filter_none hmatch] at hmatch'
      cases hmatch'
  | some a =>
      rw [geoMatch?_filter hmatch (hstays hon a hmatch)] at hmatch'
      obtain rfl := Option.some.inj hmatch'
      exact adaptiveRegion?_eq_none.1 hnone hon a hmatch

end

/-- A head that an adaptive choice passes over for want of headroom: the best model match, or, where no model match is
taken, the head in the preferred region. -/
def PassedOver (candidates : List Head) (c : Criteria) (p : Policy) (a : Head) : Prop :=
  let t := Tuning.ofPolicy p
  a.hasHeadroom t.capacityThreshold = false ∧
    (p.modelMatching ∧ (∃ score, modelMatch? candidates c t = some (a, score)) ∨
      adaptiveModel? candidates c p t = none ∧ p.geoRouting ∧ geoMatch? candidates c.regionPreference = some a)

theorem PassedOver.mem {candidates : List Head} (h : Distinct candidates) {c : Criteria} {p : Policy} {a : Head}
    (ha : PassedOver candidates c p a) : a ∈ candidates := by
  obtain ⟨-, ⟨-, score, hmatch⟩ | ⟨-, -, hmatch⟩⟩ := ha
  · have hpick : steadyPick? .modelSpecific candidates c p = some a := congrArg (Option.map Prod.fst) hmatch
    exact h.mem_of_steadyPick? hpick
  · have hpick : steadyPick? .geoPreferred candidates c p = some a := hmatch
    exact h.mem_of_steadyPick? hpick

/-- **An adaptive choice that is not by rotation stays** when other heads leave, as long as those that it passed over
do not. -/
theorem Distinct.selectAdaptive_filter {candidates : List Head} (h : Distinct candidates) {c : Criteria} {p : Policy}
    {turn : UInt64} {s : Selection} (hs : ((selectAdaptive candidates c p).run turn).1 = some s)
    (hcacheable : s.cacheable) {stays : Head → Bool} (hstays : stays s.head)
    (hpassed : ∀ a, PassedOver candidates c p a → stays a) (turn' : UInt64) :
    ((selectAdaptive (candidates.filter stays) c p).run turn').1 = some s := by
  cases hmodel : adaptiveModel? candidates c p (.ofPolicy p) with
  | some w =>
      simp only [selectAdaptive, hmodel] at hs
      obtain rfl := Option.some.inj hs
      simp only [selectAdaptive, h.adaptiveModel?_filter hmodel hstays]
      rfl
  | none =>
      have hmodel' := h.adaptiveModel?_filter_none hmodel fun hon a score hmatch =>
        hpassed a ⟨adaptiveModel?_eq_none.1 hmodel hon a score hmatch, .inl ⟨hon, score, hmatch⟩⟩
      cases hregion : adaptiveRegion? candidates c p (.ofPolicy p) with
      | some w =>
          simp only [selectAdaptive, hmodel, hregion] at hs
          obtain rfl := Option.some.inj hs
          simp only [selectAdaptive, hmodel', adaptiveRegion?_filter hregion hstays]
          rfl
      | none =>
          have hregion' := adaptiveRegion?_filter_none hregion fun hon a hmatch =>
            hpassed a ⟨adaptiveRegion?_eq_none.1 hregion hon a hmatch, .inr ⟨hmodel, hon, hmatch⟩⟩
          simp only [selectAdaptive, hmodel, hregion] at hs
          simp only [selectAdaptive, hmodel', hregion']
          cases hbalancing : p.loadBalancing with
          | false =>
              rw [hbalancing] at hs
              rw [not_cacheable_of_rotate hs] at hcacheable
              cases hcacheable
          | true =>
              rw [hbalancing] at hs
              obtain ⟨w, hlowest, rfl⟩ := Option.map_eq_some_iff.1 hs
              exact congrArg (Option.map _) (h.lowestProjected?_filter hlowest hstays)

/-! ### Departures -/

namespace Router

/-- The head that is selected for a request, if the same request may be given it again. -/
def settled? (r : Router) (c : Criteria) : Option Head :=
  ((r.selection c).filter Selection.cacheable).map Selection.head

/-- A router from which heads have left, with some of what it remembered and nothing new. -/
structure Loses (r t : Router) (stays : Head → Bool) : Prop where
  policy : t.policy = r.policy
  listed : ∀ m, t.registry.listActive m = (r.registry.listActive m).filter stays
  entries : ∀ e ∈ t.cache.entries, e ∈ r.cache.entries
  ttl : t.cache.ttl = r.cache.ttl

theorem loses_refl (r : Router) : r.Loses r fun _ => true where
  policy := rfl
  listed _ := (List.filter_true _).symm
  entries _ := id
  ttl := rfl

theorem ttl_forgetAll (heads : List Head) (cache : Cache) : (forgetAll heads cache).ttl = cache.ttl := by
  induction heads generalizing cache with
  | nil => rfl
  | cons a heads ih => exact ih _

theorem exists_loses_deregister (r : Router) (now : Moment) (id : String) :
    ∃ stays, r.Loses (r.outcome now (.deregister id)).router stays := by
  simp only [outcome]
  split
  · exact ⟨_, loses_refl r⟩
  · cases hchange : r.registry.deactivate? id with
    | none => exact ⟨_, loses_refl r⟩
    | some result =>
        exact ⟨_, rfl, Registry.listActive_deactivate? hchange, fun e he => (List.mem_filter.1 he).1, rfl⟩

theorem loses_sweep (r : Router) (now : Timestamp) (timeout : Duration) (order : List String) :
    r.Loses (r.sweep now timeout order) fun h => !Registry.isStale h now timeout where
  policy := rfl
  listed := Registry.listActive_markStale now timeout order r.registry
  entries _ he := (Faithful.mem_forgetAll he).1
  ttl := ttl_forgetAll _ r.cache

namespace Loses

variable {r t : Router} {stays : Head → Bool} {c : Criteria} {tick tick' : Nat}

/-- What is remembered behind a departure was remembered before it. -/
theorem recalled?_eq (h : r.Loses t stays) (hr : r.Faithful) (hunique : r.cache.Unique) (hle : tick ≤ tick') {a : Head}
    (hrecall : t.recalled? c tick' = some a) : r.recalled? c tick = some a ∧ stays a := by
  obtain ⟨hlisted, e, he, hkey, hfresh, hid⟩ := candidate_of_recalled? hrecall
  rw [candidates, h.listed] at hlisted
  obtain ⟨hbefore, hstays⟩ := List.mem_filter.1 hlisted
  have hfresh' : r.cache.isFresh e tick' := by
    rw [Cache.isFresh, ← h.ttl]
    exact hfresh
  exact ⟨hr.recalled?_of_candidate hunique hle hbefore (h.entries e he) hkey hfresh' hid, hstays⟩

/-- **Behind a departure, an adaptive request is given the selected head**, provided that what was remembered for it
was the settled choice, and unless memory answers and a head has left that this choice passed over. -/
theorem headId_decide (h : r.Loses t stays) (hr : r.Faithful) (hunique : r.cache.Unique)
    (hc : r.strategy c = .adaptive) (hle : tick ≤ tick')
    (hremembered : ∀ a, r.recalled? c tick = some a → r.settled? c = some a) :
    (t.decide c tick').1.headId = t.selectedId c ∨
      (t.decide c tick').1.strategyUsed = cachedName ∧
        ∃ a, PassedOver (r.candidates c) c r.policy a ∧ a ∉ t.candidates c := by
  cases hrecall : t.recalled? c tick' with
  | none => exact .inl (headId_decide_of_no_recall hrecall)
  | some a =>
      by_cases hleft : ∃ a, PassedOver (r.candidates c) c r.policy a ∧ a ∉ t.candidates c
      · refine .inr ⟨strategyUsed_decide_iff.2 ?_, hleft⟩
        rw [hrecall]
        rfl
      · have hcandidates : t.candidates c = (r.candidates c).filter stays := h.listed c.modelType
        have hpassed : ∀ b, PassedOver (r.candidates c) c r.policy b → stays b := by
          intro b hb
          by_contra hnot
          refine hleft ⟨b, hb, fun hmem => hnot ?_⟩
          rw [hcandidates] at hmem
          exact (List.mem_filter.1 hmem).2
        obtain ⟨hbefore, hstays⟩ := h.recalled?_eq hr hunique hle hrecall
        -- the head that is remembered was selected before, and so it is now
        obtain ⟨s, hsettled, rfl⟩ := Option.map_eq_some_iff.1 (hremembered a hbefore)
        obtain ⟨hselected, hcacheable⟩ := Option.filter_eq_some_iff.1 hsettled
        rw [selection, hc] at hselected
        have hstill : t.selection c = some s := by
          rw [selection, strategy, h.policy, ← strategy, hc, hcandidates]
          exact (hr.candidates c).selectAdaptive_filter hselected hcacheable hstays hpassed _
        refine .inl ?_
        rw [decide_of_recall hrecall, selectedId, hstill]
        rfl

end Loses

end Router

/-! ### Departures in whole runs -/

/-- True for the commands that take heads out of routing and do nothing else. -/
def Command.isDeparture : Command → Bool
  | .deregister _ => true
  | .sweep _ _ => true
  | _ => false

namespace Session

theorem exists_loses_of_departure (x : Session) {departure : Command} (hdeparture : departure.isDeparture) :
    ∃ stays, x.service.router.Loses (x.service.router.outcome x.now departure).router stays := by
  cases departure with
  | deregister id => exact x.service.router.exists_loses_deregister x.now id
  | sweep timeout order => exact ⟨_, x.service.router.loses_sweep x.now.wall timeout order⟩
  | _ => cases hdeparture

/-- **Behind a departure, an adaptive request is given the head that is selected among those that are left**, provided
that what was remembered for it was the head selected before. The one exception is a departure of a head that was passed
over for want of headroom, as long as the request is answered from the cache. -/
theorem Reachable.adaptive_after_departure {x : Session} (hx : x.Reachable) {c : Criteria}
    (hc : x.service.router.strategy c = .adaptive)
    (hremembered : ∀ a, x.service.router.recalled? c x.now.tick = some a → x.service.router.settled? c = some a)
    (departure : Command) (hdeparture : departure.isDeparture) (wall : Timestamp) (nanos : Nat) (i : Uuid) :
    let y := ((x.step departure).2.step (.advance wall nanos)).2
    let answer := (y.service.route y.now i c).1
    answer.headId = y.service.router.selectedId c ∨
      answer.strategyUsed = Router.cachedName ∧
        ∃ a, PassedOver (x.service.router.candidates c) c x.service.router.policy a ∧
          a ∉ y.service.router.candidates c := by
  intro y answer
  obtain ⟨stays, hloses⟩ := x.exists_loses_of_departure hdeparture
  have hagrees : y.service.router.Agrees (x.service.router.outcome x.now departure).router :=
    (Service.respond_follows x.service x.now departure).router
  have hnow : (x.step departure).2.now = x.now := by
    cases departure with
    | deregister id => rfl
    | sweep timeout order => rfl
    | _ => cases hdeparture
  have htick : x.now.tick ≤ y.now.tick := by
    have hmoved : y.now.tick = (x.step departure).2.now.tick + nanos := rfl
    rw [hmoved, hnow]
    exact Nat.le_add_right _ _
  have hanswer : answer = ((x.service.router.outcome x.now departure).router.decide c y.now.tick).1 := by
    rw [← (hagrees.decide c _).1]
    exact Service.route_decision _ _ _ _
  rw [hanswer, hagrees.selectedId_eq, hagrees.candidates_eq]
  exact hloses.headId_decide hx.faithful hx.unique hc htick hremembered

/-- Three heads: the best match of version 2, which is full, another match, and a head in the preferred region, which
was then given to an adaptive request. -/
def crowd : List Command :=
  [.register ⟨"a", "http://a", "m", "", "2", .ofList [("capacity", "10")], 10⟩,
    .register ⟨"b", "http://b", "m", "", "2.1", .empty, 5⟩, .register ⟨"w", "http://w", "m", "eu", "1", .empty, 5⟩,
    .route default ⟨"m", "eu", some "adaptive", .ofList [("model_version", "2")]⟩]

/-- The session behind `crowd`. -/
def afterCrowd : Session := (start {} {} {} none ⟨⟨0, 0⟩, 0⟩).run crowd

theorem reachable_afterCrowd : afterCrowd.Reachable := (Reachable.fresh _ _ _ _ _).run crowd

theorem now_afterCrowd : afterCrowd.now = ⟨⟨0, 0⟩, 0⟩ := now_run _ crowd

theorem afterCrowd_agrees : afterCrowd.service.router.Agrees (Router.follow {} ⟨⟨0, 0⟩, 0⟩ crowd) := run_agrees _ crowd

/-- Behind `crowd` the choice that is remembered is the one that is made. -/
theorem settled_afterCrowd :
    let c : Criteria := ⟨"m", "eu", some "adaptive", .ofList [("model_version", "2")]⟩
    afterCrowd.service.router.strategy c = .adaptive ∧
      (afterCrowd.service.router.recalled? c 0).isSome ∧
      afterCrowd.service.router.recalled? c 0 = afterCrowd.service.router.settled? c := by
  intro c
  rw [afterCrowd_agrees.strategy_eq, afterCrowd_agrees.recalled?_eq, Router.settled?, afterCrowd_agrees.selection_eq]
  decide +kernel

/-- A head behind the others leaves `crowd`, while the full one stays. -/
theorem adaptive_after_loser :
    let c : Criteria := ⟨"m", "eu", some "adaptive", .ofList [("model_version", "2")]⟩
    let y := ((afterCrowd.step (.deregister "b")).2.step (.advance ⟨1, 0⟩ 1000000000)).2
    (y.service.route y.now default c).1.headId = y.service.router.selectedId c := by
  intro c y
  obtain ⟨hc, -, hsettled⟩ := settled_afterCrowd
  have hremembered : ∀ a, afterCrowd.service.router.recalled? c afterCrowd.now.tick = some a →
      afterCrowd.service.router.settled? c = some a := by
    intro a hrecall
    rw [now_afterCrowd] at hrecall
    rw [← hsettled, hrecall]
  have hy : y.service.router.Agrees (Router.follow {} ⟨⟨0, 0⟩, 0⟩ (crowd ++ [.deregister "b"])) :=
    (run_agrees afterCrowd [.deregister "b"]).trans (now_afterCrowd ▸ afterCrowd_agrees.follow _ [.deregister "b"])
  refine (reachable_afterCrowd.adaptive_after_departure hc hremembered (.deregister "b") rfl ⟨1, 0⟩ 1000000000
    default).resolve_right ?_
  rintro ⟨-, a, hpassed, hleft⟩
  -- every head without headroom is still there
  have hstayed : ∀ a ∈ (Router.follow {} ⟨⟨0, 0⟩, 0⟩ crowd).candidates c,
      a.hasHeadroom (Tuning.ofPolicy (Router.follow {} ⟨⟨0, 0⟩, 0⟩ crowd).policy).capacityThreshold = false →
        a ∈ (Router.follow {} ⟨⟨0, 0⟩, 0⟩ (crowd ++ [.deregister "b"])).candidates c := by
    decide +kernel
  have hmem := hpassed.mem (reachable_afterCrowd.faithful.candidates c)
  have hfull : a.hasHeadroom (Tuning.ofPolicy afterCrowd.service.router.policy).capacityThreshold = false := hpassed.1
  rw [afterCrowd_agrees.policy] at hfull
  rw [afterCrowd_agrees.candidates_eq] at hmem
  rw [hy.candidates_eq] at hleft
  exact hleft (hstayed a hmem hfull)

/-- The full head leaves `crowd`: now another head is selected, but memory still gives the one in the region. -/
theorem exists_outdated_adaptive_choice :
    let c : Criteria := ⟨"m", "eu", some "adaptive", .ofList [("model_version", "2")]⟩
    let y := (afterCrowd.step (.deregister "a")).2
    afterCrowd.Reachable ∧ afterCrowd.service.router.strategy c = .adaptive ∧
      (afterCrowd.service.router.recalled? c afterCrowd.now.tick).map Head.id =
        some (afterCrowd.service.router.selectedId c) ∧
      (y.service.route y.now default c).1.headId ≠ y.service.router.selectedId c := by
  intro c y
  have hy : y.service.router.Agrees (Router.follow {} ⟨⟨0, 0⟩, 0⟩ (crowd ++ [.deregister "a"])) :=
    (run_agrees afterCrowd [.deregister "a"]).trans (now_afterCrowd ▸ afterCrowd_agrees.follow _ [.deregister "a"])
  have hynow : y.now = ⟨⟨0, 0⟩, 0⟩ := now_afterCrowd
  refine ⟨reachable_afterCrowd, settled_afterCrowd.1, ?_, ?_⟩
  · rw [now_afterCrowd, afterCrowd_agrees.recalled?_eq, afterCrowd_agrees.selectedId_eq]
    decide +kernel
  · rw [Service.route_decision, (hy.decide c _).1, hy.selectedId_eq, hynow]
    decide +kernel

end Session

end FleetRouting
