import FleetRouting.Proofs.Routing.Steady
import FleetRouting.Proofs.Run
/-!
# FleetRouting.Proofs.CacheTransparency

**A remembered answer is the answer that would be computed now.** The invariant is `Router.Faithful`: each entry of the
cache, expired or not, holds the steady choice of every request of its key. Each command forgets enough to keep it:
a registration touches two model types and drops both, a report that changes load or status drops one, any other
report only refreshes a head in its place, and heads that leave were not the choice of an entry that stays.
-/

namespace FleetRouting

namespace Router

/-- The steady choice for a request. -/
def steady? (r : Router) (c : Criteria) : Option Head :=
  steadyPick? (r.strategy c) (r.candidates c) c r.policy

/-- Every entry of the cache holds the steady choice of the requests of its key. -/
structure Faithful (r : Router) : Prop where
  distinct : Distinct r.registry.heads
  entries : ∀ e ∈ r.cache.entries, ∀ c, CacheKey.ofCriteria c = e.key → (r.strategy c).IsSteady c →
    (r.steady? c).map Head.id = some e.headId

namespace Faithful

theorem candidates {r : Router} (h : r.Faithful) (c : Criteria) : Distinct (r.candidates c) :=
  h.distinct.filter _

/-- Counters play no part. -/
theorem of_agrees {r t : Router} (h : r.Faithful) (hagrees : t.Agrees r) : t.Faithful where
  distinct := hagrees.registry ▸ h.distinct
  entries e he c hkey hsteady := by
    rw [hagrees.cache] at he
    rw [hagrees.strategy_eq] at hsteady
    rw [steady?, hagrees.strategy_eq, hagrees.candidates_eq, hagrees.policy]
    exact h.entries e he c hkey hsteady

/-- Without entries there is nothing to be wrong about. -/
theorem of_no_entries {r : Router} (hdistinct : Distinct r.registry.heads) (hempty : r.cache.entries = []) :
    r.Faithful where
  distinct := hdistinct
  entries e he := by
    rw [hempty] at he
    cases he

/-! ### Decisions -/

/-- What a decision remembers is the steady choice of all requests of its key. -/
theorem decide {r : Router} (h : r.Faithful) (c : Criteria) (tick : Nat) : (r.decide c tick).2.Faithful where
  distinct := by
    rw [decide_registry]
    exact h.distinct
  entries e he d hkey hsteady := by
    have hstrategy (c' : Criteria) : (r.decide c tick).2.strategy c' = r.strategy c' := by
      rw [strategy, strategy, decide_policy]
    have hsteady? : (r.decide c tick).2.steady? d = r.steady? d := by
      rw [steady?, steady?, hstrategy, decide_policy, Router.candidates, decide_registry]
      rfl
    rw [hstrategy] at hsteady
    rw [hsteady?]
    rcases mem_decide_cache he with he | ⟨s, hselected, hcacheable, rfl⟩
    · exact h.entries e he d hkey hsteady
    · -- the entry was made for `c`, and `d` has its key
      have hagrees := CacheKey.agrees_of_eq hkey
      have hsame : r.strategy d = r.strategy c := by
        rw [strategy, strategy, Criteria.effectiveStrategy, Criteria.effectiveStrategy, hagrees.strategy]
      have hcandidates : r.candidates d = r.candidates c := by
        rw [Router.candidates, Router.candidates, hagrees.modelType]
      have hpick : steadyPick? (r.strategy c) (r.candidates c) c r.policy = some s.head :=
        steadyPick?_of_select (hagrees.isSteady (hsame ▸ hsteady)) hselected hcacheable
      rw [steady?, hagrees.steadyPick?_eq hsteady, hsame, hcandidates, hpick]
      rfl

/-! ### Changes of the registry -/

/-- How a router may change so that it stays faithful: an entry is kept only if the steady choice for its model type
keeps its identifier. -/
theorem of_kept {r t : Router} (h : r.Faithful) (hdistinct : Distinct t.registry.heads)
    (hpolicy : t.policy = r.policy)
    (hentries : ∀ e ∈ t.cache.entries, e ∈ r.cache.entries ∧
      ∀ (strategy : Strategy) (c : Criteria) (w : Head), c.modelType = e.key.modelType → w.id = e.headId →
        steadyPick? strategy (r.candidates c) c r.policy = some w →
          (steadyPick? strategy (t.candidates c) c r.policy).map Head.id = some w.id) :
    t.Faithful where
  distinct := hdistinct
  entries e he c hkey hsteady := by
    obtain ⟨hbefore, hkept⟩ := hentries e he
    have hstrategy : t.strategy c = r.strategy c := by rw [strategy, strategy, hpolicy]
    rw [hstrategy] at hsteady
    -- `w` is the steady choice before the change
    obtain ⟨w, hw, hid⟩ := Option.map_eq_some_iff.1 (h.entries e hbefore c hkey hsteady)
    rw [steady?, hstrategy, hpolicy, ← hid]
    exact hkept _ c w (congrArg CacheKey.modelType hkey) hid hw

/-- An entry of a model type whose listing did not change. -/
theorem kept_of_same {r t : Router} {c : Criteria} {w : Head} {strategy : Strategy}
    (hsame : t.registry.listActive c.modelType = r.registry.listActive c.modelType)
    (hw : steadyPick? strategy (r.candidates c) c r.policy = some w) :
    (steadyPick? strategy (t.candidates c) c r.policy).map Head.id = some w.id := by
  rw [Router.candidates, hsame]
  exact congrArg (Option.map Head.id) hw

/-- An entry whose head is not among those that left. -/
theorem kept_of_left {r t : Router} (h : r.Faithful) {c : Criteria} {w : Head} {strategy : Strategy}
    {stays : Head → Bool}
    (hleft : t.registry.listActive c.modelType = (r.registry.listActive c.modelType).filter stays)
    (hw : steadyPick? strategy (r.candidates c) c r.policy = some w) (hstays : stays w) :
    (steadyPick? strategy (t.candidates c) c r.policy).map Head.id = some w.id := by
  rw [Router.candidates, hleft]
  exact congrArg (Option.map Head.id) ((h.candidates c).steadyPick?_filter hw hstays)

/-- What a registration leaves in the cache is of neither model type of its head. -/
theorem mem_forgetRegistration {cache : Cache} {head : Head} {previous : Option Head} {e : CacheEntry}
    (he : e ∈ (Service.forgetRegistration cache head previous).entries) :
    e ∈ cache.entries ∧ head.modelType ≠ e.key.modelType ∧
      ∀ p, previous = some p → p.modelType ≠ e.key.modelType := by
  have hmem : ∀ {m : String} {cache : Cache}, e ∈ (cache.invalidateModel m).entries →
      e ∈ cache.entries ∧ m ≠ e.key.modelType := by
    intro m cache he
    obtain ⟨hbefore, hmodel⟩ := List.mem_filter.1 he
    exact ⟨hbefore, (of_decide_eq_true hmodel).symm⟩
  cases previous with
  | none =>
      obtain ⟨hbefore, hnew⟩ := hmem he
      exact ⟨hbefore, hnew, nofun⟩
  | some p =>
      simp only [Service.forgetRegistration] at he
      split at he
      · obtain ⟨hafter, hold⟩ := hmem he
        obtain ⟨hbefore, hnew⟩ := hmem hafter
        exact ⟨hbefore, hnew, fun _ hp => Option.some.inj hp ▸ hold⟩
      · next hsame =>
          obtain ⟨hbefore, hnew⟩ := hmem he
          refine ⟨hbefore, hnew, fun _ hp => ?_⟩
          rw [← Option.some.inj hp, Decidable.not_not.1 hsame]
          exact hnew

/-- What a registration leaves in the cache is of model types whose listings it leaves alone. -/
theorem mem_register_cache {r : Router} (h : r.Faithful) {q : Registration} {now : Timestamp} {e : CacheEntry}
    (he : e ∈ (r.register q now).cache.entries) :
    e ∈ r.cache.entries ∧
      (r.register q now).registry.listActive e.key.modelType = r.registry.listActive e.key.modelType := by
  have he : e ∈ (Service.forgetRegistration r.cache (r.registry.register q now).1
      (r.registry.get? q.headId)).entries := he
  obtain ⟨hbefore, hnew, hold⟩ := mem_forgetRegistration he
  rw [Registry.register_modelType] at hnew
  exact ⟨hbefore, Registry.listActive_register_of_other h.distinct now hnew hold⟩

theorem register {r : Router} (h : r.Faithful) (q : Registration) (now : Timestamp) :
    (r.register q now).Faithful := by
  refine h.of_kept (Registry.distinct_register h.distinct q now) rfl fun e he => ?_
  obtain ⟨hbefore, hsame⟩ := h.mem_register_cache he
  refine ⟨hbefore, fun strategy c w hc _ hw => kept_of_same ?_ hw⟩
  rw [hc]
  exact hsame

/-- A report finds the only head of its identifier, and leaves it its model type. -/
theorem report?_spec {r : Router} (h : r.Faithful) {now : Timestamp} {q : StatusReport} {change : StatusChange}
    {registry : Registry} (hreport : r.report? now q = some (change, registry)) :
    change.current.modelType = change.previous.modelType ∧
      ∀ a ∈ r.registry.heads, a.id = change.current.id → a = change.previous := by
  obtain ⟨-, hcurrent, -⟩ := Registry.change?_eq_some hreport
  refine ⟨?_, fun _ => Registry.eq_previous h.distinct hreport fun _ => rfl⟩
  rw [hcurrent]
  rfl

/-- A report that repeats status and load refreshes its head, in its place or outside of all listings. -/
theorem report_of_repeated {r : Router} (h : r.Faithful) {now : Timestamp} {q : StatusReport}
    {change : StatusChange} {registry : Registry} (hreport : r.report? now q = some (change, registry))
    (hload : change.loadChanged = false) (hstatus : change.statusChanged = false) (m : String) :
    registry.listActive m = (r.registry.listActive m).map change.current.unless ∧
      ∀ a ∈ r.registry.listActive m, a.Refreshes (change.current.unless a) := by
  obtain ⟨hsameModel, hprevious⟩ := h.report?_spec hreport
  obtain ⟨-, hcurrent, rfl⟩ := Registry.change?_eq_some hreport
  have hsameLoad : change.previous.currentLoad = change.current.currentLoad := bne_eq_false_iff_eq.1 hload
  have hsameStatus : change.previous.status = change.current.status := bne_eq_false_iff_eq.1 hstatus
  refine ⟨Registry.listActive_replace_of_stayed r.registry fun a ha haid => ?_, fun a ha => ?_⟩
  · rw [hprevious a ha haid, Head.isActive, Head.isActive, hsameStatus, hsameModel]
  · unfold Head.unless
    split
    · next haid =>
        rw [hprevious a (Registry.mem_listActive.1 ha).1 haid]
        refine ⟨?_, hsameLoad.symm, ?_, ?_, ?_⟩ <;> rw [hcurrent] <;> rfl
    · exact ⟨rfl, rfl, rfl, rfl, rfl⟩

/-- What a report leaves in the cache was there, and is of another model type if the report brings news. -/
theorem mem_forgetReport {cache : Cache} {change : StatusChange} {e : CacheEntry}
    (he : e ∈ (Service.forgetReport cache change).entries) :
    e ∈ cache.entries ∧
      (change.statusChanged = true ∨ change.loadChanged = true →
        e.key.modelType ≠ change.current.modelType) := by
  unfold Service.forgetReport at he
  split at he
  · obtain ⟨hbefore, hmodel⟩ := List.mem_filter.1 he
    exact ⟨hbefore, fun _ => of_decide_eq_true hmodel⟩
  · next hrepeated =>
      have hnone : ¬ (change.statusChanged = true ∨ change.loadChanged = true) := by
        rwa [Bool.or_eq_true] at hrepeated
      refine ⟨?_, fun hnews => absurd hnews hnone⟩
      split at he
      · exact (List.mem_filter.1 he).1
      · exact he

/-- A report is seen under the model type of its head alone. -/
theorem report_of_other {r : Router} (h : r.Faithful) {now : Timestamp} {q : StatusReport} {change : StatusChange}
    {registry : Registry} (hreport : r.report? now q = some (change, registry)) {m : String}
    (hm : change.current.modelType ≠ m) : registry.listActive m = r.registry.listActive m := by
  obtain ⟨hsameModel, hprevious⟩ := h.report?_spec hreport
  obtain ⟨-, -, rfl⟩ := Registry.change?_eq_some hreport
  refine Registry.listActive_replace_of_other (r := r.registry) ?_ fun a ha haid => ?_
  · rw [beq_eq_false_iff_ne.2 hm, Bool.and_false]
  · rw [hprevious a ha haid, ← hsameModel, beq_eq_false_iff_ne.2 hm, Bool.and_false]

theorem report {r : Router} (h : r.Faithful) {now : Timestamp} {q : StatusReport} {change : StatusChange}
    {registry : Registry} (hreport : r.report? now q = some (change, registry)) :
    Router.Faithful { r with registry := registry, cache := Service.forgetReport r.cache change } := by
  refine h.of_kept (Registry.distinct_change? h.distinct hreport) rfl fun e he => ?_
  obtain ⟨hbefore, hother⟩ := mem_forgetReport he
  refine ⟨hbefore, fun strategy c w hc _ hpick => ?_⟩
  by_cases hnews : change.statusChanged = true ∨ change.loadChanged = true
  -- news drops the model type of the head, so the entry is of another one
  · refine kept_of_same (h.report_of_other hreport ?_) hpick
    rw [hc]
    exact (hother hnews).symm
  · rw [not_or, Bool.not_eq_true, Bool.not_eq_true] at hnews
    obtain ⟨hlisted, hrefreshes⟩ := h.report_of_repeated hreport hnews.2 hnews.1 c.modelType
    rw [Router.candidates, hlisted]
    show (steadyPick? strategy ((r.candidates c).map change.current.unless) c r.policy).map Head.id = some w.id
    rw [(h.candidates c).steadyPick?_map hrefreshes, hpick]
    exact congrArg some (change.current.unless_id w)

theorem deregister {r : Router} (h : r.Faithful) {id : String} {change : StatusChange} {registry : Registry}
    (hchange : r.registry.deactivate? id = some (change, registry)) :
    Router.Faithful { r with registry := registry, cache := r.cache.invalidateHead id } := by
  refine h.of_kept (Registry.distinct_change? h.distinct hchange) rfl fun e he => ?_
  obtain ⟨hbefore, hid⟩ := List.mem_filter.1 he
  refine ⟨hbefore, fun strategy c w _ hw hpick => ?_⟩
  refine h.kept_of_left (Registry.listActive_deactivate? hchange c.modelType) hpick ?_
  rw [hw]
  exact hid

theorem mem_forgetAll {heads : List Head} {cache : Cache} {e : CacheEntry}
    (he : e ∈ (forgetAll heads cache).entries) : e ∈ cache.entries ∧ ∀ h ∈ heads, h.id ≠ e.headId := by
  induction heads generalizing cache with
  | nil => exact ⟨he, nofun⟩
  | cons a heads ih =>
      obtain ⟨hafter, hrest⟩ := ih he
      obtain ⟨hbefore, hid⟩ := List.mem_filter.1 hafter
      refine ⟨hbefore, fun h hh => ?_⟩
      rcases List.mem_cons.1 hh with rfl | hh
      · exact (of_decide_eq_true hid).symm
      · exact hrest h hh

/-- What a sweep leaves in the cache names no head that was silent. -/
theorem mem_sweep_cache {r : Router} {now : Timestamp} {timeout : Duration} {order : List String} {e : CacheEntry}
    (he : e ∈ (r.sweep now timeout order).cache.entries) :
    e ∈ r.cache.entries ∧ ∀ a ∈ r.registry.heads, a.id = e.headId → Registry.isStale a now timeout = false := by
  obtain ⟨hbefore, hids⟩ := mem_forgetAll he
  refine ⟨hbefore, fun a ha haid => Bool.eq_false_iff.2 fun hstale => ?_⟩
  obtain ⟨b, hb, hid⟩ := List.mem_map.1 (Registry.mem_markStale now timeout order ha hstale)
  exact hids b hb (hid.trans haid)

theorem sweep {r : Router} (h : r.Faithful) (now : Timestamp) (timeout : Duration) (order : List String) :
    (r.sweep now timeout order).Faithful := by
  refine h.of_kept (Registry.distinct_markStale now timeout order h.distinct) rfl fun e he => ?_
  obtain ⟨hbefore, hvocal⟩ := mem_sweep_cache he
  refine ⟨hbefore, fun strategy c w _ hw hpick => ?_⟩
  refine h.kept_of_left (Registry.listActive_markStale now timeout order r.registry c.modelType) hpick ?_
  have hmem := (Registry.mem_listActive.1 ((h.candidates c).mem_of_steadyPick? hpick)).1
  rw [hvocal w hmem hw]
  rfl

/-- Every command keeps the cache faithful. -/
theorem outcome {r : Router} (h : r.Faithful) (now : Moment) (c : Command) :
    (r.outcome now c).router.Faithful := by
  have hmoves := r.moves_outcome now c
  generalize (r.outcome now c).router = r' at hmoves ⊢
  cases hmoves with
  | stays => exact h
  | @registered q => exact h.register q now.wall
  | reported hreport => exact h.report hreport
  | deregistered hchange => exact h.deregister hchange
  | swept timeout order => exact h.sweep now.wall timeout order
  | policySet => exact of_no_entries h.distinct rfl
  | decided decisionId c => exact h.decide c now.tick

end Faithful

/-! ### Cached answers -/

/-- No strategy answers under the name of cached answers. -/
theorem strategyUsed_compute (r : Router) (c : Criteria) (tick : Nat) :
    (r.compute c tick).1.strategyUsed ≠ cachedName := by
  have hname (strategy : Strategy) : strategy.name ≠ cachedName := by
    cases strategy <;> decide
  by_cases hnil : r.candidates c = []
  · rw [compute_of_no_candidates hnil]
    exact (by decide : "none" ≠ cachedName)
  · rw [compute_of_candidates hnil]
    cases r.selection c with
    | none => exact hname _
    | some s => exact hname _

/-- A cached answer shows the head that memory gives. -/
theorem recalled?_of_cached {r : Router} {c : Criteria} {tick : Nat}
    (hcached : (r.decide c tick).1.strategyUsed = cachedName) :
    ∃ h, r.recalled? c tick = some h ∧ (r.decide c tick).1 = .ofHead h cachedName "cached decision" := by
  cases hrecall : r.recalled? c tick with
  | some h =>
      rw [decide_of_recall hrecall]
      exact ⟨h, rfl, rfl⟩
  | none =>
      rw [decide_of_no_recall hrecall] at hcached
      exact absurd hcached (strategyUsed_compute _ c tick)

/-- Answers are called cached when memory gives them. -/
theorem strategyUsed_decide_iff {r : Router} {c : Criteria} {tick : Nat} :
    (r.decide c tick).1.strategyUsed = cachedName ↔ (r.recalled? c tick).isSome := by
  constructor
  · intro hcached
    obtain ⟨h, hrecall, -⟩ := recalled?_of_cached hcached
    rw [hrecall]
    rfl
  · intro hsome
    obtain ⟨h, hrecall⟩ := Option.isSome_iff_exists.1 hsome
    rw [decide_of_recall hrecall]
    rfl

/-- A router that remembers nothing answers with the steady choice. -/
theorem decide_of_steady? {r : Router} {c : Criteria} {h : Head} (hempty : r.cache.entries = [])
    (hsteady : r.steady? c = some h) (tick : Nat) :
    ∃ reason, (r.decide c tick).1 = .ofHead h (r.strategy c).name reason := by
  obtain ⟨s, hselected, rfl⟩ := select_of_steadyPick? hsteady (r.cursor c.modelType)
  have hselection : (r.tidied c tick).selection c = some s := hselected
  rw [decide_of_no_recall (recalled?_of_no_entries hempty c tick), compute_of_selection hselection]
  exact ⟨_, rfl⟩

/-- A faithful cache gives the head that the strategy of the request would choose. -/
theorem Faithful.steady?_of_recalled? {r : Router} (hr : r.Faithful) {c : Criteria} {tick : Nat} {h : Head}
    (hsteady : (r.strategy c).IsSteady c) (hrecall : r.recalled? c tick = some h) : r.steady? c = some h := by
  obtain ⟨⟨e, he, hkey, -, hget⟩, -⟩ := entry_of_recalled? hrecall
  obtain ⟨w, hw, hid⟩ := Option.map_eq_some_iff.1 (hr.entries e he c hkey.symm hsteady)
  have hmem := (Registry.mem_listActive.1 ((hr.candidates c).mem_of_steadyPick? hw)).1
  rw [hw, ← Registry.get?_of_mem hr.distinct hmem, hid, hget]

/-- The head that memory gives is a candidate, and some fresh entry names it. -/
theorem candidate_of_recalled? {r : Router} {c : Criteria} {tick : Nat} {h : Head}
    (hrecall : r.recalled? c tick = some h) :
    h ∈ r.candidates c ∧ ∃ e ∈ r.cache.entries, e.key = .ofCriteria c ∧ r.cache.isFresh e tick ∧ h.id = e.headId := by
  obtain ⟨⟨e, he, hkey, hfresh, hget⟩, hserves⟩ := entry_of_recalled? hrecall
  obtain ⟨hmem, hid⟩ := Registry.get?_eq_some hget
  exact ⟨List.mem_filter.2 ⟨hmem, hserves⟩, e, he, hkey, hfresh, hid⟩

/-- A candidate that a fresh entry names is the head that memory gives, now and before. -/
theorem Faithful.recalled?_of_candidate {r : Router} (hr : r.Faithful) (hunique : r.cache.Unique) {c : Criteria}
    {tick tick' : Nat} (hle : tick ≤ tick') {h : Head} (hlisted : h ∈ r.candidates c) {e : CacheEntry}
    (he : e ∈ r.cache.entries) (hkey : e.key = .ofCriteria c) (hfresh : r.cache.isFresh e tick')
    (hid : h.id = e.headId) : r.recalled? c tick = some h := by
  obtain ⟨hmem, hserves⟩ := List.mem_filter.1 hlisted
  have hfound : r.registry.get? e.headId = some h := by
    rw [← hid]
    exact Registry.get?_of_mem hr.distinct hmem
  exact recalled?_of_entry hunique he hkey (Cache.isFresh_of_le hle hfresh) hfound hserves

end Router

/-! ### Whole runs -/

/-- Restoring keeps the identifiers distinct. -/
theorem Service.distinct_bootstrap {s : Service} (hdistinct : Distinct s.router.registry.heads) :
    Distinct s.bootstrap.2.router.registry.heads := by
  obtain ⟨registry, policy, store, hregistry, hservice⟩ := s.bootstrap_cases
  rw [hservice]
  rcases hregistry with rfl | ⟨records, -, rfl⟩
  · exact hdistinct
  · exact Registry.distinct_restore hdistinct records

namespace Session

/-- In every run the cache is faithful. -/
theorem Reachable.faithful {x : Session} (h : x.Reachable) : x.service.router.Faithful := by
  induction h with
  | fresh store breaker bus cacheTtl now => exact .of_no_entries List.nodup_nil rfl
  | restored store breaker bus cacheTtl now =>
      exact .of_no_entries (Service.distinct_bootstrap List.nodup_nil)
        (congrArg Cache.entries (Service.cache_bootstrap _))
  | @step x h c ih => exact (ih.outcome x.now c).of_agrees (Service.respond_follows x.service x.now c).router

/-- In every run, a cached answer to a request for a steady choice shows the very head that is chosen over the same
heads and policy by a router that remembers nothing, whatever its turns and its clock are. -/
theorem Reachable.cached_decision {x : Session} (hx : x.Reachable) {c : Criteria}
    (hsteady : (x.service.router.strategy c).IsSteady c) {decisionId : Uuid} {d : Decision}
    (hd : (x.step (.route decisionId c)).1 = .decision d) (hcached : d.strategyUsed = Router.cachedName)
    {r : Router} (hregistry : r.registry = x.service.router.registry) (hpolicy : r.policy = x.service.router.policy)
    (hempty : r.cache.entries = []) (tick : Nat) :
    d.headId = (r.decide c tick).1.headId ∧ d.endpoint = (r.decide c tick).1.endpoint ∧
      d.metadata = (r.decide c tick).1.metadata := by
  injection hd with hd
  have hdecision : d = (x.service.router.decide c x.now.tick).1 :=
    hd.symm.trans (x.service.route_decision x.now decisionId c)
  rw [hdecision] at hcached ⊢
  obtain ⟨h, hrecall, hanswer⟩ := Router.recalled?_of_cached hcached
  have hsteady? : r.steady? c = some h := by
    rw [← hx.faithful.steady?_of_recalled? hsteady hrecall, Router.steady?, Router.steady?, Router.strategy,
      Router.strategy, Router.candidates, Router.candidates, hregistry, hpolicy]
  obtain ⟨reason, hcomputed⟩ := Router.decide_of_steady? hempty hsteady? tick
  rw [hanswer, hcomputed]
  exact ⟨rfl, rfl, rfl⟩

/-- A head is asked for twice: the second answer is a cached one. -/
theorem cached_decision_asked_twice :
    let c : Criteria := { modelType := "llm" }
    let x := (start {} {} {} none ⟨⟨0, 0⟩, 0⟩).run
      [.register ⟨"one", "http://one", "llm", "", "1", .empty, 10⟩, .route default c]
    let d := (x.service.route x.now default c).1
    let r : Router := { x.service.router with cache := {} }
    d.strategyUsed = Router.cachedName ∧ d.headId = (r.decide c 0).1.headId ∧
      d.endpoint = (r.decide c 0).1.endpoint ∧ d.metadata = (r.decide c 0).1.metadata := by
  intro c x d r
  have hx : x.Reachable := (Reachable.fresh {} {} {} none ⟨⟨0, 0⟩, 0⟩).run _
  have hsteady : (x.service.router.strategy c).IsSteady c := trivial
  have hd : (x.step (.route default c)).1 = .decision d := rfl
  have hcached : d.strategyUsed = Router.cachedName := rfl
  exact ⟨hcached, hx.cached_decision hsteady hd hcached (r := r) rfl rfl rfl 0⟩

end Session

end FleetRouting
