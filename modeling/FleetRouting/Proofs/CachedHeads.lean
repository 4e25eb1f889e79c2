import FleetRouting.Proofs.Routing.Completeness
/-!
# FleetRouting.Proofs.CachedHeads

**A remembered choice is a head that could be given now.** Look-ups check the head that an entry names, but in a run
there is nothing to catch: every entry of the cache, expired or not, names an active head of the model type of its key
(`Router.Live`). What is remembered is a candidate, and each command forgets the choices of the heads that leave the
listing of a model type.
-/

namespace FleetRouting

/-- The head that an entry names is listed for the model type of its key. -/
def Registry.Lists (r : Registry) (e : CacheEntry) : Prop := ∃ h ∈ r.listActive e.key.modelType, h.id = e.headId

namespace Registry.Lists

variable {r t : Registry} {e : CacheEntry}

theorem of_same (h : r.Lists e) (hsame : t.listActive e.key.modelType = r.listActive e.key.modelType) : t.Lists e := by
  obtain ⟨a, ha, hid⟩ := h
  exact ⟨a, hsame ▸ ha, hid⟩

/-- Others may leave the listing. -/
theorem of_left {stays : Head → Bool} (h : r.Lists e)
    (hleft : t.listActive e.key.modelType = (r.listActive e.key.modelType).filter stays)
    (hstays : ∀ a ∈ r.listActive e.key.modelType, a.id = e.headId → stays a) : t.Lists e := by
  obtain ⟨a, ha, hid⟩ := h
  exact ⟨a, hleft ▸ List.mem_filter.2 ⟨ha, hstays a ha hid⟩, hid⟩

/-- A head may be replaced in its place. -/
theorem of_refreshed {new : Head} (h : r.Lists e)
    (hlisted : t.listActive e.key.modelType = (r.listActive e.key.modelType).map new.unless) : t.Lists e := by
  obtain ⟨a, ha, hid⟩ := h
  exact ⟨new.unless a, hlisted ▸ List.mem_map_of_mem ha, (new.unless_id a).trans hid⟩

end Registry.Lists

namespace Router

/-- Every entry of the cache names a head that is listed for the model type of its key. -/
def Live (r : Router) : Prop := ∀ e ∈ r.cache.entries, r.registry.Lists e

namespace Live

variable {r : Router} (h : r.Live)

theorem of_no_entries (hempty : r.cache.entries = []) : r.Live := by
  intro e he
  rw [hempty] at he
  cases he

include h

theorem of_agrees {t : Router} (hagrees : t.Agrees r) : t.Live := by
  intro e he
  rw [hagrees.cache] at he
  rw [hagrees.registry]
  exact h e he

/-- A decision remembers a candidate, and leaves the heads as they are. -/
theorem decide (c : Criteria) (tick : Nat) : (r.decide c tick).2.Live := by
  intro e he
  rw [decide_registry]
  rcases mem_decide_cache he with he | ⟨s, hselected, -, rfl⟩
  · exact h e he
  · exact ⟨s.head, mem_candidates_of_selection hselected, rfl⟩

theorem register (hr : r.Faithful) (q : Registration) (now : Timestamp) : (r.register q now).Live := by
  intro e he
  obtain ⟨hbefore, hsame⟩ := hr.mem_register_cache he
  exact (h e hbefore).of_same hsame

theorem report (hr : r.Faithful) {now : Timestamp} {q : StatusReport} {change : StatusChange} {registry : Registry}
    (hreport : r.report? now q = some (change, registry)) :
    Router.Live { r with registry := registry, cache := Service.forgetReport r.cache change } := by
  intro e he
  obtain ⟨hbefore, hother⟩ := Faithful.mem_forgetReport he
  by_cases hnews : change.statusChanged = true ∨ change.loadChanged = true
  · exact (h e hbefore).of_same (hr.report_of_other hreport (hother hnews).symm)
  -- a head that repeats itself is listed as it was
  · rw [not_or, Bool.not_eq_true, Bool.not_eq_true] at hnews
    exact (h e hbefore).of_refreshed (hr.report_of_repeated hreport hnews.2 hnews.1 _).1

theorem deregister {id : String} {change : StatusChange} {registry : Registry}
    (hchange : r.registry.deactivate? id = some (change, registry)) :
    Router.Live { r with registry := registry, cache := r.cache.invalidateHead id } := by
  intro e he
  obtain ⟨hbefore, hid⟩ := List.mem_filter.1 he
  refine (h e hbefore).of_left (Registry.listActive_deactivate? hchange _) fun a _ ha => ?_
  rw [ha]
  exact hid

theorem sweep (now : Timestamp) (timeout : Duration) (order : List String) : (r.sweep now timeout order).Live := by
  intro e he
  obtain ⟨hbefore, hvocal⟩ := Faithful.mem_sweep_cache he
  refine (h e hbefore).of_left (Registry.listActive_markStale now timeout order r.registry _) fun a ha haid => ?_
  rw [hvocal a (Registry.mem_listActive.1 ha).1 haid]
  rfl

/-- Every command keeps the remembered heads in routing. -/
theorem outcome (hr : r.Faithful) (now : Moment) (c : Command) : (r.outcome now c).router.Live := by
  have hmoves := r.moves_outcome now c
  generalize (r.outcome now c).router = r' at hmoves ⊢
  cases hmoves with
  | stays => exact h
  | @registered q => exact h.register hr q now.wall
  | reported hreport => exact h.report hr hreport
  | deregistered hchange => exact h.deregister hchange
  | swept timeout order => exact h.sweep now.wall timeout order
  | policySet => exact of_no_entries rfl
  | decided decisionId c => exact h.decide c now.tick

end Live

end Router

namespace Session

/-- In every run the remembered heads are in routing. -/
theorem Reachable.live {x : Session} (hx : x.Reachable) : x.service.router.Live := by
  induction hx with
  | fresh store breaker bus cacheTtl now => exact .of_no_entries rfl
  | restored store breaker bus cacheTtl now =>
      exact .of_no_entries (congrArg Cache.entries (Service.cache_bootstrap _))
  | @step x hx c ih =>
      exact (ih.outcome hx.faithful x.now c).of_agrees (Service.respond_follows x.service x.now c).router

/-- **No entry of the cache names a head that is out of routing.** In every run, whatever the time to live is and
whatever the store does, each remembered choice, expired or not, is a registered head that is active and of the model
type of the entry's key. -/
theorem Reachable.cached_head {x : Session} (hx : x.Reachable) {e : CacheEntry}
    (he : e ∈ x.service.router.cache.entries) :
    ∃ h, x.service.router.registry.get? e.headId = some h ∧ h.isActive ∧ h.modelType = e.key.modelType := by
  obtain ⟨h, hlisted, hid⟩ := hx.live e he
  obtain ⟨hmem, hserves⟩ := Registry.mem_listActive.1 hlisted
  rw [← hid]
  exact ⟨h, Registry.get?_of_mem hx.faithful.distinct hmem, hserves⟩

/-- A head moves to another model type and is chosen there; of its first model type nothing is remembered. The entry
expires at once. -/
theorem cached_head_moved :
    let x := (start { outage := .total } {} {} (some 0) ⟨⟨0, 0⟩, 0⟩).run
      [.register ⟨"one", "http://one", "llm", "", "1", .empty, 10⟩, .route default { modelType := "llm" },
        .register ⟨"one", "http://one", "vision", "", "1", .empty, 10⟩, .route default { modelType := "vision" }]
    let e : CacheEntry := ⟨.ofCriteria { modelType := "vision" }, "one", 0⟩
    x.service.router.cache.entries = [e] ∧ x.service.router.cache.isFresh e 0 = false ∧
      ∃ h, x.service.router.registry.get? "one" = some h ∧ h.isActive ∧ h.modelType = "vision" := by
  intro x e
  have hx : x.Reachable := (Reachable.fresh { outage := .total } {} {} (some 0) ⟨⟨0, 0⟩, 0⟩).run _
  have hentries : x.service.router.cache.entries = [e] := rfl
  have he : e ∈ x.service.router.cache.entries := hentries ▸ List.mem_singleton_self e
  exact ⟨hentries, rfl, hx.cached_head he⟩

end Session

end FleetRouting
