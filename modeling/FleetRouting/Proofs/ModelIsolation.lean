import FleetRouting.Proofs.Numbering
import FleetRouting.Proofs.Routing.Restriction
/-!
# FleetRouting.Proofs.ModelIsolation

**Model types do not see each other.** A run is cut down to one model type by leaving out what is said of heads that are
never registered under it, and the requests for all others (`Command.concerns`). Beside the whole run, the shorter one
keeps all that routing knows about the model type (`Session.Shares`): commands that stay do the same on both sides, and
those that are left out change nothing of it. So both runs answer the requests for the model type alike, and remember
the same choices and stand at the same turn behind each (`Session.decisions_eq_alone`).
-/

namespace FleetRouting

namespace Command

/-- Whether a command stays when a run is cut down to a model type and to some identifiers. -/
def concerns (m : String) (kept : String → Bool) : Command → Bool
  | .register q => kept q.headId
  | .update q => kept q.headId
  | .deregister id => kept id
  | .route _ c => c.modelType == m
  | .sweep _ _ | .setPolicy _ | .advance _ _ => true

/-- Whether a command registers a head under a model type. With a blank field the registration is refused. -/
def registers (m id : String) : Command → Bool
  | .register q => q.modelType == m && q.headId == id &&
      (Service.blank? [("head_id", q.headId), ("endpoint", q.endpoint), ("model_type", q.modelType)]).isNone
  | _ => false

/-- What is left of a run for a model type, without the registrations, reports and deregistrations of heads that are
never registered under it, and without the requests for other model types. -/
def alone (m : String) (cs : List Command) : List Command :=
  cs.filter (concerns m fun id => cs.any (registers m id))

theorem registers_asked (m id : String) (c : Command) : c.asked.registers m id = c.registers m id := by
  cases c <;> rfl

theorem registers_of_accepted {q : Registration}
    (haccepted :
      Service.blank? [("head_id", q.headId), ("endpoint", q.endpoint), ("model_type", q.modelType)] = none) :
    registers q.modelType q.headId (.register q) = true := by
  simp only [registers, beq_self_eq_true, haccepted, Option.isNone_none, Bool.and_self]

end Command

variable {m : String} {kept : String → Bool}

/-! ### One command -/

/-- A change that leaves identifiers and model types alone. -/
theorem Registry.Confined.modelled_change? {r r' : Registry} (h : r.Confined m kept) {id : String} {f : Head → Head}
    {change : StatusChange} (hchange : r.change? id f = some (change, r'))
    (hf : ∀ h, (f h).id = h.id ∧ (f h).modelType = h.modelType) : ∀ a ∈ r'.heads, a.modelType = m → kept a.id = true := by
  intro a ha hmodel
  have hmakes := makes_change? hchange fun h => (hf h).1
  obtain ⟨hget, hcurrent, -⟩ := change?_eq_some hchange
  obtain ⟨hid, hsame⟩ := hf change.previous
  rcases hmakes.others a ha with hmade | hold
  · obtain rfl := List.mem_singleton.1 hmade
    rw [hcurrent] at hmodel ⊢
    have hkept := h.modelled change.previous (get?_eq_some hget).1 (hsame.symm.trans hmodel)
    exact (congrArg kept hid).trans hkept
  · exact h.modelled a hold hmodel

namespace Router

theorem about_register (r : Router) {q : Registration} (hid : kept q.headId = true) (now : Timestamp) :
    ((r.about m kept).register q now).about m kept = (r.register q now).about m kept := by
  refine about_congr (r.registry.register_about hid now).2 rfl ?_ (cursor_about r m kept)
  simp only [register, about, Service.about_forgetRegistration, Cache.about_about, Registry.get?_about hid]
  simp only [Service.forgetRegistration, Registry.register_modelType]
  cases r.registry.get? q.headId <;> rfl

/-- A change of a kept head, and of what is remembered, does not read anything else. -/
theorem about_changed (r : Router) {id : String} (hid : kept id = true) {f : Head → Head}
    (hf : ∀ h, (f h.unnumbered).unnumbered = (f h).unnumbered) {forget : StatusChange → Cache → Cache}
    (hforget : ∀ change cache, (forget change cache).about m = forget change.unnumbered (cache.about m)) :
    ((r.about m kept).changed id ((r.about m kept).registry.change? id f) forget).router.about m kept =
      (r.changed id (r.registry.change? id f) forget).router.about m kept := by
  have hchange := r.registry.change?_about hid hf
  show ((r.about m kept).changed id ((r.registry.about kept).change? id f) forget).router.about m kept = _
  cases hright : r.registry.change? id f with
  | none =>
      rw [hright, Option.map_none, Option.map_eq_none_iff] at hchange
      rw [hchange]
      exact about_about r m kept
  | some result =>
      rw [hright, Option.map_some, Option.map_eq_some_iff] at hchange
      obtain ⟨result', hleft, heq⟩ := hchange
      obtain ⟨hhead, hregistry⟩ := Prod.mk.inj heq
      rw [hleft]
      refine about_congr hregistry rfl ?_ (cursor_about r m kept)
      show (forget result'.1 (r.cache.about m)).about m = (forget result.1 r.cache).about m
      rw [hforget, hforget, Cache.about_about, hhead]

/-- It does not matter in which order a sweep comes by the heads. -/
theorem about_sweep {r : Router} (h : r.registry.Confined m kept) (hlive : r.Live) (now : Timestamp) (timeout : Duration)
    (order order' : List String) :
    ((r.about m kept).sweep now timeout order).about m kept = (r.sweep now timeout order').about m kept := by
  refine about_congr (r.registry.markStale_about kept now timeout order order') rfl ?_ (cursor_about r m kept)
  have hids := r.registry.ids_markStale_about kept now timeout order order'
  show (forgetAll ((r.registry.about kept).markStale now timeout order).1 (r.cache.about m)).about m =
    (forgetAll (r.registry.markStale now timeout order').1 r.cache).about m
  rw [forgetAll_eq_retain, forgetAll_eq_retain, hids, Cache.about_retain, Cache.about_about, Cache.about_retain]
  refine congrArg (fun entries => ({ r.cache with entries := entries } : Cache)) (List.filter_congr fun e he => ?_)
  obtain ⟨hmem, hkey⟩ := List.mem_filter.1 he
  -- the choices for the model type name kept heads only
  have hkept : kept e.headId = true := hlive.named h hmem (of_decide_eq_true hkey)
  simp only [List.mem_filter, hkept, and_true]

/-- **A command about what is kept comes to the same whatever else is known.** -/
theorem about_outcome {r : Router} (h : r.registry.Confined m kept) (hlive : r.Live) (now : Moment) {c : Command}
    (hc : c.concerns m kept = true) :
    ((r.about m kept).outcome now c).router.about m kept = (r.outcome now c).router.about m kept := by
  cases c with
  | register q =>
      simp only [outcome]
      split
      · exact about_about r m kept
      · exact r.about_register hc now.wall
  | update q =>
      simp only [outcome]
      split
      · exact about_about r m kept
      · exact r.about_changed hc (fun _ => rfl) fun change cache => Service.about_forgetReport cache change
  | deregister id =>
      simp only [outcome]
      split
      · exact about_about r m kept
      · exact r.about_changed hc (fun _ => rfl) fun _ cache => Cache.about_retain cache _
  | sweep timeout order => exact about_sweep h hlive now.wall timeout order order
  | setPolicy policy =>
      exact about_congr (Registry.about_about r.registry kept) rfl rfl (cursor_about r m kept)
  | route decisionId c => exact (decide_about h (beq_iff_eq.1 hc) hlive now.tick).2
  | advance wall nanos => exact about_about r m kept

/-- What is kept behind a command is decided by what it asks for. -/
theorem about_outcome_of_asked {r : Router} (h : r.registry.Confined m kept) (hlive : r.Live) (now : Moment)
    {c d : Command} (hcd : c.asked = d.asked) :
    (r.outcome now c).router.about m kept = (r.outcome now d).router.about m kept := by
  rcases Command.asked_cases hcd with rfl | ⟨timeout, order, order', rfl, rfl⟩ | ⟨i, j, q, rfl, rfl⟩
  · rfl
  · have halone := about_sweep h hlive now.wall timeout order
    exact (halone order).symm.trans (halone order')
  · rfl

/-- A change of a head that is not kept is not seen, as it forgets no choice for the model type. -/
theorem about_changed_of_other (r : Router) (h : r.registry.Confined m kept) {id : String} (hid : kept id = false)
    {f : Head → Head} (hf : ∀ h, (f h).id = h.id ∧ (f h).modelType = h.modelType) {forget : StatusChange → Cache → Cache}
    (hforget : ∀ change, change.current.id = id → change.current.modelType ≠ m →
      (forget change r.cache).about m = r.cache.about m) :
    (r.changed id (r.registry.change? id f) forget).router.about m kept = r.about m kept := by
  cases hchange : r.registry.change? id f with
  | none => rfl
  | some result =>
      have hregistry := Registry.about_change?_of_other hchange (fun h => (hf h).1) hid
      obtain ⟨hget, hcurrent, -⟩ := Registry.change?_eq_some hchange
      refine about_congr hregistry rfl (hforget result.1 ?_ ?_) rfl
      · rw [hcurrent]
        exact (hf _).1.trans (Registry.get?_eq_some hget).2
      · rw [hcurrent]
        show (f result.1.previous).modelType ≠ m
        rw [(hf _).2]
        exact h.modelType_ne hid hget

/-- **A command about nothing that is kept is not seen.** -/
theorem about_outcome_of_other {r : Router} (h : r.registry.Confined m kept) (hlive : r.Live) (now : Moment) {c : Command}
    (hc : c.concerns m kept = false) (hregisters : ∀ id, c.registers m id = true → kept id = true) :
    (r.outcome now c).router.about m kept = r.about m kept := by
  -- no choice for the model type names a head that is not kept
  have hnamed {id : String} (hid : kept id = false) : ∀ e ∈ r.cache.entries, e.key.modelType = m → e.headId ≠ id := by
    intro e he hkey heq
    have hkept := hlive.named h he hkey
    rw [heq, hid] at hkept
    cases hkept
  cases c with
  | register q =>
      simp only [outcome]
      split
      · rfl
      · next haccepted =>
          have hmodel : (r.registry.register q now.wall).1.modelType ≠ m := by
            rw [Registry.register_modelType]
            intro hm
            have hkept := hregisters q.headId (hm ▸ Command.registers_of_accepted haccepted)
            exact Bool.false_ne_true (hc.symm.trans hkept)
          exact about_congr (r.registry.about_register_of_other hc now.wall) rfl
            (Service.about_forgetRegistration_of_other hmodel fun p hp => h.modelType_ne hc hp) rfl
  | update q =>
      simp only [outcome]
      split
      · rfl
      · refine r.about_changed_of_other h hc (fun _ => ?_) fun change hid hmodel => ?_
        · exact ⟨rfl, rfl⟩
        · exact Service.about_forgetReport_of_other hmodel (hid ▸ hnamed hc)
  | deregister id =>
      simp only [outcome]
      split
      · rfl
      · refine r.about_changed_of_other h hc (fun _ => ?_) fun _ _ _ => ?_
        · exact ⟨rfl, rfl⟩
        · exact Cache.about_retain_of_all fun e he hkey => decide_eq_true (hnamed hc e he hkey)
  | sweep timeout order => cases hc
  | setPolicy policy => cases hc
  | route decisionId c => exact about_decide_of_other (beq_eq_false_iff_ne.1 hc) now.tick
  | advance wall nanos => cases hc

/-- A head changes its model type by registrations alone. -/
theorem modelled_outcome {r : Router} (h : r.registry.Confined m kept) (now : Moment) {c : Command}
    (hregisters : ∀ id, c.registers m id = true → kept id = true) :
    ∀ a ∈ (r.outcome now c).router.registry.heads, a.modelType = m → kept a.id = true := by
  have hmoves := r.moves_outcome now c
  generalize (r.outcome now c).router = r' at hmoves ⊢
  cases hmoves with
  | stays => exact h.modelled
  | @registered q haccepted =>
      intro a ha hmodel
      rcases (Registry.makes_register r.registry q now.wall).others a ha with hmade | hold
      · obtain rfl := List.mem_singleton.1 hmade
        rw [Registry.register_modelType] at hmodel
        rw [Registry.register_id]
        exact hregisters q.headId (hmodel ▸ Command.registers_of_accepted haccepted)
      · exact h.modelled a hold hmodel
  | reported hreport => exact h.modelled_change? hreport fun _ => ⟨rfl, rfl⟩
  | deregistered hchange => exact h.modelled_change? hchange fun _ => ⟨rfl, rfl⟩
  | swept timeout order =>
      intro a ha hmodel
      obtain ⟨-, hmarked, hothers⟩ := r.registry.markStale_spec now.wall timeout order
      rcases hothers a ha with hmade | hold
      · obtain ⟨-, -, -, b, hb, hform⟩ := hmarked a hmade
        rw [hform] at hmodel ⊢
        exact h.modelled b hb hmodel
      · exact h.modelled a hold hmodel
  | policySet => exact h.modelled
  | decided decisionId c =>
      rw [decide_registry]
      exact h.modelled

end Router

/-! ### Two runs -/

namespace Session

/-- What can be seen of a model type when a command has been answered: if it was a request for the model type, the
decision, the turn of the rotation, and the remembered choices. -/
def observed (m : String) (c : Command) (result : Answer × Session) : List (Decision × UInt64 × List CacheEntry) :=
  match c, result.1 with
  | .route _ q, .decision d =>
    if q.modelType = m then
      [(d, result.2.service.router.cursor m,
        result.2.service.router.cache.entries.filter fun e => e.key.modelType = m)]
    else []
  | _, _ => []

/-- What can be seen of a model type in a run. -/
def decisions (x : Session) (m : String) : List Command → List (Decision × UInt64 × List CacheEntry)
  | [] => []
  | c :: cs => observed m c (x.step c) ++ (x.step c).2.decisions m cs

/-- Two sessions that know the same about a model type. -/
structure Shares (m : String) (kept : String → Bool) (x y : Session) : Prop where
  left : x.Reachable ∧ x.service.router.registry.Confined m kept
  right : y.Reachable ∧ y.service.router.registry.Confined m kept
  now : x.now = y.now
  about : x.service.router.about m kept = y.service.router.about m kept

/-- A session keeps to the identifiers of its run. -/
theorem confined_step {x : Session} (hx : x.Reachable ∧ x.service.router.registry.Confined m kept) {c : Command}
    (hregisters : ∀ id, c.registers m id = true → kept id = true) :
    (x.step c).2.Reachable ∧ (x.step c).2.service.router.registry.Confined m kept := by
  have hstep := hx.1.step c
  refine ⟨hstep, hstep.faithful.distinct, ?_⟩
  have hrouter := (Service.respond_follows x.service x.now c).router.registry
  rw [step, hrouter]
  exact Router.modelled_outcome hx.2 x.now hregisters

/-- What routing knows about a model type behind a command is decided by the outcome. -/
theorem about_step (x : Session) (c : Command) :
    (x.step c).2.service.router.about m kept = (x.service.router.outcome x.now c).router.about m kept :=
  (Service.respond_follows x.service x.now c).router.about_eq

theorem observed_route (x : Session) (decisionId : Uuid) (q : Criteria) :
    observed m (.route decisionId q) (x.step (.route decisionId q)) =
      if q.modelType = m then
        [((x.service.router.decide q x.now.tick).1, (x.step (.route decisionId q)).2.service.router.cursor m,
          ((x.step (.route decisionId q)).2.service.router.cache.about m).entries)]
      else [] := by
  have hdecision : (x.step (.route decisionId q)).1 = .decision (x.service.router.decide q x.now.tick).1 :=
    congrArg Answer.decision (x.service.route_decision x.now decisionId q)
  simp only [observed, hdecision]
  rfl

namespace Shares

variable {x y : Session} (h : x.Shares m kept y)

include h

/-- A request for the model type shows the same in both sessions. -/
theorem observed_route_eq {i j : Uuid} {q : Criteria} (hmodel : q.modelType = m)
    (habout : (x.step (.route i q)).2.service.router.about m kept = (y.step (.route j q)).2.service.router.about m kept) :
    observed m (.route i q) (x.step (.route i q)) = observed m (.route j q) (y.step (.route j q)) := by
  have hx := (Router.decide_about h.left.2 hmodel h.left.1.live x.now.tick).1
  have hy := (Router.decide_about h.right.2 hmodel h.right.1.live y.now.tick).1
  rw [observed_route, observed_route, ← hx, ← hy, h.about, h.now,
    ← Router.cursor_about (x.step (.route i q)).2.service.router m kept, habout, Router.cursor_about]
  have hcache := congrArg Router.cache habout
  simp only [Router.about] at hcache
  rw [hcache]

variable {c d : Command} (hregisters : ∀ id, c.registers m id = true → kept id = true)

include hregisters

/-- A command that stays does the same in both sessions. -/
theorem step (hcd : c.asked = d.asked) (hc : c.concerns m kept = true) :
    (x.step c).2.Shares m kept (y.step d).2 ∧ observed m c (x.step c) = observed m d (y.step d) := by
  have habout : (x.step c).2.service.router.about m kept = (y.step d).2.service.router.about m kept := by
    rw [about_step, about_step, ← Router.about_outcome_of_asked h.right.2 h.right.1.live y.now hcd,
      ← Router.about_outcome h.left.2 h.left.1.live x.now hc, ← Router.about_outcome h.right.2 h.right.1.live y.now hc,
      h.about, h.now]
  have hregisters' : ∀ id, d.registers m id = true → kept id = true := by
    intro id hid
    rw [← Command.registers_asked, ← hcd, Command.registers_asked] at hid
    exact hregisters id hid
  refine ⟨⟨confined_step h.left hregisters, confined_step h.right hregisters', ?_, habout⟩, ?_⟩
  · show x.now.afterCommand c = y.now.afterCommand d
    rw [← x.now.afterCommand_asked c, hcd, h.now, Moment.afterCommand_asked]
  · rcases Command.asked_cases hcd with rfl | ⟨timeout, order, order', rfl, rfl⟩ | ⟨i, j, q, rfl, rfl⟩
    · cases c with
      | route i q => exact h.observed_route_eq (beq_iff_eq.1 hc) habout
      | _ => rfl
    · rfl
    · exact h.observed_route_eq (beq_iff_eq.1 hc) habout

/-- A command that is left out changes nothing that the other session knows. -/
theorem skip (hc : c.concerns m kept = false) : (x.step c).2.Shares m kept y ∧ observed m c (x.step c) = [] := by
  refine ⟨⟨confined_step h.left hregisters, h.right, ?_, ?_⟩, ?_⟩
  · rw [← h.now]
    cases c with
    | advance wall nanos => cases hc
    | _ => rfl
  · rw [about_step, Router.about_outcome_of_other h.left.2 h.left.1.live x.now hc hregisters, h.about]
  · cases c with
    | route decisionId q => rw [observed_route, if_neg (beq_eq_false_iff_ne.1 hc)]
    | _ => rfl

end Shares

theorem shares_start (m : String) (kept : String → Bool) (store store' : Store) (breaker breaker' : Breaker)
    (bus bus' : Bus) (cacheTtl : Option Duration) (now : Moment) :
    (start store breaker bus cacheTtl now).Shares m kept (start store' breaker' bus' cacheTtl now) where
  left := ⟨.fresh store breaker bus cacheTtl now, List.nodup_nil, nofun⟩
  right := ⟨.fresh store' breaker' bus' cacheTtl now, List.nodup_nil, nofun⟩
  now := rfl
  about := rfl

theorem Shares.decisions_eq {x y : Session} (h : x.Shares m kept y) {cs ds : List Command}
    (hregisters : ∀ c ∈ cs, ∀ id, c.registers m id = true → kept id = true)
    (hds : ds.map Command.asked = (cs.filter (Command.concerns m kept)).map Command.asked) :
    x.decisions m cs = y.decisions m ds := by
  induction cs generalizing x y ds with
  | nil =>
      obtain rfl := List.map_eq_nil_iff.1 hds
      rfl
  | cons c cs ih =>
      obtain ⟨hfirst, hrest⟩ := List.forall_mem_cons.1 hregisters
      cases hc : c.concerns m kept with
      | true =>
          rw [List.filter_cons_of_pos hc, List.map_cons] at hds
          obtain ⟨d, ds, rfl, hd, hds⟩ := List.map_eq_cons_iff.1 hds
          obtain ⟨hshares, hobserved⟩ := h.step hfirst hd.symm hc
          rw [decisions, decisions, hobserved, ih hshares hrest hds]
      | false =>
          rw [List.filter_cons_of_neg (by rw [hc]; exact Bool.false_ne_true)] at hds
          obtain ⟨hshares, hobserved⟩ := h.skip hfirst hc
          rw [decisions, hobserved, List.nil_append, ih hshares hrest hds]

/-- **Model types are isolated from one another.** Every request for a model type gets the same decision, for the same
reason, in a run of a new service and in what is left of the run for this model type alone; and behind it the same
choices for the model type are remembered, and its rotation stands at the same turn. The two services may be over
different stores, and what is left may be announced under other identifiers and sweep in other orders. -/
theorem decisions_eq_alone (store store' : Store) (breaker breaker' : Breaker) (bus bus' : Bus)
    (cacheTtl : Option Duration) (now : Moment) (m : String) {cs ds : List Command}
    (hds : ds.map Command.asked = (Command.alone m cs).map Command.asked) :
    (start store breaker bus cacheTtl now).decisions m cs = (start store' breaker' bus' cacheTtl now).decisions m ds := by
  have hshares := shares_start m (fun id => cs.any (Command.registers m id)) store store' breaker breaker' bus bus'
    cacheTtl now
  refine hshares.decisions_eq (fun c hc id hregisters => ?_) hds
  exact List.any_eq_true.2 ⟨c, hc, hregisters⟩

/-- The rotation of a model type goes on as if the heads and requests of another one were not there, whether or not the
store works, and whichever of two silent heads a sweep comes by first. -/
theorem decisions_eq_alone_rotation :
    let head (id m : String) := Command.register ⟨id, "http://" ++ id, m, "", "1", .empty, 10⟩
    let ask (m : String) := Command.route default { modelType := m }
    let x := start { outage := .total } {} {} none ⟨⟨0, 0⟩, 0⟩
    let y := start {} {} {} none ⟨⟨0, 0⟩, 0⟩
    let cs := [.setPolicy { defaultStrategy := .roundRobin }, head "one" "llm", head "two" "vision", ask "llm",
      ask "vision", head "three" "llm", ask "vision", ask "llm", .advance ⟨10, 0⟩ 10, .sweep (.ofSecs 5) [],
      head "one" "llm", ask "llm"]
    let ds := [.setPolicy { defaultStrategy := .roundRobin }, head "one" "llm", ask "llm", head "three" "llm",
      ask "llm", .advance ⟨10, 0⟩ 10, .sweep (.ofSecs 5) ["three"], head "one" "llm", ask "llm"]
    (x.decisions "llm" cs).map (fun d => (d.1.headId, d.2.1)) = [("one", 1), ("three", 2), ("one", 3)] ∧
      x.decisions "llm" cs = y.decisions "llm" ds := by
  intro head ask x y cs ds
  have hds : ds.map Command.asked = (Command.alone "llm" cs).map Command.asked := rfl
  exact ⟨by decide +kernel, decisions_eq_alone _ _ _ _ _ _ _ _ _ hds⟩

end Session

end FleetRouting
