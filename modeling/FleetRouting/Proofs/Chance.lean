import FleetRouting.Proofs.Lineup
import FleetRouting.Proofs.Routing.Resemblance
/-!
# FleetRouting.Proofs.Chance

**What is left to chance shows in identifiers and revisions alone.** Nobody who asks has in hand under which identifier a
decision is announced, nor in which order a sweep comes by the heads. A sweep gives out one span of revisions, one of
them to each head that it takes out of routing; which head gets which is up to the order. Routing states whose heads
differ by no more than that (`Router.Alike`) are moved alike by commands that ask for the same, and answer and announce
the same (`Router.Alike.outcome`).
-/

namespace FleetRouting

/-! ### Heads that differ in revisions of one span -/

/-- The revisions that a sweep gives out: those behind `before`, up to `last`. -/
structure Span where
  before : Nat
  last : Nat
  deriving DecidableEq

/-- Whether a revision is among those of a span. -/
def Span.Has (span : Span) (revision : Nat) : Prop := span.before < revision ∧ revision ≤ span.last

/-- Heads that differ at most in which revision of one of the spans they have. -/
structure Head.Alike (spans : List Span) (a b : Head) : Prop where
  unrevised : a.unrevised = b.unrevised
  revision : a.revision = b.revision ∨ ∃ span ∈ spans, span.Has a.revision ∧ span.Has b.revision

namespace Head.Alike

variable {spans : List Span} {a b : Head}

theorem refl (spans : List Span) (a : Head) : a.Alike spans a := ⟨rfl, .inl rfl⟩

/-- What does not read revisions is the same for heads that are alike. -/
theorem congr (h : a.Alike spans b) {β : Type} {f : Head → β} (hf : ∀ a : Head, f a.unrevised = f a) : f a = f b := by
  rw [← hf a, h.unrevised, hf]

end Head.Alike

section

variable {spans : List Span} {l l' : List Head} (h : List.Forall₂ (Head.Alike spans) l l')

include h

/-- What does not read revisions is the same for lists of heads that are alike. -/
theorem map_eq_of_alike {β : Type} {f : Head → β} (hf : ∀ a : Head, f a.unrevised = f a) : l.map f = l'.map f := by
  rw [← List.forall₂_eq_eq_eq, List.forall₂_map_left_iff, List.forall₂_map_right_iff]
  exact h.imp fun _ _ hab => hab.congr hf

/-- A condition that does not read revisions leaves heads that are alike. -/
theorem filter_alike {p : Head → Bool} (hp : ∀ a : Head, p a.unrevised = p a) :
    List.Forall₂ (Head.Alike spans) (l.filter p) (l'.filter p) :=
  List.rel_filter (fun _ _ hab => Bool.eq_iff_iff.1 (hab.congr hp)) h

end

/-- Registries that list heads that are alike in one order, and have the same counters. -/
structure Registry.Alike (spans : List Span) (r t : Registry) : Prop where
  heads : List.Forall₂ (Head.Alike spans) r.heads t.heads
  nextSequence : r.nextSequence = t.nextSequence
  lastRevision : r.lastRevision = t.lastRevision

namespace Registry.Alike

variable {spans : List Span} {r t : Registry}

theorem refl (spans : List Span) (r : Registry) : r.Alike spans r :=
  ⟨List.forall₂_same.2 fun a _ => .refl spans a, rfl, rfl⟩

variable (h : r.Alike spans t)

include h

/-! ### Changes of one head -/

theorem get?_cases (id : String) :
    r.get? id = none ∧ t.get? id = none ∨
      ∃ a b, r.get? id = some a ∧ t.get? id = some b ∧ a.Alike spans b := by
  have hheads := h.heads
  simp only [get?]
  generalize r.heads = l at hheads
  generalize t.heads = l' at hheads
  induction hheads with
  | nil => exact .inl ⟨rfl, rfl⟩
  | @cons a b l l' hab _ ih =>
      have hid : a.id = b.id := hab.congr fun _ => rfl
      rw [List.find?_cons, List.find?_cons, ← hid]
      cases a.id == id with
      | true => exact .inr ⟨a, b, rfl, rfl, hab⟩
      | false => exact ih

/-- One head takes the place of heads that are alike. -/
theorem replace (new : Head) (revision : Nat) :
    Registry.Alike spans { r.replace new with lastRevision := revision } { t.replace new with lastRevision := revision }
    where
  heads := by
    refine List.rel_map (fun a b hab => ?_) h.heads
    have hid : a.id = b.id := hab.congr fun _ => rfl
    rw [hid]
    split
    · exact .refl spans new
    · exact hab
  nextSequence := h.nextSequence
  lastRevision := rfl

theorem register (q : Registration) (now : Timestamp) :
    (r.register q now).1 = (t.register q now).1 ∧ (r.register q now).2.Alike spans (t.register q now).2 := by
  rcases h.get?_cases q.headId with ⟨hnone, hnone'⟩ | ⟨a, b, hsome, hsome', hab⟩
  · simp only [Registry.register, hnone, hnone', h.nextSequence, h.lastRevision]
    exact ⟨trivial, List.rel_append h.heads (.cons (.refl spans _) .nil), rfl, rfl⟩
  · have hhistory : a.loadHistory = b.loadHistory := hab.congr fun _ => rfl
    have hregistered : a.registeredAt = b.registeredAt := hab.congr fun _ => rfl
    have hsequence : a.sequence = b.sequence := hab.congr fun _ => rfl
    simp only [Registry.register, hsome, hsome', h.lastRevision, hhistory, hregistered, hsequence]
    exact ⟨trivial, h.replace _ _⟩

/-- A change that does not read revisions finds heads that are alike, and makes the same head of them. -/
theorem change?_cases (id : String) {f : Head → Head}
    (hf : ∀ (a : Head) (revision : Nat), (f a.unrevised).revised revision = (f a).revised revision) :
    r.change? id f = none ∧ t.change? id f = none ∨
      ∃ result result', r.change? id f = some result ∧ t.change? id f = some result' ∧
        result.1.previous.Alike spans result'.1.previous ∧ result.1.current = result'.1.current ∧
          result.2.Alike spans result'.2 := by
  simp only [change?]
  rcases h.get?_cases id with ⟨hnone, hnone'⟩ | ⟨a, b, hsome, hsome', hab⟩
  · rw [hnone, hnone']
    exact .inl ⟨rfl, rfl⟩
  · have hcurrent : (f a).revised (r.lastRevision + 1) = (f b).revised (t.lastRevision + 1) := by
      rw [← hf a, hab.unrevised, hf, h.lastRevision]
    rw [hsome, hsome']
    refine .inr ⟨_, _, rfl, rfl, hab, hcurrent, ?_⟩
    show Registry.Alike spans
      { r.replace ((f a).revised (r.lastRevision + 1)) with lastRevision := r.lastRevision + 1 }
      { t.replace ((f b).revised (t.lastRevision + 1)) with lastRevision := t.lastRevision + 1 }
    rw [hcurrent, h.lastRevision]
    exact h.replace _ _

/-! ### Silent heads -/

theorem visit (order : List String) : List.Forall₂ (Head.Alike spans) (visit order r.heads) (visit order t.heads) := by
  have hheads := h.heads
  generalize r.heads = l at hheads
  generalize t.heads = l' at hheads
  induction order generalizing l l' with
  | nil => exact hheads
  | cons id order ih =>
      exact List.rel_append (filter_alike hheads fun _ => rfl) (ih _ _ (filter_alike hheads fun _ => rfl))

theorem found_eq (now : Timestamp) (timeout : Int) (order : List String) :
    r.found now timeout order = t.found now timeout order :=
  map_eq_of_alike (filter_alike (h.visit order) fun _ => rfl) fun _ => rfl

/-- **Sweeps take heads out of routing that are alike, in whichever orders they come by them.** -/
theorem markStale (now : Timestamp) (timeout : Int) {order order' : List String}
    (hspans : order = order' ∨ ⟨r.lastRevision, (r.markStale now timeout order).2.lastRevision⟩ ∈ spans) :
    List.Forall₂ (Head.Alike spans) (r.markStale now timeout order).1 (t.markStale now timeout order').1 ∧
      (r.markStale now timeout order).2.Alike spans (t.markStale now timeout order').2 := by
  have hlength : (r.found now timeout order).length = (r.found now timeout order').length := by
    rw [length_found, length_found]
  -- a silent head gets revisions of one span, as it is come by on both sides
  have hretire : ∀ a b, a ∈ r.heads ∧ a.Alike spans b →
      (retire (isStale · now timeout) (r.found now timeout order) r.lastRevision a).Alike spans
        (retire (isStale · now timeout) (r.found now timeout order') r.lastRevision b) := by
    rintro a b ⟨ha, hab⟩
    have hstale' : isStale a now timeout = isStale b now timeout :=
      hab.congr (f := (isStale · now timeout)) fun _ => rfl
    have hid : a.id = b.id := hab.congr fun _ => rfl
    cases hstale : isStale a now timeout with
    | false =>
        rw [retire_of_not_stale (isStale · now timeout) _ _ hstale,
          retire_of_not_stale (isStale · now timeout) _ _ (hstale'.symm.trans hstale)]
        exact hab
    | true =>
        have hplace := idxOf_found_lt now timeout order ha hstale
        have hplace' := idxOf_found_lt now timeout order' ha hstale
        rw [retire_of_stale (isStale · now timeout) _ _ hstale,
          retire_of_stale (isStale · now timeout) _ _ (hstale'.symm.trans hstale)]
        refine ⟨congrArg (fun h : Head => { h with status := .inactive }) hab.unrevised, ?_⟩
        rw [← hid]
        rcases hspans with rfl | hspan
        · exact .inl rfl
        · refine .inr ⟨_, hspan, ?_⟩
          simp only [Span.Has, Registry.markStale]
          omega
  have hmembers : List.Forall₂ (fun a b => a ∈ r.heads ∧ a.Alike spans b) r.heads t.heads :=
    (List.forall₂_and_left _ _).2 ⟨fun _ ha => ha, h.heads⟩
  have hsilent : List.Forall₂ (fun a b => a ∈ r.heads ∧ a.Alike spans b)
      (r.heads.filter (isStale · now timeout)) (t.heads.filter (isStale · now timeout)) :=
    (List.forall₂_and_left _ _).2 ⟨fun _ ha => (List.mem_filter.1 ha).1, filter_alike h.heads fun _ => rfl⟩
  simp only [Registry.markStale, ← h.found_eq, ← h.lastRevision, ← hlength]
  exact ⟨List.rel_map hretire hsilent, List.rel_map hretire hmembers, h.nextSequence, rfl⟩

end Registry.Alike

/-! ### Routing states -/

/-- Routing states whose heads differ at most in which revision of a span they have, and in counters. -/
structure Router.Alike (spans : List Span) (r t : Router) : Prop where
  registry : r.registry.Alike spans t.registry
  policy : r.policy = t.policy
  cache : r.cache = t.cache
  cursors : r.cursors = t.cursors

/-- An event without the identifier of its decision. -/
def FleetEvent.anonymous : FleetEvent → FleetEvent
  | .routingDecided _ modelType headId strategyUsed timestamp =>
    .routingDecided default modelType headId strategyUsed timestamp
  | e => e

/-- The announcement of a decision, up to its identifier. -/
theorem Router.anonymous_decided (i j : Uuid) (c : Criteria) (now : Moment) (d : Decision) :
    (decided i c now d).map FleetEvent.anonymous = (decided j c now d).map FleetEvent.anonymous := by
  unfold decided
  split
  · rfl
  · rfl

/-- Outcomes that are the same but for revisions of spans, counters and the identifiers of decisions. -/
structure Outcome.Alike (spans : List Span) (o p : Outcome) : Prop where
  router : o.router.Alike spans p.router
  answer : o.answer = p.answer
  events : o.events.map FleetEvent.anonymous = p.events.map FleetEvent.anonymous

theorem Outcome.Alike.refused {spans : List Span} {r t : Router} (h : r.Alike spans t) (e : FleetError) :
    (Outcome.refused r e).Alike spans (Outcome.refused t e) :=
  ⟨h, rfl, rfl⟩

/-- What is forgotten depends on the identifiers of the heads. -/
theorem Router.forgetAll_eq_foldl (heads : List Head) (cache : Cache) :
    forgetAll heads cache = (heads.map Head.id).foldl Cache.invalidateHead cache :=
  List.foldl_map.symm

namespace Router.Alike

variable {spans : List Span} {r t : Router}

theorem refl (spans : List Span) (r : Router) : r.Alike spans r := ⟨.refl spans _, rfl, rfl, rfl⟩

/-- Counters are free on both sides. -/
theorem of_agrees {r' t' : Router} (h : r.Alike spans t) (hr : r'.Agrees r) (ht : t'.Agrees t) : r'.Alike spans t' where
  registry := hr.registry.symm ▸ ht.registry.symm ▸ h.registry
  policy := hr.policy.trans (h.policy.trans ht.policy.symm)
  cache := hr.cache.trans (h.cache.trans ht.cache.symm)
  cursors := hr.cursors.trans (h.cursors.trans ht.cursors.symm)

variable (h : r.Alike spans t)

include h

theorem resembles : r.Resembles t :=
  ⟨map_eq_of_alike h.registry.heads fun _ => rfl, h.policy, h.cache, h.cursors⟩

theorem outcome_register (now : Moment) (q : Registration) :
    (r.outcome now (.register q)).Alike spans (t.outcome now (.register q)) := by
  simp only [Router.outcome]
  split
  · exact .refused h _
  · obtain ⟨hhead, hregistry⟩ := h.registry.register q now.wall
    have hprevious (cache : Cache) (head : Head) :
        Service.forgetRegistration cache head (r.registry.get? q.headId) =
          Service.forgetRegistration cache head (t.registry.get? q.headId) := by
      rcases h.registry.get?_cases q.headId with ⟨hnone, hnone'⟩ | ⟨a, b, hsome, hsome', hab⟩
      · rw [hnone, hnone']
      · have hmodel : a.modelType = b.modelType := hab.congr fun _ => rfl
        simp only [hsome, hsome', Service.forgetRegistration, hmodel]
    refine ⟨⟨hregistry, h.policy, ?_, h.cursors⟩, by rw [hhead], by rw [hhead]⟩
    simp only [Router.register, hhead, h.cache, hprevious]

/-- Changes that are alike come to outcomes that are. -/
theorem outcome_changed (id : String) {f : Head → Head}
    (hf : ∀ (a : Head) (revision : Nat), (f a.unrevised).revised revision = (f a).revised revision)
    {forget : StatusChange → Cache → Cache}
    (hforget : ∀ previous current : Head, forget ⟨previous.unrevised, current⟩ = forget ⟨previous, current⟩) :
    (r.changed id (r.registry.change? id f) forget).Alike spans (t.changed id (t.registry.change? id f) forget) := by
  rcases h.registry.change?_cases id hf with ⟨hnone, hnone'⟩ | ⟨result, result', hsome, hsome', hprevious, hcurrent, hregistry⟩
  · rw [hnone, hnone']
    exact .refused h _
  · rw [hsome, hsome']
    obtain ⟨⟨previous, current⟩, registry⟩ := result
    obtain ⟨⟨previous', current'⟩, registry'⟩ := result'
    obtain rfl : current = current' := hcurrent
    refine ⟨⟨hregistry, h.policy, ?_, h.cursors⟩, rfl, rfl⟩
    show forget ⟨previous, current⟩ r.cache = forget ⟨previous', current⟩ t.cache
    have hprevious : previous.unrevised = previous'.unrevised := hprevious.unrevised
    rw [← hforget previous, hprevious, hforget, h.cache]

theorem outcome_sweep (now : Moment) (timeout : Duration) {order order' : List String}
    (hspans : order = order' ∨
      ⟨r.registry.lastRevision, (r.outcome now (.sweep timeout order)).router.registry.lastRevision⟩ ∈ spans) :
    (r.outcome now (.sweep timeout order)).Alike spans (t.outcome now (.sweep timeout order')) := by
  obtain ⟨hmarked, hregistry⟩ := h.registry.markStale now.wall timeout hspans
  refine ⟨⟨hregistry, h.policy, ?_, h.cursors⟩, ?_, ?_⟩
  · show forgetAll (r.registry.markStale now.wall timeout order).1 r.cache =
      forgetAll (t.registry.markStale now.wall timeout order').1 t.cache
    rw [forgetAll_eq_foldl, forgetAll_eq_foldl, map_eq_of_alike hmarked fun _ => rfl, h.cache]
  · exact congrArg Answer.swept hmarked.length_eq
  · exact congrArg (List.map FleetEvent.anonymous) (map_eq_of_alike hmarked fun _ => rfl)

theorem outcome_route (hr : Distinct r.registry.heads) (i j : Uuid) (now : Moment) (c : Criteria) :
    (r.outcome now (.route i c)).Alike spans (t.outcome now (.route j c)) := by
  obtain ⟨hdecision, hafter⟩ := h.resembles.decide c now.tick hr
  refine ⟨⟨?_, ?_, hafter.cache, hafter.cursors⟩, congrArg Answer.decision hdecision, ?_⟩
  · simp only [Router.outcome, decide_registry]
    exact h.registry
  · exact hafter.policy
  · simp only [Router.outcome, hdecision]
    exact anonymous_decided i j c now _

/-- **Routing states that are alike come to outcomes that are, by commands that ask for the same.** -/
theorem outcome (hr : Distinct r.registry.heads) (now : Moment) {c d : Command} (hcd : c.asked = d.asked)
    (hspans : c.order = d.order ∨ ⟨r.registry.lastRevision, (r.outcome now c).router.registry.lastRevision⟩ ∈ spans) :
    (r.outcome now c).Alike spans (t.outcome now d) := by
  rcases Command.asked_cases hcd with rfl | ⟨timeout, order, order', rfl, rfl⟩ | ⟨i, j, q, rfl, rfl⟩
  · cases c with
    | register q => exact h.outcome_register now q
    | update q =>
        simp only [Router.outcome]
        split
        · exact .refused h _
        · exact h.outcome_changed q.headId (fun _ _ => rfl) fun _ _ => rfl
    | deregister id =>
        simp only [Router.outcome]
        split
        · exact .refused h _
        · exact h.outcome_changed id (fun _ _ => rfl) fun _ _ => rfl
    | sweep timeout order => exact h.outcome_sweep now timeout (.inl rfl)
    | setPolicy policy => exact ⟨⟨h.registry, rfl, congrArg Cache.clear h.cache, h.cursors⟩, rfl, rfl⟩
    | route i c => exact h.outcome_route hr i i now c
    | advance wall nanos => exact ⟨h, rfl, rfl⟩
  · exact h.outcome_sweep now timeout hspans
  · exact h.outcome_route hr i j now q

end Router.Alike

end FleetRouting
