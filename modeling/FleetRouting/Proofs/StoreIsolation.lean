import FleetRouting.Proofs.CacheTransparency
import FleetRouting.Proofs.Chance
/-!
# FleetRouting.Proofs.StoreIsolation

**A store that fails never leaks into routing.** Two services over any two stores that are asked for the same stay alike:
they hold the same heads, counters, policy, remembered choices and turns, and they announce the same. Only what they
report of their own writes may differ, and what is left to chance: the identifiers of decisions, which are blanked out on
both sides, and which head gets which of the revisions that one sweep gives out.
-/

namespace FleetRouting

/-! ### Announcements without the identifiers of decisions -/

/-- A queue without the identifiers of decisions. -/
def WebhookQueue.anonymous (q : WebhookQueue) : WebhookQueue :=
  { q with items := q.items.map FleetEvent.anonymous }

/-- A bus without the identifiers of decisions. -/
def Bus.anonymous (b : Bus) : Bus :=
  { b with ring := b.ring.map FleetEvent.anonymous, queue := b.queue.map WebhookQueue.anonymous }

theorem WebhookQueue.anonymous_offer (q : WebhookQueue) (e : FleetEvent) :
    (q.offer e).anonymous = q.anonymous.offer e.anonymous := by
  unfold offer
  simp only [anonymous, List.length_map]
  split
  · simp only [List.map_append, List.map_cons, List.map_nil]
  · rfl

theorem Bus.anonymous_publish (b : Bus) (e : FleetEvent) :
    (b.publish e).anonymous = b.anonymous.publish e.anonymous := by
  have hqueue : (b.queue.map (·.offer e)).map WebhookQueue.anonymous =
      (b.queue.map WebhookQueue.anonymous).map (·.offer e.anonymous) := by
    cases b.queue with
    | none => rfl
    | some q => exact congrArg some (q.anonymous_offer e)
  simp only [publish, anonymous, hqueue, List.map_take, List.map_cons]

/-- Buses that are equal up to identifiers stay so under events that are. -/
theorem Bus.anonymous_foldl_publish {es fs : List FleetEvent} (b : Bus)
    (h : es.map FleetEvent.anonymous = fs.map FleetEvent.anonymous) {b' : Bus}
    (hb : b.anonymous = b'.anonymous) :
    (es.foldl Bus.publish b).anonymous = (fs.foldl Bus.publish b').anonymous := by
  induction es generalizing fs b b' with
  | nil =>
      cases fs with
      | nil => exact hb
      | cons f fs => cases h
  | cons e es ih =>
      cases fs with
      | nil => cases h
      | cons f fs =>
          obtain ⟨hhead, htail⟩ := List.cons.inj h
          refine ih (b.publish e) htail ?_
          rw [anonymous_publish, anonymous_publish, hb, hhead]

/-! ### Runs without a store -/

/-- Outcomes that are the same but for counters. -/
structure Outcome.Agrees (o p : Outcome) : Prop where
  router : o.router.Agrees p.router
  answer : o.answer = p.answer
  events : o.events = p.events

/-- Counters do not move routing. -/
theorem Router.Agrees.outcome {r t : Router} (h : r.Agrees t) (now : Moment) (c : Command) :
    (r.outcome now c).Agrees (t.outcome now c) := by
  have hdecide (q : Criteria) := h.decide q now.tick
  obtain ⟨hregistry, hpolicy, hcache, hcursors⟩ := h
  obtain ⟨registry, policy, cache, cursors, metrics⟩ := r
  obtain ⟨registry', policy', cache', cursors', metrics'⟩ := t
  obtain rfl : registry = registry' := hregistry
  obtain rfl : policy = policy' := hpolicy
  obtain rfl : cache = cache' := hcache
  obtain rfl : cursors = cursors' := hcursors
  cases c with
  | register q =>
      simp only [Router.outcome]
      split <;> exact ⟨⟨rfl, rfl, rfl, rfl⟩, rfl, rfl⟩
  | update q =>
      simp only [Router.outcome, report?]
      split
      · exact ⟨⟨rfl, rfl, rfl, rfl⟩, rfl, rfl⟩
      · cases registry.update? q.headId q.status q.currentLoad (q.reportedAt now.wall) <;>
          exact ⟨⟨rfl, rfl, rfl, rfl⟩, rfl, rfl⟩
  | deregister id =>
      simp only [Router.outcome]
      split
      · exact ⟨⟨rfl, rfl, rfl, rfl⟩, rfl, rfl⟩
      · cases registry.deactivate? id <;> exact ⟨⟨rfl, rfl, rfl, rfl⟩, rfl, rfl⟩
  | route decisionId q =>
      obtain ⟨hdecision, hrouter⟩ := hdecide q
      exact ⟨hrouter, congrArg Answer.decision hdecision, congrArg (decided decisionId q now) hdecision⟩
  | _ => exact ⟨⟨rfl, rfl, rfl, rfl⟩, rfl, rfl⟩

/-- The routing state behind a list of commands. -/
def Router.follow (r : Router) (now : Moment) : List Command → Router
  | [] => r
  | c :: cs => (r.outcome now c).router.follow (now.afterCommand c) cs

theorem Router.Agrees.follow {r t : Router} (h : r.Agrees t) (now : Moment) (cs : List Command) :
    (r.follow now cs).Agrees (t.follow now cs) := by
  induction cs generalizing r t now with
  | nil => exact h
  | cons c cs ih => exact ih (h.outcome now c).router _

/-- Whatever the store does, a run moves routing as its commands say. -/
theorem Session.run_agrees (x : Session) (cs : List Command) :
    (x.run cs).service.router.Agrees (x.service.router.follow x.now cs) := by
  induction cs generalizing x with
  | nil => exact .refl _
  | cons c cs ih =>
      have hstep := (Service.respond_follows x.service x.now c).router
      exact (ih (x.step c).2).trans (hstep.follow _ cs)

/-! ### Two services over two stores -/

/-- Answers that differ at most by reporting a lost write: both are what one verdict may become. A refusal is the same
on both sides. -/
def Answer.SameButForWrites (a b : Answer) : Prop := ∃ verdict : Answer, verdict.Stems a ∧ verdict.Stems b

/-- Sessions that show the same to everybody who routes and listens. -/
structure Session.Alike (spans : List Span) (x y : Session) : Prop where
  /-- The same heads but for revisions of the spans, and the same counters of the registry, policy, remembered choices
  and turns. -/
  router : x.service.router.Alike spans y.service.router
  /-- The same announcements, waiting for the same listeners. -/
  bus : x.service.bus.anonymous = y.service.bus.anonymous
  now : x.now = y.now

namespace Session

/-- The span of revisions that a command gives out, if another one comes by the heads in another order. -/
def span (x : Session) (c d : Command) : List Span :=
  if c.order = d.order then []
  else [⟨x.service.router.registry.lastRevision, (x.step c).2.service.router.registry.lastRevision⟩]

/-- The spans of revisions that a run gives out by commands that come by the heads in another order than those of a
second run. -/
def spans (x : Session) : List Command → List Command → List Span
  | c :: cs, d :: ds => x.span c d ++ (x.step c).2.spans cs ds
  | _, _ => []

variable {spans : List Span} {x y : Session}

/-- Services that are alike stay so when they are asked for the same, whatever the stores do. -/
theorem Alike.step (h : x.Alike spans y) (hx : x.Reachable) {c d : Command} (hcd : c.asked = d.asked)
    (hspans : x.span c d ⊆ spans) :
    (x.step c).1.SameButForWrites (y.step d).1 ∧ (x.step c).2.Alike spans (y.step d).2 := by
  have hleft := Service.respond_follows x.service x.now c
  have hright := Service.respond_follows y.service y.now d
  have ho := h.router.outcome hx.faithful.distinct x.now hcd <| by
    unfold span at hspans
    split at hspans
    · next horder => exact .inl horder
    · rw [← hleft.router.registry]
      exact .inr (hspans (List.mem_singleton_self _))
  -- each side follows its own outcome, and the outcomes are alike
  rw [← h.now] at hright
  simp only [Session.step, ← h.now]
  refine ⟨⟨_, hleft.answer, ?_⟩, ?_⟩
  · rw [ho.answer]
    exact hright.answer
  · refine ⟨ho.router.of_agrees hleft.router hright.router, ?_, ?_⟩
    · rw [hleft.bus, hright.bus]
      exact Bus.anonymous_foldl_publish _ ho.events h.bus
    · rw [← x.now.afterCommand_asked c, hcd, x.now.afterCommand_asked d]

/-- Services that are alike answer alike in whole runs. -/
theorem Alike.trace (h : x.Alike spans y) (hx : x.Reachable) {cs ds : List Command}
    (hcd : cs.map Command.asked = ds.map Command.asked) (hspans : x.spans cs ds ⊆ spans) :
    List.Forall₂ (fun p q => p.1.SameButForWrites q.1 ∧ p.2.Alike spans q.2) (x.trace cs) (y.trace ds) := by
  induction cs generalizing x y ds with
  | nil =>
      cases ds with
      | nil => exact .nil
      | cons d ds => cases hcd
  | cons c cs ih =>
      cases ds with
      | nil => cases hcd
      | cons d ds =>
          obtain ⟨hhead, htail⟩ := List.cons.inj hcd
          obtain ⟨hfirst, hrest⟩ := List.append_subset.1 hspans
          have hstep := h.step hx hhead hfirst
          exact .cons hstep (ih hstep.2 (hx.step c) htail hrest)

end Session

end FleetRouting
