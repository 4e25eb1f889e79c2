import FleetRouting.Proofs.Routing.Decide
import FleetRouting.Service
/-!
# FleetRouting.Proofs.Run

**Runs of a service, and what they do to routing.** A `Session` is a service with its clocks; a `Command` is a request
or the passing of time, and a run is a list of commands. `Router.outcome` says what a command does to the routing
state, what it answers and what it announces when the store is left out of account. The main statement is
`Service.respond_follows`: whatever the store does, a command moves the routing state and the bus exactly so, and
its answer differs at most by reporting that the write was lost. So what outcomes preserve holds in every run; it is shown
for the few ways in which a command moves the routing state (`Router.Moves`) and a write can end (`Service.Attempt`).
-/

namespace FleetRouting

/-! ### Commands and answers -/

/-- What is asked of a service, and the passing of time in between. -/
inductive Command where
  | register (q : Registration)
  | update (q : StatusReport)
  | deregister (id : String)
  /-- A look for silent heads; it comes by them in the order that `order` begins. -/
  | sweep (timeout : Duration) (order : List String)
  | setPolicy (policy : Policy)
  /-- A request for a head; the decision is announced under `decisionId`. -/
  | route (decisionId : Uuid) (c : Criteria)
  /-- The monotonic clock moves on by `nanos`, and the wall clock shows `wall`. -/
  | advance (wall : Timestamp) (nanos : Nat)

/-- What a command asks for, without what nobody who asks has in hand: the identifier of a decision, and the order in
which a sweep comes by the heads. -/
def Command.asked : Command → Command
  | .route _ c => .route default c
  | .sweep timeout _ => .sweep timeout []
  | c => c

/-- The order in which a command comes by the heads. -/
def Command.order : Command → List String
  | .sweep _ order => order
  | _ => []

/-- Commands that ask for the same are the same up to identifiers and orders. -/
theorem Command.asked_cases {c d : Command} (h : c.asked = d.asked) :
    c = d ∨ (∃ timeout order order', c = .sweep timeout order ∧ d = .sweep timeout order') ∨
      ∃ i j q, c = .route i q ∧ d = .route j q := by
  cases c with
  | sweep timeout order =>
      cases d with
      | sweep timeout' order' =>
          injection h with htimeout
          exact .inr (.inl ⟨timeout, order, order', rfl, htimeout ▸ rfl⟩)
      | _ => cases h
  | route i q =>
      cases d with
      | route j q' =>
          injection h with _ hq
          exact .inr (.inr ⟨i, j, q, rfl, hq ▸ rfl⟩)
      | _ => cases h
  | _ => cases d <;> first | exact .inl h | cases h

/-- What a command answers. -/
inductive Answer where
  | head (result : Except FleetError Head)
  | policy (result : Except FleetError Unit)
  | swept (count : Nat)
  | decision (d : Decision)
  /-- The passing of time answers nothing. -/
  | silence

/-- The answer of a service to a command. -/
def Service.respond (s : Service) (now : Moment) : Command → Answer × Service
  | .register q => (s.register now q).map Answer.head fun s => s
  | .update q => (s.update now q).map Answer.head fun s => s
  | .deregister id => (s.deregister now id).map Answer.head fun s => s
  | .sweep timeout order => (s.sweep now timeout order).map Answer.swept fun s => s
  | .setPolicy policy => (s.setPolicy now policy).map Answer.policy fun s => s
  | .route decisionId c => (s.route now decisionId c).map Answer.decision fun s => s
  | .advance _ _ => (.silence, s)

/-- The moment that a command leaves behind. -/
def Moment.afterCommand (now : Moment) : Command → Moment
  | .advance wall nanos => ⟨wall, now.tick + nanos⟩
  | _ => now

/-- The clocks are moved by what is asked for. -/
theorem Moment.afterCommand_asked (now : Moment) (c : Command) : now.afterCommand c.asked = now.afterCommand c := by
  cases c <;> rfl

/-- A service and the clocks it sees. -/
structure Session where
  service : Service
  now : Moment

namespace Session

/-- A new service over a store, before anything was asked of it. -/
def start (store : Store) (breaker : Breaker) (bus : Bus) (cacheTtl : Option Duration)
    (now : Moment) : Session :=
  ⟨Service.start store breaker bus cacheTtl, now⟩

/-- A session whose service has restored what it found in the store. -/
def bootstrapped (x : Session) : Session := ⟨x.service.bootstrap.2, x.now⟩

/-- One command: its answer, and the session behind it. -/
def step (x : Session) (c : Command) : Answer × Session :=
  let (answer, service) := x.service.respond x.now c
  (answer, ⟨service, x.now.afterCommand c⟩)

/-- The answers of a list of commands, each with the session behind it. -/
def trace (x : Session) : List Command → List (Answer × Session)
  | [] => []
  | c :: cs => x.step c :: (x.step c).2.trace cs

/-- The session behind a list of commands. -/
def run (x : Session) (cs : List Command) : Session := cs.foldl (fun x c => (x.step c).2) x

/-- The sessions of services that start anew, or restore their state from a store before anything else. -/
inductive Reachable : Session → Prop where
  | fresh (store : Store) (breaker : Breaker) (bus : Bus) (cacheTtl : Option Duration) (now : Moment) :
      Reachable (start store breaker bus cacheTtl now)
  | restored (store : Store) (breaker : Breaker) (bus : Bus) (cacheTtl : Option Duration) (now : Moment) :
      Reachable (start store breaker bus cacheTtl now).bootstrapped
  | step {x : Session} (h : Reachable x) (c : Command) : Reachable (x.step c).2

/-- The clocks of a run are moved by its commands alone. -/
theorem now_run (x : Session) (cs : List Command) : (x.run cs).now = cs.foldl Moment.afterCommand x.now := by
  induction cs generalizing x with
  | nil => rfl
  | cons c cs ih => exact ih (x.step c).2

/-- A run goes from reachable sessions to reachable ones. -/
theorem Reachable.run {x : Session} (h : x.Reachable) (cs : List Command) : (x.run cs).Reachable := by
  induction cs generalizing x with
  | nil => exact h
  | cons c cs ih => exact ih (h.step c)

end Session

/-! ### Routing without the store -/

namespace Router

/-- Forgets every choice of some heads. -/
def forgetAll (heads : List Head) (cache : Cache) : Cache :=
  heads.foldl (fun cache h => cache.invalidateHead h.id) cache

/-- The routing state after a registration. -/
def register (r : Router) (q : Registration) (now : Timestamp) : Router :=
  let (head, registry) := r.registry.register q now
  { r with
    registry := registry
    cache := Service.forgetRegistration r.cache head (r.registry.get? q.headId) }

/-- The routing state after a look for silent heads. -/
def sweep (r : Router) (now : Timestamp) (timeout : Duration) (order : List String) : Router :=
  let (stale, registry) := r.registry.markStale now timeout order
  { r with registry := registry, cache := forgetAll stale r.cache }

/-- What a status report finds and changes in the registry. -/
def report? (r : Router) (now : Timestamp) (q : StatusReport) : Option (StatusChange × Registry) :=
  r.registry.update? q.headId q.status q.currentLoad (q.reportedAt now)

end Router

/-- What a command comes to as long as the store takes every write. -/
structure Outcome where
  /-- The routing state behind the command. -/
  router : Router
  answer : Answer
  /-- What is announced, in order. -/
  events : List FleetEvent

/-- A command that is refused changes nothing. -/
def Outcome.refused (r : Router) (e : FleetError) : Outcome := ⟨r, .head (.error e), []⟩

namespace Router

/-- The outcome of a change of the head `id`. -/
def changed (r : Router) (id : String) (result : Option (StatusChange × Registry))
    (forget : StatusChange → Cache → Cache) : Outcome :=
  match result with
  | none => .refused r (.headNotFound id)
  | some (change, registry) =>
    ⟨{ r with registry := registry, cache := forget change r.cache }, .head (.ok change.current),
      [.statusChanged change.current]⟩

/-- The announcement of a decision. -/
def decided (decisionId : Uuid) (c : Criteria) (now : Moment) (d : Decision) : List FleetEvent :=
  if d.isEmpty then []
  else [.routingDecided decisionId c.modelType d.headId d.strategyUsed now.wall]

/-- The outcome of a command. -/
def outcome (r : Router) (now : Moment) : Command → Outcome
  | .register q =>
    match Service.blank? [("head_id", q.headId), ("endpoint", q.endpoint), ("model_type", q.modelType)] with
    | some e => .refused r e
    | none =>
      let head := (r.registry.register q now.wall).1
      ⟨r.register q now.wall, .head (.ok head), [.registered head]⟩
  | .update q =>
    match Service.blank? [("head_id", q.headId)] with
    | some e => .refused r e
    | none => r.changed q.headId (r.report? now.wall q) fun change cache => Service.forgetReport cache change
  | .deregister id =>
    match Service.blank? [("head_id", id)] with
    | some e => .refused r e
    | none => r.changed id (r.registry.deactivate? id) fun _ cache => cache.invalidateHead id
  | .sweep timeout order =>
    let stale := (r.registry.markStale now.wall timeout order).1
    ⟨r.sweep now.wall timeout order, .swept stale.length, stale.map .statusChanged⟩
  | .setPolicy policy =>
    ⟨{ r with policy := policy, cache := r.cache.clear }, .policy (.ok ()),
      [.policyUpdated policy.defaultStrategy now.wall]⟩
  | .route decisionId c =>
    let (d, router) := r.decide c now.tick
    ⟨router, .decision d, decided decisionId c now d⟩
  | .advance _ _ => ⟨r, .silence, []⟩

/-- How a command moves the routing state: not at all, also where it is refused, or in the way of its kind. -/
inductive Moves (r : Router) (now : Moment) : Command → Router → Prop where
  | stays (c : Command) : Moves r now c r
  | registered {q : Registration}
      (accepted : Service.blank? [("head_id", q.headId), ("endpoint", q.endpoint), ("model_type", q.modelType)] = none) :
      Moves r now (.register q) (r.register q now.wall)
  | reported {q : StatusReport} {result : StatusChange × Registry} (report : r.report? now.wall q = some result) :
      Moves r now (.update q) { r with registry := result.2, cache := Service.forgetReport r.cache result.1 }
  | deregistered {id : String} {result : StatusChange × Registry} (change : r.registry.deactivate? id = some result) :
      Moves r now (.deregister id) { r with registry := result.2, cache := r.cache.invalidateHead id }
  | swept (timeout : Duration) (order : List String) :
      Moves r now (.sweep timeout order) (r.sweep now.wall timeout order)
  | policySet (policy : Policy) : Moves r now (.setPolicy policy) { r with policy := policy, cache := r.cache.clear }
  | decided (decisionId : Uuid) (c : Criteria) : Moves r now (.route decisionId c) (r.decide c now.tick).2

theorem moves_outcome (r : Router) (now : Moment) (c : Command) : r.Moves now c (r.outcome now c).router := by
  cases c with
  | register q =>
      simp only [outcome]
      split
      · exact .stays _
      · next haccepted => exact .registered haccepted
  | update q =>
      simp only [outcome]
      split
      · exact .stays _
      · cases hreport : r.report? now.wall q with
        | none => exact .stays _
        | some result => exact .reported hreport
  | deregister id =>
      simp only [outcome]
      split
      · exact .stays _
      · cases hchange : r.registry.deactivate? id with
        | none => exact .stays _
        | some result => exact .deregistered hchange
  | sweep timeout order => exact .swept timeout order
  | setPolicy policy => exact .policySet policy
  | route decisionId c => exact .decided decisionId c
  | advance wall nanos => exact .stays _

/-- The policy stays in force unless the command sets one. -/
theorem Moves.policy_eq {r r' : Router} {now : Moment} {c : Command} (h : r.Moves now c r')
    (hc : ∀ policy, c ≠ .setPolicy policy) : r'.policy = r.policy := by
  cases h with
  | policySet policy => exact absurd rfl (hc policy)
  | decided decisionId c => exact r.decide_policy c now.tick
  | _ => rfl

end Router

/-! ### What a lost write may do -/

/-- True for an error that tells of a lost write; the change itself stands. -/
def FleetError.isLostWrite : FleetError → Bool
  | .persistence _ => true
  | .circuitOpen _ => true
  | .headNotFound _ => false
  | .blankField _ => false

/-- A result that is `a`, or tells that the write of `a` was lost. -/
def Kept {α : Type} (a : α) (result : Except FleetError α) : Prop :=
  result = .ok a ∨ ∃ e : FleetError, e.isLostWrite ∧ result = .error e

theorem Kept.map {α β : Type} {a : α} {result : Except FleetError α} (f : α → β) (h : Kept a result) :
    Kept (f a) (result.map f) := by
  rcases h with rfl | ⟨e, he, rfl⟩
  · exact .inl rfl
  · exact .inr ⟨e, he, rfl⟩

/-- How the answer of a command may differ from its verdict: only what was done can be reported as not written. -/
inductive Answer.Stems : (verdict answer : Answer) → Prop where
  | refused {e : FleetError} (h : e.isLostWrite = false) : Stems (.head (.error e)) (.head (.error e))
  | head {h : Head} {result : Except FleetError Head} (kept : Kept h result) :
      Stems (.head (.ok h)) (.head result)
  | policy {result : Except FleetError Unit} (kept : Kept () result) :
      Stems (.policy (.ok ())) (.policy result)
  | swept (count : Nat) : Stems (.swept count) (.swept count)
  | decision (d : Decision) : Stems (.decision d) (.decision d)
  | silence : Stems .silence .silence

namespace Service

/-- `t` comes from `s` by changes that routing does not see, and by announcing `events`. -/
structure Writes (s t : Service) (events : List FleetEvent) : Prop where
  router : t.router.Agrees s.router
  bus : t.bus = events.foldl Bus.publish s.bus

theorem Writes.refl (s : Service) : Writes s s [] := ⟨.refl _, rfl⟩

/-- The three ways of a write behind the breaker: the circuit refuses it, the store fails it, or it is done. -/
inductive Attempt (s : Service) (tick : Nat) (write : StoreM Unit) : Except FleetError Unit × Service → Prop where
  | refused (granted : (s.breaker.allow storeService tick).1 = false) :
      Attempt s tick write
        (.error (.circuitOpen storeService),
          ({ s with breaker := (s.breaker.allow storeService tick).2 }.count
            fun m => { m with breakerRejections := m.breakerRejections + 1 }).countFailure)
  | failed (granted : (s.breaker.allow storeService tick).1 = true) {e : StoreError} {store : Store}
      (run : write.run s.store = (.error e, store)) :
      Attempt s tick write
        (.error (.persistence e),
          { s with
            store := store
            breaker := (s.breaker.allow storeService tick).2.fail storeService tick }.countFailure)
  | succeeded (granted : (s.breaker.allow storeService tick).1 = true) {store : Store}
      (run : write.run s.store = (.ok (), store)) :
      Attempt s tick write
        (.ok (), { s with store := store, breaker := (s.breaker.allow storeService tick).2.success storeService })

theorem attempt_guarded (s : Service) (tick : Nat) (write : StoreM Unit) : s.Attempt tick write (s.guarded tick write) := by
  unfold guarded
  cases hallow : s.breaker.allow storeService tick with
  | mk granted breaker =>
      cases granted with
      | false =>
          have h : s.Attempt tick write _ := .refused (congrArg Prod.fst hallow)
          rwa [hallow] at h
      | true =>
          simp only [if_true, call]
          rcases hrun : write.run s.store with ⟨e | ⟨⟩, store⟩
          · have h := Attempt.failed (congrArg Prod.fst hallow) hrun
            rwa [hallow] at h
          · have h := Attempt.succeeded (congrArg Prod.fst hallow) hrun
            rwa [hallow] at h

/-- Writing behind the breaker never touches routing, and gives nothing but a lost write as an error. -/
theorem guarded_writes (s : Service) (tick : Nat) (write : StoreM Unit) :
    Kept () (s.guarded tick write).1 ∧ Writes s (s.guarded tick write).2 [] := by
  have hattempt := s.attempt_guarded tick write
  generalize s.guarded tick write = result at hattempt ⊢
  cases hattempt with
  | refused => exact ⟨.inr ⟨.circuitOpen storeService, rfl, rfl⟩, ⟨rfl, rfl, rfl, rfl⟩, rfl⟩
  | failed => exact ⟨.inr ⟨.persistence _, rfl, rfl⟩, ⟨rfl, rfl, rfl, rfl⟩, rfl⟩
  | succeeded => exact ⟨.inl rfl, ⟨rfl, rfl, rfl, rfl⟩, rfl⟩

/-- The gate holds a snapshot back, or it is written behind the breaker and at most the gate hears of it. -/
theorem saveSnapshot_cases (s : Service) (tick : Nat) (head : Head) :
    head.revision < (s.written.get? head.id).getD 0 ∧ s.saveSnapshot tick head = (.ok (), s) ∨
      ∃ written, (written = s.written ∨ written = s.written.insert head.id head.revision) ∧
        s.saveSnapshot tick head = ((s.guarded tick (Store.saveHead head)).1,
          { (s.guarded tick (Store.saveHead head)).2 with written := written }) := by
  unfold saveSnapshot
  by_cases hlate : head.revision < (s.written.get? head.id).getD 0
  · exact .inl ⟨hlate, if_pos hlate⟩
  · rw [if_neg hlate]
    right
    have hattempt := s.attempt_guarded tick (Store.saveHead head)
    generalize s.guarded tick (Store.saveHead head) = result at hattempt ⊢
    cases hattempt with
    | refused => exact ⟨s.written, .inl rfl, rfl⟩
    | failed => exact ⟨s.written, .inl rfl, rfl⟩
    | succeeded => exact ⟨_, .inr rfl, rfl⟩

theorem saveSnapshot_writes (s : Service) (tick : Nat) (head : Head) :
    Kept () (s.saveSnapshot tick head).1 ∧ Writes s (s.saveSnapshot tick head).2 [] := by
  rcases s.saveSnapshot_cases tick head with ⟨-, hsave⟩ | ⟨written, -, hsave⟩
  · rw [hsave]
    exact ⟨.inl rfl, .refl s⟩
  · have hguarded := guarded_writes s tick (Store.saveHead head)
    rw [hsave]
    exact ⟨hguarded.1, hguarded.2.router, hguarded.2.bus⟩

/-- A change is finished without an error exactly if its snapshot is. -/
theorem finish_eq_ok {s : Service} {tick : Nat} {head : Head} {event : FleetEvent} :
    (s.finish tick head event).1 = .ok head ↔ (s.saveSnapshot tick head).1 = .ok () := by
  unfold finish
  rcases s.saveSnapshot tick head with ⟨_ | ⟨⟩, t⟩
  · exact iff_of_false nofun nofun
  · exact iff_of_true rfl rfl

/-- Finishing ends as the write does, but for the head that it gives. -/
theorem finish_result (s : Service) (tick : Nat) (head : Head) (event : FleetEvent) :
    (s.finish tick head event).1.map (fun _ => ()) = (s.saveSnapshot tick head).1 := by
  unfold finish
  rcases s.saveSnapshot tick head with ⟨_ | ⟨⟩, t⟩
  · rfl
  · rfl

/-- Finishing a change writes it, announces it, and gives the head unless the write was lost. -/
theorem finish_writes (s : Service) (tick : Nat) (head : Head) (event : FleetEvent) :
    Kept head (s.finish tick head event).1 ∧ Writes s (s.finish tick head event).2 [event] := by
  have h := saveSnapshot_writes s tick head
  exact ⟨h.1.map fun _ => head, h.2.router, congrArg (Bus.publish · event) h.2.bus⟩

/-- Sweeping drops the choices of each silent head and announces it. -/
theorem foldl_finishStale_writes (tick : Nat) (stale : List Head) (s : Service) :
    Writes (s.mapCache (Router.forgetAll stale)) (stale.foldl (finishStale tick) s)
      (stale.map .statusChanged) := by
  induction stale generalizing s with
  | nil => exact .refl s
  | cons h stale ih =>
      -- finishing this head leaves the routing state to the others but for its own choices
      have hfinish := (finish_writes (s.mapCache (·.invalidateHead h.id)) tick h (.statusChanged h)).2
      have hrest := ih (finishStale tick s h)
      refine ⟨hrest.router.trans ?_, ?_⟩
      · exact ⟨hfinish.router.registry, hfinish.router.policy,
          congrArg (Router.forgetAll stale) hfinish.router.cache, hfinish.router.cursors⟩
      · rw [List.foldl_cons, hrest.bus, List.map_cons, List.foldl_cons]
        exact congrArg (List.foldl Bus.publish · _) hfinish.bus

/-- An answer of a service that came to an outcome, except that writes may have been lost. -/
structure Follows (s : Service) (o : Outcome) (result : Answer × Service) : Prop where
  answer : o.answer.Stems result.1
  router : result.2.router.Agrees o.router
  bus : result.2.bus = o.events.foldl Bus.publish s.bus

theorem Follows.refused (s : Service) {e : FleetError} (h : e.isLostWrite = false) :
    s.Follows (.refused s.router e) (.head (.error e), s) :=
  ⟨.refused h, .refl _, rfl⟩

/-- A blank field is not a lost write. -/
theorem isLostWrite_of_blank {fields : List (String × String)} {e : FleetError} (h : blank? fields = some e) :
    e.isLostWrite = false := by
  obtain ⟨field, -, rfl⟩ := Option.map_eq_some_iff.1 h
  rfl

/-- A change that is finished follows its outcome, whatever it counts meanwhile. -/
theorem Follows.finish {s t : Service} {o : Outcome} {h : Head} {event : FleetEvent} (tick : Nat)
    (hrouter : t.router.Agrees o.router) (hbus : t.bus = s.bus) (hanswer : o.answer = .head (.ok h))
    (hevents : o.events = [event]) :
    s.Follows o ((t.finish tick h event).map Answer.head fun s => s) := by
  have hfinish := finish_writes t tick h event
  refine ⟨?_, hfinish.2.router.trans hrouter, ?_⟩
  · rw [hanswer]
    exact .head hfinish.1
  · rw [hevents, ← hbus]
    exact hfinish.2.bus

theorem respond_register (s : Service) (now : Moment) (q : Registration) :
    s.Follows (s.router.outcome now (.register q)) (s.respond now (.register q)) := by
  simp only [respond, register, Router.outcome]
  cases hblank : blank? [("head_id", q.headId), ("endpoint", q.endpoint), ("model_type", q.modelType)] with
  | some e => exact .refused s (isLostWrite_of_blank hblank)
  | none => exact .finish now.tick ⟨rfl, rfl, rfl, rfl⟩ rfl rfl rfl

theorem respond_update (s : Service) (now : Moment) (q : StatusReport) :
    s.Follows (s.router.outcome now (.update q)) (s.respond now (.update q)) := by
  simp only [respond, update, Router.outcome, Router.report?]
  cases hblank : blank? [("head_id", q.headId)] with
  | some e => exact .refused s (isLostWrite_of_blank hblank)
  | none =>
      cases s.router.registry.update? q.headId q.status q.currentLoad (q.reportedAt now.wall) with
      | none => exact .refused s rfl
      | some result => exact .finish now.tick ⟨rfl, rfl, rfl, rfl⟩ rfl rfl rfl

theorem respond_deregister (s : Service) (now : Moment) (id : String) :
    s.Follows (s.router.outcome now (.deregister id)) (s.respond now (.deregister id)) := by
  simp only [respond, deregister, Router.outcome]
  cases hblank : blank? [("head_id", id)] with
  | some e => exact .refused s (isLostWrite_of_blank hblank)
  | none =>
      cases s.router.registry.deactivate? id with
      | none => exact .refused s rfl
      | some result => exact .finish now.tick ⟨rfl, rfl, rfl, rfl⟩ rfl rfl rfl

theorem respond_sweep (s : Service) (now : Moment) (timeout : Duration) (order : List String) :
    s.Follows (s.router.outcome now (.sweep timeout order)) (s.respond now (.sweep timeout order)) := by
  have h := foldl_finishStale_writes now.tick (s.router.registry.markStale now.wall timeout order).1
    (s.withRegistry (s.router.registry.markStale now.wall timeout order).2)
  exact ⟨.swept _, h.router.trans ⟨rfl, rfl, rfl, rfl⟩, h.bus⟩

theorem respond_setPolicy (s : Service) (now : Moment) (policy : Policy) :
    s.Follows (s.router.outcome now (.setPolicy policy)) (s.respond now (.setPolicy policy)) := by
  have h := guarded_writes
    ({ s with router := { s.router with policy := policy } }.mapCache (·.clear)) now.tick
    (Store.savePolicy policy)
  exact ⟨.policy h.1, h.2.router.trans ⟨rfl, rfl, rfl, rfl⟩,
    congrArg (Bus.publish · (.policyUpdated policy.defaultStrategy now.wall)) h.2.bus⟩

theorem respond_route (s : Service) (now : Moment) (decisionId : Uuid) (c : Criteria) :
    s.Follows (s.router.outcome now (.route decisionId c)) (s.respond now (.route decisionId c)) := by
  simp only [respond, route, Router.outcome, Router.decided]
  split
  · exact ⟨.decision _, .refl _, rfl⟩
  · exact ⟨.decision _, .refl _, rfl⟩

/-- A service answers a request as its routing state does. -/
theorem route_decision (s : Service) (now : Moment) (decisionId : Uuid) (c : Criteria) :
    (s.route now decisionId c).1 = (s.router.decide c now.tick).1 := by
  unfold route
  simp only
  split <;> rfl

/-- Whatever the store does, a command moves routing and the bus as its outcome says, and its answer tells at most of
a lost write. -/
theorem respond_follows (s : Service) (now : Moment) (c : Command) :
    s.Follows (s.router.outcome now c) (s.respond now c) := by
  cases c with
  | register q => exact respond_register s now q
  | update q => exact respond_update s now q
  | deregister id => exact respond_deregister s now id
  | sweep timeout order => exact respond_sweep s now timeout order
  | setPolicy policy => exact respond_setPolicy s now policy
  | route decisionId c => exact respond_route s now decisionId c
  | advance wall nanos => exact ⟨.silence, .refl _, rfl⟩

end Service

/-! ### One entry to a key -/

namespace Router

theorem unique_decide {r : Router} (h : r.cache.Unique) (c : Criteria) (tick : Nat) :
    (r.decide c tick).2.cache.Unique := by
  have htidied : (r.tidied c tick).cache.Unique := by
    unfold tidied
    simp only
    split
    · exact h.retain _
    · exact h
  cases hrecall : r.recalled? c tick with
  | some head =>
      rw [decide_of_recall hrecall]
      exact h
  | none =>
      rw [decide_of_no_recall hrecall, compute_cache]
      split
      · exact htidied.insert _ _ _
      · exact htidied

theorem unique_forgetRegistration {cache : Cache} (h : cache.Unique) (head : Head) (previous : Option Head) :
    (Service.forgetRegistration cache head previous).Unique := by
  unfold Service.forgetRegistration
  cases previous with
  | none => exact h.retain _
  | some p =>
      simp only
      split
      · exact (h.retain _).retain _
      · exact h.retain _

theorem unique_forgetReport {cache : Cache} (h : cache.Unique) (change : StatusChange) :
    (Service.forgetReport cache change).Unique := by
  unfold Service.forgetReport
  split
  · exact h.retain _
  · split
    · exact h.retain _
    · exact h

theorem unique_forgetAll {cache : Cache} (h : cache.Unique) (heads : List Head) :
    (forgetAll heads cache).Unique := by
  induction heads generalizing cache with
  | nil => exact h
  | cons a heads ih => exact ih (h.retain _)

/-- Every command keeps the keys of the cache apart. -/
theorem unique_outcome {r : Router} (h : r.cache.Unique) (now : Moment) (c : Command) :
    (r.outcome now c).router.cache.Unique := by
  have hmoves := r.moves_outcome now c
  generalize (r.outcome now c).router = r' at hmoves ⊢
  cases hmoves with
  | stays => exact h
  | registered => exact unique_forgetRegistration h _ _
  | reported => exact unique_forgetReport h _
  | deregistered => exact h.retain _
  | swept => exact unique_forgetAll h _
  | policySet => exact .clear _
  | decided decisionId c => exact unique_decide h c now.tick

end Router

/-- Restoring puts what the store gives into the registry and into force, and leaves all else but the store alone. -/
theorem Service.bootstrap_cases (s : Service) :
    ∃ registry policy store,
      (registry = s.router.registry ∨
        ∃ records, (Store.loadHeads.run s.store).1 = .ok records ∧ registry = s.router.registry.restore records) ∧
      s.bootstrap.2 = { s with router := { s.router with registry := registry, policy := policy }, store := store } := by
  unfold bootstrap call
  rcases Store.loadHeads.run s.store with ⟨_ | records, store⟩
  · simp only
    split
    · exact ⟨_, _, _, .inl rfl, rfl⟩
    · exact ⟨_, _, _, .inl rfl, rfl⟩
  · simp only
    split
    · exact ⟨_, _, _, .inr ⟨records, rfl, rfl⟩, rfl⟩
    · exact ⟨_, _, _, .inr ⟨records, rfl, rfl⟩, rfl⟩

/-- Restoring leaves the cache alone. -/
theorem Service.cache_bootstrap (s : Service) : s.bootstrap.2.router.cache = s.router.cache := by
  obtain ⟨registry, policy, store, -, hservice⟩ := s.bootstrap_cases
  rw [hservice]

/-- In every run no two remembered choices have one key. -/
theorem Session.Reachable.unique {x : Session} (h : x.Reachable) : x.service.router.cache.Unique := by
  induction h with
  | fresh store breaker bus cacheTtl now => exact .clear {}
  | restored store breaker bus cacheTtl now =>
      rw [bootstrapped, Service.cache_bootstrap]
      exact .clear {}
  | @step x h c ih =>
      have hcache := (Service.respond_follows x.service x.now c).router.cache
      rw [Session.step, hcache]
      exact Router.unique_outcome ih x.now c

end FleetRouting
