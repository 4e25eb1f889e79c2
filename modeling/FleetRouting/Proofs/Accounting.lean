import FleetRouting.Proofs.HeadHistory
import FleetRouting.Proofs.Heartbeat
import FleetRouting.Proofs.Routing.Completeness
import FleetRouting.Proofs.StoreCircuit
/-!
# FleetRouting.Proofs.Accounting

**The counters account for every command.** `Metrics.after` says which counters one command moves, read off its answer
alone; the losses are moved by the writes, one by one. A command moves the counters exactly so
(`Service.metrics_respond`, `Service.books_writeSteps`), so behind a run each counter is a number of commands or writes
of that run: `Session.Fresh.metrics_run`.
-/

namespace FleetRouting

/-! ### What a run shows -/

/-- True for a decision that memory gave. -/
def Answer.isCached : Answer → Bool
  | .decision d => d.strategyUsed == Router.cachedName
  | _ => false

/-- True for a decision that names a head. -/
def Answer.namesHead : Answer → Bool
  | .decision d => !d.isEmpty
  | _ => false

/-- True for a request for a head. -/
def Command.isRequest : Command → Bool
  | .route _ _ => true
  | _ => false

/-- A command, its answer, and the routing state that it found. -/
structure Exchange where
  router : Router
  command : Command
  answer : Answer

namespace Exchange

/-- True for a request that memory answers. -/
def isCached (e : Exchange) : Bool := e.command.isRequest && e.answer.isCached

/-- The labels of a request that a strategy gives a head: the strategy in force for it, and what it asks for. -/
def labels? (e : Exchange) : Option DecisionLabels :=
  match e.command with
  | .route _ c =>
    if e.answer.namesHead && !e.answer.isCached then
      some ⟨(e.router.strategy c).name, c.modelType, c.regionPreference⟩
    else none
  | _ => none

/-- True for a registration that is accepted, written or not. -/
def isRegistered (e : Exchange) : Bool :=
  match e.command with
  | .register _ => !e.answer.isRefusal
  | _ => false

/-- True for a report that is accepted, written or not. -/
def isReported (e : Exchange) : Bool :=
  match e.command with
  | .update _ => !e.answer.isRefusal
  | _ => false

end Exchange

namespace Session

/-- The exchanges of a run. -/
def exchanges (x : Session) : List Command → List Exchange
  | [] => []
  | c :: cs => ⟨x.service.router, c, (x.step c).1⟩ :: (x.step c).2.exchanges cs

end Session

/-- A write that was lost, refused by the circuit or not. -/
def WriteStep.isLost (w : WriteStep) : Bool :=
  match w.result with
  | .error (.persistence _) => true
  | .error (.circuitOpen _) => true
  | _ => false

/-- A write that the circuit refused. -/
def WriteStep.isRefused (w : WriteStep) : Bool :=
  match w.result with
  | .error (.circuitOpen _) => true
  | _ => false

/-! ### Counters that the answers tell -/

namespace Metrics

/-- The counters behind a command, as its answer tells, lost writes left out. -/
def after (m : Metrics) (e : Exchange) : Metrics :=
  { m with
    registrations := m.registrations + e.isRegistered.toNat
    statusUpdates := m.statusUpdates + e.isReported.toNat
    cacheHits := m.cacheHits + e.isCached.toNat
    cacheMisses := m.cacheMisses + (e.command.isRequest && !e.isCached).toNat
    decisions := (e.labels?.elim m m.recordDecision).decisions }

/-- `m` and `m'` differ at most in what they say of lost writes. -/
structure Agrees (m m' : Metrics) : Prop where
  registrations : m.registrations = m'.registrations
  statusUpdates : m.statusUpdates = m'.statusUpdates
  cacheHits : m.cacheHits = m'.cacheHits
  cacheMisses : m.cacheMisses = m'.cacheMisses
  decisions : m.decisions = m'.decisions

namespace Agrees

theorem refl (m : Metrics) : m.Agrees m := ⟨rfl, rfl, rfl, rfl, rfl⟩

theorem trans {m m' m'' : Metrics} (h : m.Agrees m') (h' : m'.Agrees m'') : m.Agrees m'' where
  registrations := h.registrations.trans h'.registrations
  statusUpdates := h.statusUpdates.trans h'.statusUpdates
  cacheHits := h.cacheHits.trans h'.cacheHits
  cacheMisses := h.cacheMisses.trans h'.cacheMisses
  decisions := h.decisions.trans h'.decisions

end Agrees

theorem after_register (m : Metrics) (r : Router) (q : Registration) (a : Answer) :
    m.after ⟨r, .register q, a⟩ = { m with registrations := m.registrations + (!a.isRefusal).toNat } := rfl

theorem after_update (m : Metrics) (r : Router) (q : StatusReport) (a : Answer) :
    m.after ⟨r, .update q, a⟩ = { m with statusUpdates := m.statusUpdates + (!a.isRefusal).toNat } := rfl

/-- A decision is counted once, under its own labels. -/
theorem decisionCount_recordDecision (m : Metrics) (l k : DecisionLabels) :
    (m.recordDecision l).decisionCount k = m.decisionCount k + (decide (l = k)).toNat := by
  by_cases hkey : l = k
  · subst hkey
    simp only [decisionCount, recordDecision, SortedMap.get?_insert_self, Option.getD_some, decide_true, Bool.toNat_true]
  · simp only [decisionCount, recordDecision, SortedMap.get?_insert_of_ne _ _ (Ne.symm hkey), hkey, decide_false,
      Bool.toNat_false, Nat.add_zero]

theorem decisionCount_after (m : Metrics) (e : Exchange) (l : DecisionLabels) :
    (m.after e).decisionCount l = m.decisionCount l + (decide (e.labels? = some l)).toNat := by
  cases hlabels : e.labels? with
  | none => simp only [decisionCount, after, hlabels, Option.elim_none, reduceCtorEq, decide_false, Bool.toNat_false,
      Nat.add_zero]
  | some k =>
      have hcount := m.decisionCount_recordDecision k l
      simp only [decisionCount, after, hlabels, Option.elim_some, Option.some.injEq] at hcount ⊢
      exact hcount

end Metrics

/-! ### Heads have names -/

/-- Every head has an identifier. -/
def Registry.Named (r : Registry) : Prop := ∀ id ∈ r.heads.map Head.id, id ≠ ""

namespace Registry.Named

variable {r : Registry}

theorem of_ids_eq (h : r.Named) {r' : Registry} (hids : r'.heads.map Head.id = r.heads.map Head.id) : r'.Named := by
  rw [Named, hids]
  exact h

theorem register (h : r.Named) {q : Registration} (hq : q.headId ≠ "") (now : Timestamp) :
    (r.register q now).2.Named := by
  have hids := r.ids_apply (.register q now)
  intro id hid
  rw [Registry.apply] at hids
  rw [hids, List.mem_append] at hid
  rcases hid with hold | hnew
  · exact h id hold
  · obtain rfl := List.mem_singleton.1 (List.mem_filter.1 hnew).1
    exact hq

/-- Only named heads are ever registered. -/
theorem outcome {r : Router} (h : r.registry.Named) (now : Moment) (c : Command) :
    (r.outcome now c).router.registry.Named := by
  have hmoves := r.moves_outcome now c
  generalize (r.outcome now c).router = r' at hmoves ⊢
  cases hmoves with
  | stays => exact h
  | registered haccepted =>
      refine h.register (fun hempty => ?_) now.wall
      rw [hempty] at haccepted
      cases haccepted
  | reported hreport => exact h.of_ids_eq (Registry.ids_change?_eq hreport)
  | deregistered hchange => exact h.of_ids_eq (Registry.ids_change?_eq hchange)
  | swept => exact h.of_ids_eq (Registry.ids_retire _ _ _ _)
  | policySet => exact h
  | decided decisionId c =>
      rw [Router.decide_registry]
      exact h

end Registry.Named

/-! ### One command -/

/-- A request that memory does not answer is a miss, and its decision is counted if it names a head. -/
theorem Metrics.after_of_uncached (m : Metrics) (r : Router) (decisionId : Uuid) (c : Criteria) {d : Decision}
    (huncached : d.strategyUsed ≠ Router.cachedName) :
    m.after ⟨r, .route decisionId c, .decision d⟩ =
      let missed := { m with cacheMisses := m.cacheMisses + 1 }
      if d.isEmpty then missed else missed.recordDecision ⟨(r.strategy c).name, c.modelType, c.regionPreference⟩ := by
  have hname : (d.strategyUsed == Router.cachedName) = false := beq_eq_false_iff_ne.2 huncached
  cases hempty : d.isEmpty <;>
    simp [after, Exchange.isRegistered, Exchange.isReported, Command.isRequest, Exchange.isCached, Exchange.labels?,
      Answer.isCached, Answer.namesHead, hname, hempty, recordDecision, decisionCount]

namespace Router

/-- A decision counts whether memory knew it, and whether a strategy found a head. -/
theorem metrics_decide {r : Router} (hr : r.registry.Named) (decisionId : Uuid) (c : Criteria) (tick : Nat) :
    (r.decide c tick).2.metrics = r.metrics.after ⟨r, .route decisionId c, .decision (r.decide c tick).1⟩ := by
  cases hrecall : r.recalled? c tick with
  | some head =>
      rw [decide_of_recall hrecall]
      simp [Metrics.after, Exchange.isRegistered, Exchange.isReported, Command.isRequest, Exchange.isCached,
        Exchange.labels?, Answer.isCached, Decision.ofHead]
  | none =>
      rw [decide_of_no_recall hrecall, r.metrics.after_of_uncached r decisionId c (strategyUsed_compute _ c tick)]
      cases hselection : (r.tidied c tick).selection c with
      | some s =>
          have hmem := (mem_candidates.1 (mem_candidates_of_selection hselection)).1
          have hnamed : (Decision.ofHead s.head (r.strategy c).name s.reason.text).isEmpty = false := by
            rw [Decision.isEmpty, Bool.eq_false_iff, ne_eq, String.isEmpty_iff]
            exact hr _ (List.mem_map_of_mem hmem)
          rw [compute_of_selection hselection]
          simp only [show ((r.tidied c tick).strategy c) = r.strategy c from rfl, hnamed]
          rfl
      | none =>
          by_cases hnil : (r.tidied c tick).candidates c = []
          · rw [compute_of_no_candidates hnil]
            rfl
          · rw [compute_of_candidates hnil, hselection]
            rfl

end Router

namespace Service

/-- Writing moves no counter but those of lost writes. -/
theorem metrics_guarded (s : Service) (tick : Nat) (write : StoreM Unit) :
    (s.guarded tick write).2.router.metrics.Agrees s.router.metrics := by
  have hattempt := s.attempt_guarded tick write
  generalize s.guarded tick write = result at hattempt ⊢
  cases hattempt with
  | refused => exact ⟨rfl, rfl, rfl, rfl, rfl⟩
  | failed => exact ⟨rfl, rfl, rfl, rfl, rfl⟩
  | succeeded => exact ⟨rfl, rfl, rfl, rfl, rfl⟩

theorem metrics_saveSnapshot (s : Service) (tick : Nat) (head : Head) :
    (s.saveSnapshot tick head).2.router.metrics.Agrees s.router.metrics := by
  rcases s.saveSnapshot_cases tick head with ⟨-, hsave⟩ | ⟨written, -, hsave⟩
  · rw [hsave]
    exact .refl _
  · rw [hsave]
    exact s.metrics_guarded tick (Store.saveHead head)

theorem metrics_finish (s : Service) (tick : Nat) (head : Head) (event : FleetEvent) :
    (s.finish tick head event).2.router.metrics.Agrees s.router.metrics :=
  s.metrics_saveSnapshot tick head

theorem metrics_foldl_finishStale (tick : Nat) (stale : List Head) (s : Service) :
    (stale.foldl (finishStale tick) s).router.metrics.Agrees s.router.metrics := by
  induction stale generalizing s with
  | nil => exact .refl _
  | cons h stale ih => exact (ih _).trans (metrics_finish _ tick h _)

/-- What is finished is no refusal, whether or not it was written. -/
theorem isRefusal_finish (s : Service) (tick : Nat) (head : Head) (event : FleetEvent) :
    (Answer.head (s.finish tick head event).1).isRefusal = false :=
  (Answer.Stems.head (s.finish_writes tick head event).1).isRefusal_eq

/-- **A command moves the counters as its answer tells,** and otherwise at most those of lost writes. -/
theorem metrics_respond {s : Service} (hs : s.router.registry.Named) (now : Moment) (c : Command) :
    (s.respond now c).2.router.metrics.Agrees (s.router.metrics.after ⟨s.router, c, (s.respond now c).1⟩) := by
  have hrefused {fields : List (String × String)} {e : FleetError} (hblank : blank? fields = some e) :
      (Answer.head (.error e)).isRefusal = true := by rw [Answer.isRefusal, isLostWrite_of_blank hblank]; rfl
  cases c with
  | register q =>
      rw [Metrics.after_register]
      simp only [respond, register]
      cases hblank : blank? [("head_id", q.headId), ("endpoint", q.endpoint), ("model_type", q.modelType)] with
      | some e =>
          simp only [Prod.map, hrefused hblank]
          exact .refl _
      | none =>
          simp only [Prod.map, isRefusal_finish]
          exact metrics_finish _ now.tick _ _
  | update q =>
      rw [Metrics.after_update]
      simp only [respond, update]
      cases hblank : blank? [("head_id", q.headId)] with
      | some e =>
          simp only [Prod.map, hrefused hblank]
          exact .refl _
      | none =>
          cases s.router.registry.update? q.headId q.status q.currentLoad (q.reportedAt now.wall) with
          | none => exact .refl _
          | some result =>
              simp only [Prod.map, isRefusal_finish]
              exact metrics_finish _ now.tick _ _
  | deregister id =>
      simp only [respond, deregister]
      cases blank? [("head_id", id)] with
      | some e => exact .refl _
      | none =>
          cases s.router.registry.deactivate? id with
          | none => exact .refl _
          | some result => exact metrics_finish _ now.tick _ _
  | sweep timeout order => exact metrics_foldl_finishStale now.tick _ _
  | setPolicy policy => exact metrics_guarded _ now.tick _
  | route decisionId c =>
      have hdecide := Router.metrics_decide hs decisionId c now.tick
      simp only [respond, route]
      split
      · exact hdecide ▸ .refl _
      · exact hdecide ▸ .refl _
  | advance wall nanos => exact .refl _

end Service

/-! ### Lost writes -/

/-- `l'` has the losses of some writes on top of those of `l`. -/
structure Ledger.Books (l : Ledger) (ws : List WriteStep) (l' : Ledger) : Prop where
  failures : l'.failures = l.failures + ws.countP WriteStep.isLost
  rejections : l'.rejections = l.rejections + ws.countP WriteStep.isRefused

namespace Ledger.Books

variable {l l' l'' : Ledger} {ws ws' : List WriteStep}

theorem of_eq (h : l' = l) : l.Books [] l' := ⟨h ▸ rfl, h ▸ rfl⟩

theorem append (h : l.Books ws l') (h' : l'.Books ws' l'') : l.Books (ws ++ ws') l'' where
  failures := by rw [h'.failures, h.failures, List.countP_append, Nat.add_assoc]
  rejections := by rw [h'.rejections, h.rejections, List.countP_append, Nat.add_assoc]

end Ledger.Books

namespace Service

/-- A write is booked as lost if it fails, and as refused, too, if the circuit is open. -/
theorem books_guarded (s : Service) (tick : Nat) (write : StoreM Unit) :
    s.ledger.Books [⟨tick, s.ledger, (s.guarded tick write).1, (s.guarded tick write).2.ledger⟩]
      (s.guarded tick write).2.ledger := by
  have hattempt := s.attempt_guarded tick write
  generalize s.guarded tick write = result at hattempt ⊢
  cases hattempt with
  | refused => exact ⟨rfl, rfl⟩
  | failed => exact ⟨rfl, rfl⟩
  | succeeded => exact ⟨rfl, rfl⟩

/-- A snapshot that the gate holds back is not lost. -/
theorem books_finish (s : Service) (tick : Nat) (head : Head) (event : FleetEvent) (l : Ledger) :
    s.ledger.Books [⟨tick, l, (s.finish tick head event).1.map fun _ => (), (s.finish tick head event).2.ledger⟩]
      (s.finish tick head event).2.ledger := by
  rw [finish_result]
  show s.ledger.Books [⟨tick, l, (s.saveSnapshot tick head).1, (s.saveSnapshot tick head).2.ledger⟩]
    (s.saveSnapshot tick head).2.ledger
  rcases s.saveSnapshot_cases tick head with ⟨-, hsave⟩ | ⟨written, -, hsave⟩
  · rw [hsave]
    exact ⟨rfl, rfl⟩
  · have hguarded := s.books_guarded tick (Store.saveHead head)
    rw [hsave]
    exact ⟨hguarded.failures, hguarded.rejections⟩

theorem books_sweepSteps (tick : Nat) (stale : List Head) (s : Service) :
    s.ledger.Books (sweepSteps tick stale s) (stale.foldl (finishStale tick) s).ledger := by
  induction stale generalizing s with
  | nil => exact .of_eq rfl
  | cons h stale ih =>
      have hstep : s.ledger.Books [sweepStep tick s h] (finishStale tick s h).ledger :=
        books_finish (s.mapCache (·.invalidateHead h.id)) tick h (.statusChanged h) s.ledger
      exact hstep.append (ih (finishStale tick s h))

/-- **A command loses the writes that its steps show as lost.** -/
theorem books_writeSteps (s : Service) (now : Moment) (c : Command) :
    s.ledger.Books (s.writeSteps now c) (s.respond now c).2.ledger := by
  by_cases hsweep : ∃ timeout order, c = .sweep timeout order
  · obtain ⟨timeout, order, rfl⟩ := hsweep
    exact books_sweepSteps now.tick _ (s.withRegistry (s.router.registry.markStale now.wall timeout order).2)
  · rw [writeSteps_of_not_sweep s now hsweep]
    rcases respond_cases s now c with ⟨hsame, hnone, -⟩ | ⟨t, head, event, hrespond, hsame, -, -⟩ | hsweep' |
      ⟨policy, rfl⟩
    · rw [hnone]
      exact .of_eq hsame.ledger
    · have hfinish := t.books_finish now.tick head event s.ledger
      rw [hsame.ledger] at hfinish
      rw [hrespond]
      simp only [Prod.map, (t.finish_writes now.tick head event).1.written?]
      exact hfinish
    · exact absurd hsweep' hsweep
    · exact books_guarded ({ s with router := { s.router with policy := policy } }.mapCache (·.clear)) now.tick
        (Store.savePolicy policy)

end Service

/-! ### Runs -/

namespace Session

theorem command_exchanges (x : Session) (cs : List Command) : (x.exchanges cs).map Exchange.command = cs := by
  induction cs generalizing x with
  | nil => rfl
  | cons c cs ih => exact congrArg (c :: ·) (ih (x.step c).2)

theorem books_run (x : Session) (cs : List Command) :
    x.service.ledger.Books (x.writeSteps cs) (x.run cs).service.ledger := by
  induction cs generalizing x with
  | nil => exact .of_eq rfl
  | cons c cs ih => exact (x.service.books_writeSteps x.now c).append (ih (x.step c).2)

/-- A service that was asked nothing yet: new, or with what it has restored from a store, where every head has an
identifier. -/
inductive Fresh : Session → Prop where
  | started (store : Store) (breaker : Breaker) (bus : Bus) (cacheTtl : Option Duration) (now : Moment) :
      Fresh (start store breaker bus cacheTtl now)
  | restored (store : Store) (breaker : Breaker) (bus : Bus) (cacheTtl : Option Duration) (now : Moment)
      (named : (start store breaker bus cacheTtl now).bootstrapped.service.router.registry.Named) :
      Fresh (start store breaker bus cacheTtl now).bootstrapped

theorem Fresh.named {x : Session} (hx : x.Fresh) : x.service.router.registry.Named := by
  cases hx with
  | started store breaker bus cacheTtl now => exact nofun
  | restored store breaker bus cacheTtl now named => exact named

end Session

/-- Restoring counts nothing. -/
theorem Service.metrics_bootstrap (s : Service) : s.bootstrap.2.router.metrics = s.router.metrics := by
  obtain ⟨registry, policy, store, -, hservice⟩ := s.bootstrap_cases
  rw [hservice]

namespace Session

theorem Fresh.metrics_eq {x : Session} (hx : x.Fresh) : x.service.router.metrics = {} := by
  cases hx with
  | started store breaker bus cacheTtl now => rfl
  | restored store breaker bus cacheTtl now named => exact Service.metrics_bootstrap _

theorem named_step {x : Session} (hx : x.service.router.registry.Named) (c : Command) :
    (x.step c).2.service.router.registry.Named := by
  have hregistry := (Service.respond_follows x.service x.now c).router.registry
  rw [step, hregistry]
  exact hx.outcome x.now c

/-- A counter that the answers tell is raised by a run by the number of exchanges that it counts. -/
theorem counter_run {x : Session} (hx : x.service.router.registry.Named) {f : Metrics → Nat} {p : Exchange → Bool}
    (agrees : ∀ m m' : Metrics, m.Agrees m' → f m = f m')
    (counts : ∀ (m : Metrics) (e : Exchange), f (m.after e) = f m + (p e).toNat) (cs : List Command) :
    f (x.run cs).service.router.metrics = f x.service.router.metrics + (x.exchanges cs).countP p := by
  induction cs generalizing x with
  | nil => rfl
  | cons c cs ih =>
      have hone : (p ⟨x.service.router, c, (x.step c).1⟩).toNat =
          if p ⟨x.service.router, c, (x.step c).1⟩ then 1 else 0 := by
        cases p ⟨x.service.router, c, (x.step c).1⟩ <;> rfl
      have hstep : f (x.step c).2.service.router.metrics =
          f (x.service.router.metrics.after ⟨x.service.router, c, (x.step c).1⟩) :=
        agrees _ _ (Service.metrics_respond hx x.now c)
      have hrest : f (x.run (c :: cs)).service.router.metrics =
          f (x.step c).2.service.router.metrics + ((x.step c).2.exchanges cs).countP p := ih (named_step hx c)
      rw [hrest, hstep, counts, exchanges, List.countP_cons, hone]
      omega

/-- **The counters account for every command of a run.** Behind any commands to a fresh service, whatever the store does:
each request is a hit or a miss, and the hits are the cached decisions; a label counts the decisions that its strategy
made for its model type and region; registrations and reports are counted when they are accepted; and the losses are the
writes that failed or were refused by the circuit. -/
theorem Fresh.metrics_run {x : Session} (hx : x.Fresh) (cs : List Command) :
    let m := (x.run cs).service.router.metrics
    let exchanges := x.exchanges cs
    m.cacheHits + m.cacheMisses = cs.countP Command.isRequest ∧
      m.cacheHits = exchanges.countP Exchange.isCached ∧
      (∀ l, m.decisionCount l = exchanges.countP fun e => e.labels? = some l) ∧
      m.registrations = exchanges.countP Exchange.isRegistered ∧
      m.statusUpdates = exchanges.countP Exchange.isReported ∧
      m.persistenceFailures = (x.writeSteps cs).countP WriteStep.isLost ∧
      m.breakerRejections = (x.writeSteps cs).countP WriteStep.isRefused := by
  have hnamed := hx.named
  have hmetrics := hx.metrics_eq
  have hcount {f : Metrics → Nat} {p : Exchange → Bool} (hzero : f {} = 0)
      (agrees : ∀ m m' : Metrics, m.Agrees m' → f m = f m')
      (counts : ∀ (m : Metrics) (e : Exchange), f (m.after e) = f m + (p e).toNat) :
      f (x.run cs).service.router.metrics = (x.exchanges cs).countP p := by
    rw [counter_run hnamed agrees counts cs, hmetrics, hzero, Nat.zero_add]
  have hlost : Ledger.Books ⟨x.service.store, x.service.breaker, 0, 0⟩ (x.writeSteps cs) (x.run cs).service.ledger := by
    have hbooks := x.books_run cs
    rwa [Service.ledger, hmetrics] at hbooks
  refine ⟨?_, ?_, fun l => ?_, ?_, ?_, ?_, ?_⟩
  · have hrequests : (x.run cs).service.router.metrics.cacheHits + (x.run cs).service.router.metrics.cacheMisses =
        (x.exchanges cs).countP (Command.isRequest ∘ Exchange.command) := by
      refine hcount (f := fun m => m.cacheHits + m.cacheMisses) rfl (fun m m' h => ?_) fun m e => ?_
      · rw [h.cacheHits, h.cacheMisses]
      · cases hrequest : e.command.isRequest <;> cases hcached : e.answer.isCached <;>
          simp [Metrics.after, Exchange.isCached, hrequest, hcached] <;> omega
    rwa [← List.countP_map, command_exchanges] at hrequests
  · exact hcount (f := Metrics.cacheHits) rfl (fun m m' h => h.cacheHits) fun m e => rfl
  · refine hcount (f := fun m => m.decisionCount l) rfl (fun m m' h => ?_) fun m e => m.decisionCount_after e l
    rw [Metrics.decisionCount, h.decisions, ← Metrics.decisionCount]
  · exact hcount (f := Metrics.registrations) rfl (fun m m' h => h.registrations) fun m e => rfl
  · exact hcount (f := Metrics.statusUpdates) rfl (fun m m' h => h.statusUpdates) fun m e => rfl
  · exact hlost.failures.trans (Nat.zero_add _)
  · exact hlost.rejections.trans (Nat.zero_add _)

/-- Over a store that is down two heads are registered, one of them falls silent and is swept, a report is about nobody,
and a request is made twice. -/
theorem metrics_run_dead_store :
    let x := start { outage := .total } (.ofConfig { threshold := 2, resetTimeoutMs := 1 }) {} none ⟨⟨0, 0⟩, 0⟩
    let cs : List Command :=
      [.register ⟨"a", "http://a", "m", "", "", .empty, 0⟩, .advance ⟨10, 0⟩ 500,
        .register ⟨"b", "http://b", "m", "", "", .empty, 0⟩, .sweep (.ofSecs 5) [], .update ⟨⟨.active, 60, none⟩, "c"⟩,
        .route default { modelType := "m" }, .route default { modelType := "m" }]
    let m := (x.run cs).service.router.metrics
    x.Fresh ∧ m.cacheHits + m.cacheMisses = 2 ∧ m.cacheHits = 1 ∧ m.decisionCount ⟨"least_loaded", "m", ""⟩ = 1 ∧
      m.registrations = 2 ∧ m.statusUpdates = 0 ∧ m.persistenceFailures = 3 ∧ m.breakerRejections = 1 := by
  intro x cs m
  have hx : x.Fresh := .started _ _ _ _ _
  obtain ⟨hrequests, hhits, hdecisions, hregistrations, hreports, hfailures, hrejections⟩ := hx.metrics_run cs
  refine ⟨hx, hrequests.trans ?_, hhits.trans ?_, (hdecisions _).trans ?_, hregistrations.trans ?_, hreports.trans ?_,
    hfailures.trans ?_, hrejections.trans ?_⟩
  all_goals decide +kernel

end Session

end FleetRouting
