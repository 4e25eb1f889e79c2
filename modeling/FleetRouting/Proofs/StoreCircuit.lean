import FleetRouting.Proofs.CacheTransparency
import FleetRouting.Proofs.Persistence
import FleetRouting.Proofs.Resilience.History
/-!
# FleetRouting.Proofs.StoreCircuit

**The store is called as the history of its calls allows.** A run hands its writes to the circuit of the store one after
another (`Session.writeSteps`): the snapshot of each head that an accepted command changes or a sweep retires, and each
policy. A write that is let through calls the store and always reports how that ended (`WriteStep.Guarded`). So the
circuit never waits for a probe between two writes, and the law of circuits reads as a law about whole runs: the store
is called unless too many attempts have failed and the last of them was not long ago.
-/

namespace FleetRouting

open Note Service

/-! ### Writes one after another -/

/-- What a service keeps of its writes: the store, the circuits, and how many writes were refused and lost. -/
structure Ledger where
  store : Store
  breaker : Breaker
  /-- How many writes the circuit has refused. -/
  rejections : Nat
  /-- How many writes were lost, those that were refused included. -/
  failures : Nat

/-- The ledger of a service. -/
def Service.ledger (s : Service) : Ledger :=
  ⟨s.store, s.breaker, s.router.metrics.breakerRejections, s.router.metrics.persistenceFailures⟩

/-- A write that is handed to the circuit of the store. -/
structure WriteStep where
  tick : Nat
  before : Ledger
  result : Except FleetError Unit
  after : Ledger

namespace WriteStep

/-- The store was called. -/
def Touches (w : WriteStep) : Prop := w.before.store.calls < w.after.store.calls

instance (w : WriteStep) : Decidable w.Touches := inferInstanceAs (Decidable (_ < _))

/-- What is seen of a write: an attempt that succeeded or failed, or that none was made. -/
def note (w : WriteStep) : Note :=
  if w.Touches then
    match w.result with
    | .ok _ => .succeeded w.tick
    | .error _ => .failed w.tick
  else .refused w.tick

theorem tick_note (w : WriteStep) : w.note.tick = w.tick := by
  unfold note
  split
  · cases w.result <;> rfl
  · rfl

/-- A write that calls the store is not seen as refused. -/
theorem note_eq_refused_iff {w : WriteStep} {t : Nat} : w.note = .refused t ↔ ¬ w.Touches ∧ w.tick = t := by
  unfold note
  split
  · next touches => cases w.result <;> simp [touches]
  · next hnot => simp [hnot]

end WriteStep

namespace Service

/-- The write of a head that is swept. -/
def sweepStep (tick : Nat) (s : Service) (head : Head) : WriteStep :=
  let result := ((s.mapCache (·.invalidateHead head.id)).finish tick head (.statusChanged head)).1
  ⟨tick, s.ledger, result.map fun _ => (), (finishStale tick s head).ledger⟩

/-- The writes of a sweep. -/
def sweepSteps (tick : Nat) : List Head → Service → List WriteStep
  | [], _ => []
  | head :: stale, s => sweepStep tick s head :: sweepSteps tick stale (finishStale tick s head)

/-- The writes of a command: one for each head that is swept, one for a policy, and one for any other change that is
accepted. -/
def writeSteps (s : Service) (now : Moment) : Command → List WriteStep
  | .sweep timeout order =>
    let (stale, registry) := s.router.registry.markStale now.wall timeout order
    sweepSteps now.tick stale (s.withRegistry registry)
  | c =>
    let (answer, t) := s.respond now c
    (answer.written?.map fun result => ⟨now.tick, s.ledger, result, t.ledger⟩).toList

end Service

/-- The writes of a run. -/
def Session.writeSteps (x : Session) : List Command → List WriteStep
  | [] => []
  | c :: cs => x.service.writeSteps x.now c ++ (x.step c).2.writeSteps cs

/-! ### One write -/

/-- **The three ways of a write:** it is refused and nothing is called; or it is let through, calls the store, and
reports a failure or a success. -/
inductive WriteStep.Guarded (w : WriteStep) : Prop where
  | refused (answer : (w.before.breaker.allow storeService w.tick).1 = false)
      (after : w.after = ⟨w.before.store, (w.before.breaker.allow storeService w.tick).2, w.before.rejections + 1,
        w.before.failures + 1⟩)
      (result : w.result = .error (.circuitOpen storeService))
  | failed (answer : (w.before.breaker.allow storeService w.tick).1 = true) (touches : w.Touches)
      (breaker : w.after.breaker = (w.before.breaker.allow storeService w.tick).2.fail storeService w.tick)
      (result : ∃ e, w.result = .error e)
  | succeeded (answer : (w.before.breaker.allow storeService w.tick).1 = true) (touches : w.Touches)
      (breaker : w.after.breaker = (w.before.breaker.allow storeService w.tick).2.success storeService)
      (result : w.result = .ok ())

/-- A ledger whose circuit keeps what is seen of the writes: each of them has reported. -/
structure Ledger.Recalls (l : Ledger) (s : BreakerSettings) (h : List Note) : Prop where
  breaker : l.breaker.Recalls storeService s h
  reported : lastGrant? h = none

namespace WriteStep.Guarded

variable {w : WriteStep} {s : BreakerSettings} {h : List Note}

theorem touches_iff_granted (hw : w.Guarded) : w.Touches ↔ (w.before.breaker.allow storeService w.tick).1 = true := by
  cases hw with
  | refused answer after result =>
      rw [answer, Touches, after]
      exact iff_of_false (Nat.lt_irrefl _) Bool.false_ne_true
  | failed answer touches breaker result => exact iff_of_true touches answer
  | succeeded answer touches breaker result => exact iff_of_true touches answer

/-- A write that does not call the store is refused, and counted. -/
theorem of_not_touches (hw : w.Guarded) (hnot : ¬ w.Touches) :
    w.after.store = w.before.store ∧ w.result = .error (.circuitOpen storeService) ∧
      w.after.rejections = w.before.rejections + 1 ∧ w.after.failures = w.before.failures + 1 := by
  cases hw with
  | refused answer after result =>
      rw [after]
      exact ⟨rfl, result, rfl, rfl⟩
  | failed answer touches breaker result => exact absurd touches hnot
  | succeeded answer touches breaker result => exact absurd touches hnot

/-- Behind a write the circuit keeps what is seen of it. -/
theorem recalls (hw : w.Guarded) (hs : s.Admissible) (hl : w.before.Recalls s h) : w.after.Recalls s (w.note :: h) := by
  have hasked := Breaker.Recalls.take (q := ⟨storeService, w.tick, .ask⟩) hl.breaker hs
  cases hw with
  | refused answer after result =>
      have hnote : w.note = .refused w.tick := by
        refine note_eq_refused_iff.2 ⟨?_, rfl⟩
        rw [Touches, after]
        exact Nat.lt_irrefl _
      rw [Breaker.take, answer] at hasked
      rw [hnote, after]
      exact ⟨hasked, hl.reported⟩
  | failed answer touches breaker result =>
      obtain ⟨e, result⟩ := result
      have hnote : w.note = .failed w.tick := by rw [note, if_pos touches, result]
      rw [Breaker.take, answer] at hasked
      have hfailed := hasked.take (q := ⟨storeService, w.tick, .fail⟩) hs
      rw [hnote]
      refine ⟨?_, rfl⟩
      rw [breaker]
      exact ⟨hfailed.settings, hfailed.circuit.of_reported hs (.inl rfl)⟩
  | succeeded answer touches breaker result =>
      have hnote : w.note = .succeeded w.tick := by rw [note, if_pos touches, result]
      rw [Breaker.take, answer] at hasked
      have hsucceeded := hasked.take (q := ⟨storeService, w.tick, .success⟩) hs
      rw [hnote]
      refine ⟨?_, hl.reported⟩
      rw [breaker]
      exact ⟨hsucceeded.settings, hsucceeded.circuit.of_reported hs (.inr rfl)⟩

/-- **A write calls the store by the law of its history.** -/
theorem touches_iff (hw : w.Guarded) (hs : s.Admissible) (hl : w.before.Recalls s h) (hordered : InOrder h w.tick) :
    w.Touches ↔
      recentFailures h < s.threshold ∨ ∃ t, lastFailure? h = some t ∧ t + s.resetTimeout ≤ w.tick := by
  have hrests : restsSince? h = lastFailure? h := by
    simp [restsSince?, hl.reported]
  rw [hw.touches_iff_granted, hl.breaker.allow_iff hs hordered, BreakerSettings.Lets, hrests]

end WriteStep.Guarded

namespace Service

/-- A guarded write that calls the store if it is made. -/
theorem guarded_step (s : Service) (tick : Nat) {write : StoreM Unit} (hwrite : Store.Costs 1 write) :
    WriteStep.Guarded ⟨tick, s.ledger, (s.guarded tick write).1, (s.guarded tick write).2.ledger⟩ := by
  have hcalls := hwrite s.store
  have hattempt := s.attempt_guarded tick write
  generalize s.guarded tick write = result at hattempt ⊢
  cases hattempt with
  | refused hrefused => exact .refused hrefused rfl rfl
  | failed hgranted hrun =>
      rw [hrun] at hcalls
      exact .failed hgranted hcalls rfl ⟨_, rfl⟩
  | succeeded hgranted hrun =>
      rw [hrun] at hcalls
      exact .succeeded hgranted hcalls rfl rfl

/-- Finishing a change is one write, as the gate lets its snapshot pass. -/
theorem finish_step {s : Service} (tick : Nat) {head : Head} (event : FleetEvent) (hpass : s.Passes head) :
    WriteStep.Guarded
      ⟨tick, s.ledger, (s.finish tick head event).1.map fun _ => (), (s.finish tick head event).2.ledger⟩ := by
  rw [finish_result]
  show WriteStep.Guarded ⟨tick, s.ledger, (s.saveSnapshot tick head).1, (s.saveSnapshot tick head).2.ledger⟩
  rcases s.saveSnapshot_cases tick head with ⟨hlate, -⟩ | ⟨written, -, hsave⟩
  · exact absurd hlate hpass.not_lt
  · rw [hsave]
    exact s.guarded_step tick (Store.costs_saveHead head)

theorem SameStore.ledger {s t : Service} (h : SameStore s t) : t.ledger = s.ledger := by
  obtain ⟨hrejections, hfailures⟩ := Prod.mk.inj h.losses
  simp only [Service.ledger, h.store, h.breaker, hrejections, hfailures]

end Service

/-! ### Writes one after another -/

/-- Guarded writes of which each starts from the ledger that the one before it leaves. -/
inductive Ledger.Linked : Ledger → List WriteStep → Ledger → Prop where
  | nil (l : Ledger) : Linked l [] l
  | cons {w : WriteStep} {ws : List WriteStep} {l : Ledger} (hw : w.Guarded) (hws : Linked w.after ws l) :
      Linked w.before (w :: ws) l

namespace Ledger.Linked

variable {l l' l'' : Ledger} {ws ws' : List WriteStep} {w : WriteStep}

theorem of_eq (h : l' = l) : l.Linked [] l' := h ▸ .nil l

theorem single (hw : w.Guarded) : w.before.Linked [w] w.after := .cons hw (.nil _)

theorem append (h : l.Linked ws l') (h' : l'.Linked ws' l'') : l.Linked (ws ++ ws') l'' := by
  induction h with
  | nil l => exact h'
  | cons hw _ ih => exact .cons hw (ih h')

/-- Every write starts from what those before it have left. -/
theorem split {older newer : List WriteStep} (h : l.Linked (older ++ w :: newer) l') :
    l.Linked older w.before ∧ w.Guarded := by
  induction older generalizing l with
  | nil =>
      cases h with
      | cons hw _ => exact ⟨.nil _, hw⟩
  | cons v older ih =>
      cases h with
      | cons hv hrest =>
          obtain ⟨holder, hw⟩ := ih hrest
          exact ⟨.cons hv holder, hw⟩

/-- Behind some writes the circuit keeps what is seen of them. -/
theorem recalls (h : l.Linked ws l') {s : BreakerSettings} (hs : s.Admissible) {past : List Note}
    (hl : l.Recalls s past) : l'.Recalls s ((ws.map WriteStep.note).reverse ++ past) := by
  induction h generalizing past with
  | nil l => exact hl
  | cons hw _ ih =>
      rw [List.map_cons, List.reverse_cons, List.append_assoc]
      exact ih (hw.recalls hs hl)

end Ledger.Linked

/-- A circuit to which every write has reported waits for no probe. -/
theorem Ledger.Recalls.not_halfOpen {l : Ledger} {s : BreakerSettings} {h : List Note} (hl : l.Recalls s h)
    (hs : s.Admissible) : l.breaker.state storeService ≠ .halfOpen := by
  rw [hl.breaker.state_eq hs, hl.reported]
  split <;> exact nofun

/-! ### Runs -/

namespace Service

theorem linked_sweepSteps {s : Service} (tick : Nat) {stale : List Head} (hdistinct : Distinct stale)
    (hpass : ∀ h ∈ stale, s.Passes h) :
    s.ledger.Linked (sweepSteps tick stale s) (stale.foldl (finishStale tick) s).ledger := by
  induction stale generalizing s with
  | nil => exact .nil _
  | cons h stale ih =>
      obtain ⟨hnew, hdistinct⟩ := List.nodup_cons.1 hdistinct
      obtain ⟨hhead, hpass⟩ := List.forall_mem_cons.1 hpass
      have hundone : False → s.Works ∧ h.Storable := False.elim
      have hhears := (finishStale_put tick hhead hundone).2
      have hpass' : ∀ a ∈ stale, (finishStale tick s h).Passes a := fun a ha =>
        hhears.passes (hpass a ha) fun hid => hnew (hid ▸ List.mem_map_of_mem ha)
      have hstep : (sweepStep tick s h).Guarded :=
        finish_step tick (.statusChanged h) ((s.sameStore_mapCache (·.invalidateHead h.id)).passes hhead)
      exact Ledger.Linked.cons hstep (ih hdistinct hpass')

theorem writeSteps_of_not_sweep (s : Service) (now : Moment) {c : Command} (hc : ¬ ∃ timeout order, c = .sweep timeout order) :
    s.writeSteps now c =
      ((s.respond now c).1.written?.map fun result => ⟨now.tick, s.ledger, result, (s.respond now c).2.ledger⟩).toList := by
  cases c with
  | sweep timeout order => exact absurd ⟨timeout, order, rfl⟩ hc
  | _ => rfl

theorem tick_of_mem_sweepSteps {tick : Nat} {stale : List Head} {s : Service} {w : WriteStep}
    (hw : w ∈ sweepSteps tick stale s) : w.tick = tick := by
  induction stale generalizing s with
  | nil => cases hw
  | cons h stale ih =>
      rcases List.mem_cons.1 hw with rfl | hw
      · rfl
      · exact ih hw

/-- The writes of a command are made at once. -/
theorem tick_of_mem_writeSteps (s : Service) (now : Moment) (c : Command) {w : WriteStep} (hw : w ∈ s.writeSteps now c) :
    w.tick = now.tick := by
  by_cases hsweep : ∃ timeout order, c = .sweep timeout order
  · obtain ⟨timeout, order, rfl⟩ := hsweep
    exact tick_of_mem_sweepSteps hw
  · rw [writeSteps_of_not_sweep s now hsweep, Option.mem_toList, Option.map_eq_some_iff] at hw
    obtain ⟨result, -, rfl⟩ := hw
    rfl

/-- **All that a command does to the ledger are its writes.** -/
theorem linked_writeSteps {s : Service} (hdistinct : Distinct s.router.registry.heads) (hgated : s.Gated) (now : Moment)
    (c : Command) : s.ledger.Linked (s.writeSteps now c) (s.respond now c).2.ledger := by
  have hmakes := Router.makes_outcome hdistinct now c
  have hpass := hgated.passes hmakes
  by_cases hsweep : ∃ timeout order, c = .sweep timeout order
  · obtain ⟨timeout, order, rfl⟩ := hsweep
    have hsame : SameStore s (s.withRegistry (s.router.registry.markStale now.wall timeout order).2) := ⟨rfl, rfl, rfl, rfl⟩
    exact linked_sweepSteps now.tick hmakes.distinct fun h hh => hsame.passes (hpass h hh)
  · rw [writeSteps_of_not_sweep s now hsweep]
    rcases respond_cases s now c with ⟨hsame, hanswer, -⟩ | ⟨t, head, event, hrespond, hsame, hsnapshots, -⟩ |
      hsweep' | ⟨policy, rfl⟩
    · rw [hanswer]
      exact .of_eq hsame.ledger
    · rw [hsnapshots] at hpass
      have hstep := finish_step now.tick event (hsame.passes (hpass head (List.mem_singleton_self head)))
      rw [hsame.ledger] at hstep
      have hanswer := (finish_writes t now.tick head event).1.written?
      rw [hrespond]
      simp only [Prod.map, hanswer, Option.map_some, Option.toList_some]
      exact Ledger.Linked.single hstep
    · exact absurd hsweep' hsweep
    · have hstep := guarded_step ({ s with router := { s.router with policy := policy } }.mapCache (·.clear)) now.tick
        (Store.costs_savePolicy policy)
      simp only [respond, setPolicy, Prod.map, Answer.written?, Option.map_some, Option.toList_some]
      exact Ledger.Linked.single hstep

end Service

namespace Session

/-- In every run the gate knows of no revision that was not given out. -/
theorem Reachable.gated {x : Session} (hx : x.Reachable) : x.service.Gated := by
  induction hx with
  | fresh store breaker bus cacheTtl now => exact Service.gated_of_empty rfl
  | restored store breaker bus cacheTtl now => exact Service.gated_of_empty (Service.bootstrap_spec _).2
  | @step x hx c ih => exact (Service.respond_puts x.now c hx.faithful.distinct ih False nofun).2

theorem Reachable.linked {x : Session} (hx : x.Reachable) (cs : List Command) :
    x.service.ledger.Linked (x.writeSteps cs) (x.run cs).service.ledger := by
  induction cs generalizing x with
  | nil => exact .nil _
  | cons c cs ih =>
      have hstep := Service.linked_writeSteps hx.faithful.distinct hx.gated x.now c
      exact hstep.append (ih (hx.step c))

theorem le_afterCommand (x : Session) (c : Command) : x.now.tick ≤ (x.step c).2.now.tick := by
  cases c with
  | advance wall nanos => exact Nat.le_add_right ..
  | _ => exact Nat.le_refl _

/-- The writes of a run are made one after another. -/
theorem rising_writeSteps (x : Session) (cs : List Command) :
    ((x.writeSteps cs).Pairwise fun v w => v.tick ≤ w.tick) ∧ ∀ w ∈ x.writeSteps cs, x.now.tick ≤ w.tick := by
  induction cs generalizing x with
  | nil => exact ⟨.nil, nofun⟩
  | cons c cs ih =>
      obtain ⟨hrising, hlater⟩ := ih (x.step c).2
      have hnow : ∀ w ∈ x.service.writeSteps x.now c, w.tick = x.now.tick := fun w hw =>
        x.service.tick_of_mem_writeSteps x.now c hw
      have hmoved : ∀ w ∈ (x.step c).2.writeSteps cs, x.now.tick ≤ w.tick := fun w hw =>
        (x.le_afterCommand c).trans (hlater w hw)
      refine ⟨List.pairwise_append.2 ⟨?_, hrising, fun v hv w hw => ?_⟩, fun w hw => ?_⟩
      · refine List.pairwise_of_forall_mem_list fun v hv w hw => ?_
        rw [hnow v hv, hnow w hw]
      · rw [hnow v hv]
        exact hmoved w hw
      · rcases List.mem_append.1 hw with hw | hw
        · exact (hnow w hw).ge
        · exact hmoved w hw

/-- **The store is called as the history of its calls allows.** In every run of a service whose store was not called
through the circuit before, over any store, a write calls the store exactly when fewer attempts than the threshold have
failed since the last one that succeeded, or when the reset time has passed since the last one that failed. Otherwise
nothing is called, the write is answered as refused by the open circuit, and it is counted both as refused and as lost.
Between commands the circuit never waits for a probe. -/
theorem Reachable.store_calls {x : Session} (hx : x.Reachable)
    (hnew : x.service.breaker.circuits.get? storeService = none)
    (hs : (x.service.breaker.settings storeService).Admissible) (cs : List Command) :
    let s := x.service.breaker.settings storeService
    (∀ older w newer, x.writeSteps cs = older ++ w :: newer →
      let h := (older.map WriteStep.note).reverse
      (w.Touches ↔ recentFailures h < s.threshold ∨ ∃ t, lastFailure? h = some t ∧ t + s.resetTimeout ≤ w.tick) ∧
        (¬ w.Touches →
          w.after.store = w.before.store ∧ w.result = .error (.circuitOpen storeService) ∧
            w.after.rejections = w.before.rejections + 1 ∧ w.after.failures = w.before.failures + 1)) ∧
      (x.run cs).service.breaker.state storeService ≠ .halfOpen := by
  intro s
  have hlinked := hx.linked cs
  have hstart : x.service.ledger.Recalls s [] := ⟨Breaker.recalls_nil hnew hs, rfl⟩
  refine ⟨?_, (hlinked.recalls hs hstart).not_halfOpen hs⟩
  intro older w newer hsplit h
  have hrising := (x.rising_writeSteps cs).1
  rw [hsplit] at hlinked hrising
  obtain ⟨holder, hw⟩ := hlinked.split
  have hbefore := holder.recalls hs hstart
  rw [List.append_nil] at hbefore
  have hordered : InOrder h w.tick := by
    have hticks : h.map Note.tick = (older.map WriteStep.tick).reverse := by
      rw [List.map_reverse, List.map_map]
      exact congrArg List.reverse (List.map_congr_left fun v _ => v.tick_note)
    have hsub : (older ++ [w]).Sublist (older ++ w :: newer) :=
      (List.Sublist.refl older).append ((List.nil_sublist newer).cons_cons w)
    have hmapped := List.pairwise_map.2 (hrising.sublist hsub)
    rw [List.map_append] at hmapped
    exact .of_rising hticks hmapped
  exact ⟨hw.touches_iff hs hbefore hordered, hw.of_not_touches⟩

/-- A dead store and a threshold of two: two registrations fail, and ten seconds later a sweep finds both heads silent.
The write of the first is let through and fails, and the write of the second is refused. -/
theorem store_calls_dead_store :
    let x := (start { outage := .total } (.ofConfig { threshold := 2, resetTimeoutMs := 1 }) {} none
      ⟨⟨0, 0⟩, 0⟩).bootstrapped
    let cs : List Command :=
      [.register ⟨"a", "http://a", "m", "", "", .empty, 0⟩, .register ⟨"b", "http://b", "m", "", "", .empty, 0⟩,
        .advance ⟨10, 0⟩ 10000000000, .sweep (.ofSecs 5) []]
    (x.writeSteps cs).map WriteStep.note = [.failed 0, .failed 0, .failed 10000000000, .refused 10000000000] ∧
      (∃ older w, x.writeSteps cs = older ++ [w] ∧ w.after.store = w.before.store ∧
        w.result = .error (.circuitOpen storeService)) ∧
        (x.run cs).service.breaker.state storeService ≠ .halfOpen := by
  intro x cs
  have hx : x.Reachable := .restored _ _ _ _ _
  have hs : (x.service.breaker.settings storeService).Admissible := ⟨by decide, by decide⟩
  have hnotes : (x.writeSteps cs).map WriteStep.note =
      [.failed 0, .failed 0, .failed 10000000000, .refused 10000000000] := by decide +kernel
  obtain ⟨hcalls, hstate⟩ := hx.store_calls rfl hs cs
  refine ⟨hnotes, ?_, hstate⟩
  have hends : (x.writeSteps cs).map WriteStep.note =
      [.failed 0, .failed 0, .failed 10000000000] ++ [.refused 10000000000] := hnotes
  obtain ⟨older, last, hsplit, -, hlast⟩ := List.map_eq_append_iff.1 hends
  obtain ⟨w, rfl, hnote⟩ := List.map_eq_singleton_iff.1 hlast
  obtain ⟨hnot, -⟩ := WriteStep.note_eq_refused_iff.1 hnote
  obtain ⟨hstore, hresult, -⟩ := (hcalls older w [] hsplit).2 hnot
  exact ⟨older, w, hsplit, hstore, hresult⟩

end Session

end FleetRouting
