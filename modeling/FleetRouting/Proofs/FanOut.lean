import FleetRouting.Event.Bus
import Mathlib.Logic.Function.Basic
/-!
# FleetRouting.Proofs.FanOut

**No event is lost silently.** Behind any steps the ring holds the newest of all events that were published
(`Bus.Carries`), and the position of a subscriber is the number of those that it has no claim to any more. So a
subscriber receives exactly what was published since it last asked, or is told how many of these it missed
(`Bus.receive_of_carries`); reading one notice after another comes to the same (`Bus.tells_iff`). What a subscriber
sees is fixed by what was published and by its own steps (`FanOut.received_filter`). What leaves the webhook queue, and
what is left in it, is what it admitted, in order (`FanOut.passes_run`).
-/

namespace FleetRouting

/-! ### Reading a ring -/

/-- What a subscriber is told at a time. -/
inductive Notice where
  | event (e : FleetEvent)
  /-- So many events are gone that it did not receive. -/
  | lagged (missed : Nat)
  deriving DecidableEq

namespace Reception

/-- What is received of some events: all of them, or, if the ring does not hold all, how many are missed, and the
newest. -/
def ofEvents (events : List FleetEvent) : Reception :=
  if events.length ≤ Bus.ringSize then ⟨0, events⟩
  else ⟨events.length - Bus.ringSize, events.drop (events.length - Bus.ringSize)⟩

/-- A reception in single notices: first how many events were missed, if there are any. -/
def notices (r : Reception) : List Notice :=
  (if r.missed = 0 then [] else [.lagged r.missed]) ++ r.events.map .event

end Reception

namespace Bus

/-- The next that a subscriber is told: the event at its position, or, if the ring has lost that one, how many it has
missed, and then it goes on with the oldest one of the ring. A subscriber that has received all is told nothing. -/
def next? (b : Bus) (s : Subscription) : Option (Notice × Subscription) :=
  if b.published ≤ s.position then none
  else if s.position + ringSize < b.published then
    some (.lagged (b.published - ringSize - s.position), ⟨b.published - ringSize⟩)
  else b.ring[b.published - 1 - s.position]?.map fun e => (.event e, ⟨s.position + 1⟩)

/-- A subscriber that asks until it is told nothing more is told these notices, and is at `s'` then. -/
inductive Tells (b : Bus) : Subscription → List Notice → Subscription → Prop
  | nothing {s : Subscription} (h : b.next? s = none) : b.Tells s [] s
  | more {s s' s'' : Subscription} {notice : Notice} {notices : List Notice} (h : b.next? s = some (notice, s'))
      (hrest : b.Tells s' notices s'') : b.Tells s (notice :: notices) s''

theorem Tells.unique {b : Bus} {s t t' : Subscription} {notices notices' : List Notice} (h : b.Tells s notices t)
    (h' : b.Tells s notices' t') : notices' = notices ∧ t' = t := by
  induction h generalizing notices' t' with
  | nothing hnone =>
      cases h' with
      | nothing => exact ⟨rfl, rfl⟩
      | more hnext => simp [hnone] at hnext
  | more hnext _ ih =>
      cases h' with
      | nothing hnone => simp [hnext] at hnone
      | more hnext' hrest' =>
          rw [hnext] at hnext'
          cases hnext'
          obtain ⟨rfl, rfl⟩ := ih hrest'
          exact ⟨rfl, rfl⟩

/-- The bus behind these events, the oldest first: the ring holds the newest of them. -/
structure Carries (b : Bus) (history : List FleetEvent) : Prop where
  published : b.published = history.length
  ring : b.ring = history.reverse.take ringSize

theorem carries_publish {b : Bus} {history : List FleetEvent} (h : b.Carries history) (e : FleetEvent) :
    (b.publish e).Carries (history ++ [e]) where
  published := by simp [publish, h.published]
  ring := by simp [publish, h.ring, ringSize, List.take_take]

variable {b : Bus} {older events : List FleetEvent}

/-- What a subscriber receives that has a claim to these events. -/
theorem receive_of_carries (h : b.Carries (older ++ events)) :
    b.receive ⟨older.length⟩ = (.ofEvents events, ⟨b.published⟩) := by
  have hwaiting : b.published - older.length = events.length := by
    rw [h.published, List.length_append, Nat.add_sub_cancel_left]
  have hheld : (b.ring.take (min events.length ringSize)).reverse =
      events.drop (events.length - min events.length ringSize) := by
    have hle : min events.length ringSize ≤ events.reverse.length := by
      rw [List.length_reverse]
      exact Nat.min_le_left _ _
    rw [h.ring, List.reverse_append, List.take_take, Nat.min_assoc, Nat.min_self, List.take_append_of_le_length hle,
      List.reverse_take, List.reverse_reverse, List.length_reverse]
  simp only [receive, hwaiting, hheld, Reception.ofEvents]
  split
  · next hall => simp [Nat.min_eq_left hall]
  · next hmore => rw [Nat.min_eq_right (Nat.le_of_not_le hmore)]

/-- As long as the ring holds all of them, a subscriber is told its events one after another. -/
theorem tells_events (h : b.Carries (older ++ events)) (hheld : events.length ≤ ringSize) :
    b.Tells ⟨older.length⟩ (events.map .event) ⟨b.published⟩ := by
  induction events generalizing older with
  | nil =>
      have hposition : b.published = older.length := by simp [h.published]
      rw [hposition]
      exact .nothing (by simp [next?, hposition])
  | cons e events ih =>
      have hlength : b.published = older.length + (events.length + 1) := by simp [h.published]
      have hcell : b.ring[events.length]? = some e := by
        have hlt : events.length < ringSize := hheld
        rw [h.ring, List.getElem?_take_of_lt hlt]
        simp
      have hnext : b.next? ⟨older.length⟩ = some (.event e, ⟨(older ++ [e]).length⟩) := by
        have hindex : b.published - 1 - older.length = events.length := by omega
        have hbehind : ¬b.published ≤ older.length := by omega
        have hreach : ¬older.length + ringSize < b.published := by
          rw [List.length_cons] at hheld
          omega
        simp only [next?, if_neg hbehind, if_neg hreach, hindex, hcell, Option.map_some, List.length_append,
          List.length_singleton]
      exact .more hnext (ih (by simpa using h) (Nat.le_of_succ_le hheld))

theorem tells_receive (h : b.Carries (older ++ events)) :
    b.Tells ⟨older.length⟩ (Reception.ofEvents events).notices ⟨b.published⟩ := by
  by_cases hheld : events.length ≤ ringSize
  · simpa [Reception.ofEvents, hheld, Reception.notices] using tells_events h hheld
  · -- the subscriber is told that it lags, and then stands before the oldest event of the ring
    have hlength : b.published = older.length + events.length := by simp [h.published]
    have hmissed : events.length - ringSize ≠ 0 := by omega
    have hnext : b.next? ⟨older.length⟩ =
        some (.lagged (events.length - ringSize), ⟨(older ++ events.take (events.length - ringSize)).length⟩) := by
      have hbehind : ¬b.published ≤ older.length := by omega
      have hreach : older.length + ringSize < b.published := by omega
      have hlag : b.published - ringSize - older.length = events.length - ringSize := by omega
      have hposition : b.published - ringSize = (older ++ events.take (events.length - ringSize)).length := by
        simp only [List.length_append, List.length_take]
        omega
      simp only [next?, if_neg hbehind, if_pos hreach, hlag]
      rw [hposition]
    have hrest : b.Carries ((older ++ events.take (events.length - ringSize)) ++
        events.drop (events.length - ringSize)) := by
      rwa [List.append_assoc, List.take_append_drop]
    simp only [Reception.ofEvents, if_neg hheld, Reception.notices, if_neg hmissed, List.singleton_append]
    exact .more hnext (tells_events hrest (by simp; omega))

/-- **Asking for one notice after another comes to what is received at once.** -/
theorem tells_iff (h : b.Carries (older ++ events)) {notices : List Notice} {s : Subscription} :
    b.Tells ⟨older.length⟩ notices s ↔
      notices = (b.receive ⟨older.length⟩).1.notices ∧ s = (b.receive ⟨older.length⟩).2 := by
  have htells := tells_receive h
  rw [receive_of_carries h]
  constructor
  · intro hall
    exact htells.unique hall
  · rintro ⟨rfl, rfl⟩
    exact htells

/-! ### The webhook queue -/

/-- The events that wait for webhooks. -/
def queued (b : Bus) : List FleetEvent := (b.queue.map WebhookQueue.items).getD []

/-- The webhook queue is open and has room for an event. -/
def admits (b : Bus) : Bool := b.queue.any fun q => q.isOpen && q.items.length < q.capacity

/-- Takes the oldest event out of the webhook queue. -/
def takeQueued (b : Bus) : Bus := { b with queue := b.queue.map fun q => { q with items := q.items.drop 1 } }

theorem queue_publish (b : Bus) (e : FleetEvent) :
    (b.publish e).queue = b.queue.map fun q => { q with items := q.items ++ if b.admits then [e] else [] } := by
  obtain ⟨published, ring, queue⟩ := b
  cases queue with
  | none => rfl
  | some q =>
      simp only [publish, admits, WebhookQueue.offer, Option.map_some, Option.any_some, Bool.and_eq_true,
        decide_eq_true_eq]
      split <;> simp

theorem drainQueue_eq (b : Bus) :
    b.drainQueue = (b.queued, { b with queue := b.queue.map fun q => { q with items := [] } }) := by
  obtain ⟨published, ring, queue⟩ := b
  cases queue <;> rfl

end Bus

/-! ### Steps -/

/-- What may happen to a bus. Subscribers have numbers. -/
inductive BusStep where
  | publish (e : FleetEvent)
  | subscribe (name : Nat)
  | unsubscribe (name : Nat)
  /-- A subscriber receives all that it has not received yet. -/
  | drain (name : Nat)
  | takeQueued
  | drainQueue
  | closeQueue
  deriving DecidableEq

namespace BusStep

/-- The event that is published. -/
def event? : BusStep → Option FleetEvent
  | .publish e => some e
  | _ => none

/-- The subscriber whose own step this is. -/
def name? : BusStep → Option Nat
  | .subscribe name | .unsubscribe name | .drain name => some name
  | _ => none

/-- A subscriber may learn of this step: an event, or one of its own. -/
def concerns (name : Nat) (step : BusStep) : Bool := step.event?.isSome || step.name? = some name

/-- The events that are published, in order. -/
def published (steps : List BusStep) : List FleetEvent := steps.filterMap event?

theorem published_cons (step : BusStep) (steps : List BusStep) :
    published (step :: steps) = step.event?.toList ++ published steps := by
  cases h : step.event? <;> simp [published, h]

/-- The subscriber has subscribed, and not unsubscribed since. -/
def Subscribed (name : Nat) (steps : List BusStep) : Prop :=
  ∃ older since, steps = older ++ .subscribe name :: since ∧ .unsubscribe name ∉ since

theorem not_subscribed_nil (name : Nat) : ¬Subscribed name [] := by
  rintro ⟨older, since, h, -⟩
  simp at h

theorem subscribed_cons {name : Nat} {step : BusStep} {steps : List BusStep} :
    Subscribed name (step :: steps) ↔
      Subscribed name steps ∨ step = .subscribe name ∧ .unsubscribe name ∉ steps := by
  constructor
  · rintro ⟨older, since, h, hsince⟩
    rcases List.cons_eq_append_iff.1 h with ⟨-, h⟩ | ⟨older', -, h⟩
    · cases h
      exact .inr ⟨rfl, hsince⟩
    · exact .inl ⟨older', since, h, hsince⟩
  · rintro (⟨older, since, rfl, hsince⟩ | ⟨rfl, hsince⟩)
    · exact ⟨step :: older, since, rfl, hsince⟩
    · exact ⟨[], steps, rfl, hsince⟩

end BusStep

/-- A bus with those that receive from it. -/
structure FanOut where
  bus : Bus
  subscribers : Nat → Option Subscription := fun _ => none

namespace FanOut

/-- A new bus in front of a webhook queue, or without one. -/
def start (queue : Option WebhookQueue) : FanOut := { bus := { queue } }

/-- What a step leads to. -/
def after (f : FanOut) : BusStep → FanOut
  | .publish e => { f with bus := f.bus.publish e }
  | .subscribe name => { f with subscribers := Function.update f.subscribers name (some f.bus.subscribe) }
  | .unsubscribe name => { f with subscribers := Function.update f.subscribers name none }
  | .drain name =>
    { f with
      subscribers := Function.update f.subscribers name ((f.subscribers name).map fun s => (f.bus.receive s).2) }
  | .takeQueued => { f with bus := f.bus.takeQueued }
  | .drainQueue => { f with bus := f.bus.drainQueue.2 }
  | .closeQueue => { f with bus := f.bus.closeQueue }

/-- What some steps lead to. -/
def run (f : FanOut) (steps : List BusStep) : FanOut := steps.foldl after f

/-- What the steps of a run yield, each in the state that it finds. -/
def gather {α : Type} (yield : FanOut → BusStep → List α) (f : FanOut) : List BusStep → List α
  | [] => []
  | step :: steps => yield f step ++ gather yield (f.after step) steps

/-- What a subscriber receives. -/
def received (name : Nat) (f : FanOut) : BusStep → List Reception
  | .drain name' => if name' = name then ((f.subscribers name).map fun s => (f.bus.receive s).1).toList else []
  | _ => []

/-- The events that the webhook queue admits: those that are published while it is open and not full. -/
def admitted (f : FanOut) : BusStep → List FleetEvent
  | .publish e => if f.bus.admits then [e] else []
  | _ => []

/-- The events that are taken out of the webhook queue. -/
def taken (f : FanOut) : BusStep → List FleetEvent
  | .takeQueued => f.bus.queued.take 1
  | .drainQueue => f.bus.drainQueue.1
  | _ => []

/-- The events that wait while the webhook queue is closed. -/
def lost (f : FanOut) : BusStep → List FleetEvent
  | .closeQueue => f.bus.queued
  | _ => []

open BusStep

/-! ### What the bus carries -/

variable {f f' : FanOut} {step : BusStep} {name : Nat}

/-- Nothing but an event changes the ring. -/
theorem ring_after (f : FanOut) (h : step.event? = none) :
    (f.after step).bus.published = f.bus.published ∧ (f.after step).bus.ring = f.bus.ring := by
  cases step with
  | publish => cases h
  | drainQueue => simp [after, Bus.drainQueue_eq]
  | _ => exact ⟨rfl, rfl⟩

theorem carries_after {history : List FleetEvent} (h : f.bus.Carries history) (step : BusStep) :
    (f.after step).bus.Carries (history ++ step.event?.toList) := by
  cases hevent : step.event? with
  | none =>
      obtain ⟨hpublished, hring⟩ := f.ring_after hevent
      simpa using Bus.Carries.mk (hpublished.trans h.published) (hring.trans h.ring)
  | some e =>
      cases step with
      | publish =>
          cases hevent
          exact Bus.carries_publish h e
      | _ => cases hevent

/-- **A bus carries all that is published.** -/
theorem carries_run {history : List FleetEvent} (h : f.bus.Carries history) (steps : List BusStep) :
    (f.run steps).bus.Carries (history ++ published steps) := by
  induction steps generalizing f history with
  | nil => simpa [published, run] using h
  | cons step steps ih =>
      rw [published_cons, ← List.append_assoc]
      exact ih (carries_after h step)

theorem carries_start (queue : Option WebhookQueue) : (start queue).bus.Carries [] := ⟨rfl, rfl⟩

/-! ### Who subscribes, and from where on -/

/-- A subscriber stands where it stood, as long as it does nothing itself. -/
theorem subscribers_after (f : FanOut) (h : step.name? ≠ some name) :
    (f.after step).subscribers name = f.subscribers name := by
  cases step with
  | subscribe name' | unsubscribe name' | drain name' =>
      have hne : name ≠ name' := fun heq => h (congrArg some heq.symm)
      exact Function.update_of_ne hne _ _
  | _ => rfl

theorem subscribers_run {steps : List BusStep} (f : FanOut) (h : ∀ step ∈ steps, step.name? ≠ some name) :
    (f.run steps).subscribers name = f.subscribers name := by
  induction steps generalizing f with
  | nil => rfl
  | cons step steps ih =>
      obtain ⟨hstep, hsteps⟩ := List.forall_mem_cons.1 h
      exact (ih (f.after step) hsteps).trans (f.subscribers_after hstep)

theorem isSome_after :
    ((f.after step).subscribers name).isSome ↔
      step = .subscribe name ∨ (f.subscribers name).isSome ∧ step ≠ .unsubscribe name := by
  by_cases hname : step.name? = some name
  · cases step with
    | subscribe name' | unsubscribe name' | drain name' =>
        cases hname
        simp [after]
    | _ => cases hname
  · rw [f.subscribers_after hname]
    have hsubscribe : step ≠ .subscribe name := by
      rintro rfl
      exact hname rfl
    have hunsubscribe : step ≠ .unsubscribe name := by
      rintro rfl
      exact hname rfl
    simp [hsubscribe, hunsubscribe]

theorem isSome_run (f : FanOut) (steps : List BusStep) :
    ((f.run steps).subscribers name).isSome ↔
      Subscribed name steps ∨ (f.subscribers name).isSome ∧ .unsubscribe name ∉ steps := by
  induction steps generalizing f with
  | nil => simp [run, not_subscribed_nil]
  | cons step steps ih =>
      have hrun : f.run (step :: steps) = (f.after step).run steps := rfl
      rw [hrun, ih, isSome_after, subscribed_cons, List.mem_cons]
      grind

/-- Who subscribes, or drains, has a claim to what is published from then on. -/
theorem after_mark {mark : BusStep}
    (h : mark = .subscribe name ∨ mark = .drain name ∧ (f.subscribers name).isSome) :
    (f.after mark).subscribers name = some ⟨f.bus.published⟩ ∧ (f.after mark).bus = f.bus := by
  rcases h with rfl | ⟨rfl, hsome⟩
  · simp [after, Bus.subscribe]
  · obtain ⟨s, hs⟩ := Option.isSome_iff_exists.1 hsome
    simp [after, hs, Bus.receive]

/-- **What was published since is what a subscriber has a claim to.** -/
theorem subscriber_run {history : List FleetEvent} (h : f.bus.Carries history) {mark : BusStep}
    (hmark : mark = .subscribe name ∨ mark = .drain name ∧ (f.subscribers name).isSome) {since : List BusStep}
    (hsince : ∀ step ∈ since, step.name? ≠ some name) :
    ((f.after mark).run since).subscribers name = some ⟨history.length⟩ ∧
      ((f.after mark).run since).bus.Carries (history ++ published since) := by
  obtain ⟨hposition, hbus⟩ := after_mark hmark
  constructor
  · rw [subscribers_run _ hsince, hposition, h.published]
  · refine carries_run ?_ since
    rwa [hbus]

/-! ### What a subscriber can tell -/

/-- No difference between these is seen by the subscriber. -/
structure Alike (name : Nat) (f f' : FanOut) : Prop where
  published : f.bus.published = f'.bus.published
  ring : f.bus.ring = f'.bus.ring
  subscriber : f.subscribers name = f'.subscribers name

namespace Alike

theorem receive (h : Alike name f f') (s : Subscription) : f.bus.receive s = f'.bus.receive s := by
  simp only [Bus.receive, h.published, h.ring]

theorem received (h : Alike name f f') (step : BusStep) : received name f step = received name f' step := by
  cases step with
  | drain => simp only [FanOut.received, h.subscriber, h.receive]
  | _ => rfl

theorem update (h : Alike name f f') (name' : Nat) {s s' : Option Subscription} (hs : name = name' → s = s') :
    Function.update f.subscribers name' s name = Function.update f'.subscribers name' s' name := by
  by_cases heq : name = name'
  · subst heq
    simp [hs]
  · simp [heq, h.subscriber]

theorem after (h : Alike name f f') (step : BusStep) : Alike name (f.after step) (f'.after step) := by
  cases hevent : step.event? with
  | some e =>
      cases step with
      | publish =>
          refine ⟨?_, ?_, h.subscriber⟩
          · simp [FanOut.after, Bus.publish, h.published]
          · simp [FanOut.after, Bus.publish, h.ring]
      | _ => cases hevent
  | none =>
      obtain ⟨hpublished, hring⟩ := f.ring_after hevent
      obtain ⟨hpublished', hring'⟩ := f'.ring_after hevent
      refine ⟨?_, ?_, ?_⟩
      · rw [hpublished, hpublished', h.published]
      · rw [hring, hring', h.ring]
      · cases step with
        | subscribe name' => exact h.update name' fun _ => by simp [Bus.subscribe, h.published]
        | unsubscribe name' => exact h.update name' fun _ => rfl
        | drain name' =>
            refine h.update name' ?_
            rintro rfl
            simp only [h.subscriber, h.receive]
        | _ => exact h.subscriber

end Alike

/-- A step that is neither an event nor its own is not seen by a subscriber. -/
theorem alike_after (f : FanOut) (h : step.concerns name = false) : Alike name (f.after step) f := by
  simp only [concerns, Bool.or_eq_false_iff, Option.isSome_eq_false_iff, Option.isNone_iff_eq_none,
    decide_eq_false_iff_not] at h
  obtain ⟨hpublished, hring⟩ := f.ring_after h.1
  exact ⟨hpublished, hring, f.subscribers_after h.2⟩

theorem received_of_unconcerned (f : FanOut) (h : step.concerns name = false) : received name f step = [] := by
  cases step with
  | drain name' =>
      have hne : name' ≠ name := by simpa [concerns, event?, name?] using h
      simp [received, hne]
  | _ => rfl

/-- **What a subscriber receives is fixed by the events and by its own steps.** -/
theorem received_filter (h : Alike name f f') (steps : List BusStep) :
    gather (received name) f steps = gather (received name) f' (steps.filter (·.concerns name)) := by
  induction steps generalizing f f' with
  | nil => rfl
  | cons step steps ih =>
      by_cases hconcerns : step.concerns name = true
      · rw [List.filter_cons_of_pos hconcerns, gather, gather, h.received, ih (h.after step)]
      · have hunseen := Bool.eq_false_iff.2 hconcerns
        have halike := f.alike_after hunseen
        rw [List.filter_cons_of_neg hconcerns, gather, f.received_of_unconcerned hunseen, List.nil_append,
          ih ⟨halike.published.trans h.published, halike.ring.trans h.ring, halike.subscriber.trans h.subscriber⟩]

/-! ### What the webhook queue gets -/

/-- From `q` to `q'` a webhook queue admitted some events, and some were taken and some lost; if it is closed on the
way, all that wait are lost. -/
structure Passes (q : WebhookQueue) (closes : Prop) (taken lost admitted : List FleetEvent) (q' : WebhookQueue) :
    Prop where
  capacity : q'.capacity = q.capacity
  isOpen : q'.isOpen = true ↔ q.isOpen = true ∧ ¬closes
  items : taken ++ lost ++ q'.items = q.items ++ admitted
  refused : q.isOpen = false → admitted = []
  kept : ¬closes → lost = []
  emptied : closes → q'.items = []

theorem Passes.refl (q : WebhookQueue) : Passes q False [] [] [] q :=
  ⟨rfl, by simp, by simp, fun _ => rfl, fun _ => rfl, False.elim⟩

theorem Passes.trans {q q' q'' : WebhookQueue} {closes closes' : Prop}
    {taken lost admitted taken' lost' admitted' : List FleetEvent} (h : Passes q closes taken lost admitted q')
    (h' : Passes q' closes' taken' lost' admitted' q'') :
    Passes q (closes ∨ closes') (taken ++ taken') (lost ++ lost') (admitted ++ admitted') q'' := by
  have hopen := h.isOpen
  have hclosed : q'.isOpen = false ↔ q.isOpen = false ∨ closes := by
    rw [← Bool.not_eq_true, hopen, not_and_or, not_not, Bool.not_eq_true]
  -- behind a closed queue that is empty nothing follows
  have hend : closes → taken' ++ lost' ++ q''.items = [] := by
    intro hcloses
    rw [h'.items, h.emptied hcloses, h'.refused (hclosed.2 (.inr hcloses))]
    rfl
  have hcommute : taken' ++ lost = lost ++ taken' := by
    by_cases hcloses : closes
    · simp [(List.append_eq_nil_iff.1 (List.append_eq_nil_iff.1 (hend hcloses)).1).1]
    · simp [h.kept hcloses]
  refine ⟨h'.capacity.trans h.capacity, ?_, ?_, ?_, ?_, ?_⟩
  · rw [h'.isOpen, hopen, and_assoc, not_or]
  · calc taken ++ taken' ++ (lost ++ lost') ++ q''.items
        = taken ++ (taken' ++ lost) ++ lost' ++ q''.items := by simp only [List.append_assoc]
      _ = taken ++ lost ++ (taken' ++ lost' ++ q''.items) := by rw [hcommute]; simp only [List.append_assoc]
      _ = q.items ++ (admitted ++ admitted') := by rw [h'.items, ← List.append_assoc, h.items, List.append_assoc]
  · intro hshut
    rw [h.refused hshut, h'.refused (hclosed.2 (.inl hshut))]
    rfl
  · intro hnot
    rw [h.kept fun hcloses => hnot (.inl hcloses), h'.kept fun hcloses => hnot (.inr hcloses)]
    rfl
  · rintro (hcloses | hcloses)
    · exact (List.append_eq_nil_iff.1 (hend hcloses)).2
    · exact h'.emptied hcloses

theorem passes_after {q : WebhookQueue} (h : f.bus.queue = some q) (step : BusStep) :
    ∃ q', (f.after step).bus.queue = some q' ∧
      Passes q (step = .closeQueue) (taken f step) (lost f step) (admitted f step) q' := by
  have hqueued : f.bus.queued = q.items := by simp [Bus.queued, h]
  cases step with
  | publish e =>
      refine ⟨{ q with items := q.items ++ if f.bus.admits then [e] else [] }, ?_, rfl, ?_, ?_, ?_, ?_, nofun⟩
      · simp [after, Bus.queue_publish, h]
      · simp
      · simp [taken, lost, admitted]
      · intro hclosed
        simp [admitted, Bus.admits, h, hclosed]
      · intro _
        rfl
  | takeQueued =>
      refine ⟨{ q with items := q.items.drop 1 }, ?_, rfl, ?_, ?_, fun _ => rfl, fun _ => rfl, nofun⟩
      · simp [after, Bus.takeQueued, h]
      · simp
      · simpa [taken, lost, admitted, hqueued] using q.items.take_append_drop 1
  | drainQueue =>
      refine ⟨{ q with items := [] }, ?_, rfl, ?_, ?_, fun _ => rfl, fun _ => rfl, nofun⟩
      · simp [after, Bus.drainQueue_eq, h]
      · simp
      · simp [taken, lost, admitted, Bus.drainQueue_eq, hqueued]
  | closeQueue =>
      refine ⟨q.close, ?_, rfl, ?_, ?_, fun _ => rfl, ?_, fun _ => rfl⟩
      · simp [after, Bus.closeQueue, h]
      · simp [WebhookQueue.close]
      · simp [taken, lost, admitted, hqueued, WebhookQueue.close]
      · simp
  | subscribe | unsubscribe | drain => exact ⟨q, h, by simpa [taken, lost, admitted] using Passes.refl q⟩

/-- **The queue over a run:** what leaves it and what it holds then are what it held and what it admitted, in order. -/
theorem passes_run {q : WebhookQueue} (h : f.bus.queue = some q) (steps : List BusStep) :
    ∃ q', (f.run steps).bus.queue = some q' ∧
      Passes q (.closeQueue ∈ steps) (gather taken f steps) (gather lost f steps) (gather admitted f steps) q' := by
  induction steps generalizing f q with
  | nil => exact ⟨q, h, by simpa [gather] using Passes.refl q⟩
  | cons step steps ih =>
      obtain ⟨q₁, hq₁, hstep⟩ := passes_after h step
      obtain ⟨q₂, hq₂, hsteps⟩ := ih hq₁
      refine ⟨q₂, hq₂, ?_⟩
      rw [List.mem_cons, eq_comm]
      exact hstep.trans hsteps

/-! ### Any steps -/

/-- **No event is lost silently.** Behind any steps on a new bus, whatever its webhook queue: those are subscribed who
asked for it and have not unsubscribed since. A subscriber receives what was published since it subscribed, or drained:
exactly these events, in order, if they are at most 256; if they are more, it is told how many it missed, once, and
receives the newest 256. Asking for one notice after another comes to the same. All that a subscriber receives over the
steps depends on what is published and on its own steps, not on other subscribers or on a webhook queue. That queue is
open until it is closed; what is taken from it, then what was lost as it was closed, then what waits, are the events
that it held and those that were published while it was open and not full, in order. -/
theorem lossless (queue : Option WebhookQueue) (steps : List BusStep) :
    let f := (start queue).run steps
    (∀ name, (f.subscribers name).isSome ↔ Subscribed name steps) ∧
      (∀ name older mark since, steps = older ++ mark :: since →
        (mark = .subscribe name ∨ mark = .drain name ∧ Subscribed name older) →
        (∀ step ∈ since, step.name? ≠ some name) →
        ∃ s, f.subscribers name = some s ∧ received name f (.drain name) = [.ofEvents (published since)] ∧
          ∀ notices s', f.bus.Tells s notices s' ↔
            notices = (Reception.ofEvents (published since)).notices ∧
              (f.after (.drain name)).subscribers name = some s') ∧
      (∀ name queue' steps', steps.filter (·.concerns name) = steps'.filter (·.concerns name) →
        gather (received name) (start queue) steps = gather (received name) (start queue') steps') ∧
      ∀ q, queue = some q →
        ∃ q', f.bus.queue = some q' ∧ q'.capacity = q.capacity ∧
          (q'.isOpen = true ↔ q.isOpen = true ∧ .closeQueue ∉ steps) ∧
          gather taken (start queue) steps ++ gather lost (start queue) steps ++ q'.items =
            q.items ++ gather admitted (start queue) steps ∧
          (.closeQueue ∉ steps → gather lost (start queue) steps = []) := by
  intro f
  have hsubscribed (name : Nat) (steps : List BusStep) :
      (((start queue).run steps).subscribers name).isSome ↔ Subscribed name steps := by
    simp [isSome_run, start]
  refine ⟨fun name => hsubscribed name steps, ?_, ?_, ?_⟩
  · rintro name older mark since rfl hmark hsince
    have holder : ((start queue).run older).bus.Carries (published older) := carries_run (carries_start queue) older
    rw [← hsubscribed] at hmark
    obtain ⟨hsubscriber, hcarries⟩ := subscriber_run holder hmark hsince
    have hf : f = (((start queue).run older).after mark).run since := by simp [f, run]
    have hreceive := Bus.receive_of_carries hcarries
    rw [← hf] at hsubscriber hcarries hreceive
    refine ⟨_, hsubscriber, ?_, ?_⟩
    · simp [received, hsubscriber, hreceive]
    · intro notices s'
      simp [Bus.tells_iff hcarries, after, hsubscriber, hreceive, eq_comm]
  · intro name queue' steps' hfilter
    have halike : Alike name (start queue) (start queue') := ⟨rfl, rfl, rfl⟩
    have halike' : Alike name (start queue') (start queue') := ⟨rfl, rfl, rfl⟩
    rw [received_filter halike steps, hfilter, received_filter halike' steps']
  · intro q hq
    obtain ⟨q', hq', hpasses⟩ := passes_run (f := start queue) hq steps
    exact ⟨q', hq', hpasses.capacity, hpasses.isOpen, hpasses.items, hpasses.kept⟩

/-- The queue has room for one event: the second one reaches the subscriber alone. -/
example (e e' : FleetEvent) :
    let f := start (some (.ofSize 1))
    let steps : List BusStep := [.subscribe 0, .publish e, .publish e', .drain 0, .takeQueued]
    gather (received 0) f steps = [⟨0, [e, e']⟩] ∧ gather taken f steps = [e] := ⟨rfl, rfl⟩

end FanOut

end FleetRouting
