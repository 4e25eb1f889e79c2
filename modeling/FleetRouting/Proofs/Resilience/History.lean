import FleetRouting.Proofs.SortedMap
import FleetRouting.Resilience.Breaker
import Mathlib.Order.Lattice
import Mathlib.Tactic.Common
/-!
# FleetRouting.Proofs.Resilience.History

**What a circuit answers is decided by what it saw.** A circuit keeps a counter and two times; its history is the list
of all that was asked of it and reported to it. `Circuit.Recalls` says how the three fields are read off a history, and
every signal keeps that. So the answer is a law about histories (`BreakerSettings.Lets`): a call goes through as long as
too few failures stand behind the last success, or when the service has rested since its last failure and since whatever
was let through after it.
-/

namespace FleetRouting

/-! ### Histories -/

/-- What a circuit saw of the calls to its service. -/
inductive Note where
  /-- A call was let through. -/
  | granted (tick : Nat)
  | refused (tick : Nat)
  | failed (tick : Nat)
  | succeeded (tick : Nat)
  deriving DecidableEq, Repr

namespace Note

/-- When it was seen. -/
def tick : Note → Nat
  | granted t | refused t | failed t | succeeded t => t

/-- True for a report of success. -/
def isSuccess : Note → Bool
  | succeeded _ => true
  | _ => false

/-! Histories have their newest note first. -/

/-- The number of failures since the last success. -/
def recentFailures : List Note → Nat
  | [] => 0
  | failed _ :: older => recentFailures older + 1
  | succeeded _ :: _ => 0
  | granted _ :: older => recentFailures older
  | refused _ :: older => recentFailures older

/-- When the last failure was. -/
def lastFailure? : List Note → Option Nat
  | [] => none
  | failed t :: _ => some t
  | granted _ :: older => lastFailure? older
  | refused _ :: older => lastFailure? older
  | succeeded _ :: older => lastFailure? older

/-- When the last call since the last failure was let through. -/
def lastGrant? : List Note → Option Nat
  | [] => none
  | granted t :: _ => some t
  | failed _ :: _ => none
  | refused _ :: older => lastGrant? older
  | succeeded _ :: older => lastGrant? older

/-- Since when the service rests: the later one of the last failure and the last call let through after it. -/
def restsSince? (h : List Note) : Option Nat := (lastFailure? h).map fun t => max t ((lastGrant? h).getD t)

/-- The notes of a history were made one after another, and none after `now`. -/
def InOrder (h : List Note) (now : Nat) : Prop := (now :: h.map tick).Pairwise (· ≥ ·)

theorem InOrder.le {h : List Note} {now : Nat} (hordered : InOrder h now) {n : Note} (hn : n ∈ h) : n.tick ≤ now :=
  (List.pairwise_cons.1 hordered).1 _ (List.mem_map_of_mem hn)

theorem InOrder.split {newer older : List Note} {n : Note} {now : Nat} (hordered : InOrder (newer ++ n :: older) now) :
    (∀ m ∈ newer, n.tick ≤ m.tick) ∧ InOrder older n.tick := by
  have hpairwise := (List.pairwise_cons.1 hordered).2
  rw [List.map_append, List.map_cons] at hpairwise
  obtain ⟨-, holder, hnewer⟩ := List.pairwise_append.1 hpairwise
  exact ⟨fun m hm => hnewer _ (List.mem_map_of_mem hm) _ (List.mem_cons_self ..), holder⟩

/-- A history of what was seen at rising times, the last of them first. -/
theorem InOrder.of_rising {h : List Note} {ticks : List Nat} {now : Nat} (hticks : h.map tick = ticks.reverse)
    (hrising : (ticks ++ [now]).Pairwise (· ≤ ·)) : InOrder h now := by
  rw [InOrder, hticks, ← List.reverse_concat, List.pairwise_reverse]
  exact hrising

theorem mem_of_lastFailure? {h : List Note} {t : Nat} (hlast : lastFailure? h = some t) : failed t ∈ h := by
  induction h with
  | nil => cases hlast
  | cons n older ih =>
      cases n with
      | failed u =>
          obtain rfl := Option.some.inj hlast
          exact List.mem_cons_self ..
      | _ => exact List.mem_cons_of_mem _ (ih hlast)

theorem mem_of_lastGrant? {h : List Note} {t : Nat} (hlast : lastGrant? h = some t) : granted t ∈ h := by
  induction h with
  | nil => cases hlast
  | cons n older ih =>
      cases n with
      | granted u =>
          obtain rfl := Option.some.inj hlast
          exact List.mem_cons_self ..
      | failed u => cases hlast
      | _ => exact List.mem_cons_of_mem _ (ih hlast)

/-- A call that was let through after the last failure was not let through before it. -/
theorem lastFailure?_le_lastGrant? {h : List Note} {now t u : Nat} (hordered : InOrder h now)
    (hfailure : lastFailure? h = some t) (hgrant : lastGrant? h = some u) : t ≤ u := by
  induction h generalizing now with
  | nil => cases hfailure
  | cons n older ih =>
      have holder : InOrder older n.tick := (InOrder.split (show InOrder ([] ++ n :: older) now from hordered)).2
      cases n with
      | granted v =>
          obtain rfl := Option.some.inj hgrant
          have hmem : failed t ∈ older := mem_of_lastFailure? hfailure
          exact holder.le hmem
      | failed v => cases hgrant
      | refused v => exact ih holder hfailure hgrant
      | succeeded v => exact ih holder hfailure hgrant

/-- Where there are recent failures there is a last one. -/
theorem exists_lastFailure? {h : List Note} (hfailures : 0 < recentFailures h) : ∃ t, lastFailure? h = some t := by
  induction h with
  | nil => cases hfailures
  | cons n older ih =>
      cases n with
      | failed t => exact ⟨t, rfl⟩
      | succeeded t => cases hfailures
      | granted t => exact ih hfailures
      | refused t => exact ih hfailures

/-- Only a success takes failures back. -/
theorem recentFailures_le_append {newer older : List Note} (hnewer : ∀ n ∈ newer, n.isSuccess = false) :
    recentFailures older ≤ recentFailures (newer ++ older) := by
  induction newer with
  | nil => exact Nat.le_refl _
  | cons n newer ih =>
      obtain ⟨hn, hnewer⟩ := List.forall_mem_cons.1 hnewer
      have hle := ih hnewer
      cases n with
      | granted t => exact hle
      | refused t => exact hle
      | failed t => exact Nat.le_succ_of_le hle
      | succeeded t => cases hn

/-- Behind a failure, or a call that was let through, one of the two times that count is at least as late. -/
theorem le_lastFailure?_or_le_lastGrant? {newer older : List Note} {n : Note}
    (hlater : ∀ m ∈ newer, n.tick ≤ m.tick) (hn : n = granted n.tick ∨ n = failed n.tick) :
    (∃ t, lastFailure? (newer ++ n :: older) = some t ∧ n.tick ≤ t) ∨
      ∃ t, lastGrant? (newer ++ n :: older) = some t ∧ n.tick ≤ t := by
  induction newer with
  | nil =>
      rcases hn with hn | hn
      · rw [hn]
        exact .inr ⟨_, rfl, Nat.le_refl _⟩
      · rw [hn]
        exact .inl ⟨_, rfl, Nat.le_refl _⟩
  | cons m newer ih =>
      obtain ⟨hm, hrest⟩ := List.forall_mem_cons.1 hlater
      cases m with
      | granted t => exact .inr ⟨t, rfl, hm⟩
      | failed t => exact .inl ⟨t, rfl, hm⟩
      | refused t => exact ih hrest
      | succeeded t => exact ih hrest

/-- A service rests at most since it last failed, or was let through after that. -/
theorem le_of_restsSince? {newer older : List Note} {n : Note} {now t : Nat}
    (hordered : InOrder (newer ++ n :: older) now) (hn : n = granted n.tick ∨ n = failed n.tick)
    (hrests : restsSince? (newer ++ n :: older) = some t) : n.tick ≤ t := by
  obtain ⟨f, hfailure, rfl⟩ := Option.map_eq_some_iff.1 hrests
  rcases le_lastFailure?_or_le_lastGrant? hordered.split.1 hn with ⟨f', hfailure', hle⟩ | ⟨g, hgrant, hle⟩
  · obtain rfl := Option.some.inj (hfailure.symm.trans hfailure')
    exact hle.trans (Nat.le_max_left ..)
  · rw [hgrant]
    exact hle.trans (Nat.le_max_right ..)

/-- Refusals do not take back that a call was let through. -/
theorem lastGrant?_of_refused {newer older : List Note} {t : Nat} (hnewer : ∀ n ∈ newer, n = refused n.tick) :
    lastGrant? (newer ++ granted t :: older) = some t := by
  induction newer with
  | nil => rfl
  | cons n newer ih =>
      obtain ⟨hn, hrest⟩ := List.forall_mem_cons.1 hnewer
      rw [hn]
      exact ih hrest

/-- The later one of the two times is the one of the call that was let through, if there was any. -/
theorem restsSince?_eq {h : List Note} {now t : Nat} (hordered : InOrder h now) (hfailure : lastFailure? h = some t) :
    restsSince? h = some ((lastGrant? h).getD t) ∧ (lastGrant? h).getD t ≤ now := by
  cases hgrant : lastGrant? h with
  | none =>
      refine ⟨?_, hordered.le (mem_of_lastFailure? hfailure)⟩
      simp [restsSince?, hfailure, hgrant]
  | some u =>
      have hlater : t ≤ u := lastFailure?_le_lastGrant? hordered hfailure hgrant
      refine ⟨?_, hordered.le (mem_of_lastGrant? hgrant)⟩
      simp [restsSince?, hfailure, hgrant, hlater]

end Note

open Note

/-- Settings that can be kept: the threshold is at least one, and like the counter of failures it has 32 bits. -/
structure BreakerSettings.Admissible (s : BreakerSettings) : Prop where
  positive : 1 ≤ s.threshold
  counted : s.threshold ≤ Circuit.maxFailures

/-- **The law of circuits.** Behind this history a call at `now` goes through: too few failures stand behind the last
success, or the service has rested long enough. -/
def BreakerSettings.Lets (s : BreakerSettings) (h : List Note) (now : Nat) : Prop :=
  recentFailures h < s.threshold ∨ ∃ t, restsSince? h = some t ∧ t + s.resetTimeout ≤ now

/-! ### One circuit -/

namespace Circuit

/-- A circuit under its settings keeps of a history the number of recent failures, the time of the last one, and, once it
is open, the time of the last call let through since. -/
structure Recalls (c : Circuit) (s : BreakerSettings) (h : List Note) : Prop where
  failures : c.failures = min (recentFailures h) maxFailures
  lastFailure : c.lastFailure = lastFailure? h
  probeStarted : c.probeStarted = if s.threshold ≤ recentFailures h then lastGrant? h else none

theorem recalls_new {s : BreakerSettings} (hs : s.Admissible) : Recalls {} s [] where
  failures := rfl
  lastFailure := rfl
  probeStarted := (if_neg (Nat.not_le.2 hs.positive)).symm

/-- What is asked of a circuit, or reported to it. -/
inductive Signal where
  /-- Whether a call may go through. -/
  | ask
  | fail
  | success
  deriving DecidableEq, Repr

/-- The note of a signal, and the circuit behind it. -/
def take (c : Circuit) (s : BreakerSettings) (tick : Nat) : Signal → Note × Circuit
  | .ask => (if (c.allow s tick).1 then .granted tick else .refused tick, (c.allow s tick).2)
  | .fail => (.failed tick, c.fail tick)
  | .success => (.succeeded tick, c.success)

namespace Recalls

variable {c : Circuit} {s : BreakerSettings} {h : List Note}

/-- The circuit has tripped when the recent failures have reached the threshold: the counter has not run full before. -/
theorem tripped_iff (hc : c.Recalls s h) (hs : s.Admissible) : s.threshold ≤ c.failures ↔ s.threshold ≤ recentFailures h := by
  have hcounted := hs.counted
  rw [hc.failures]
  omega

/-- The state that shows, in terms of the history. -/
theorem state_eq (hc : c.Recalls s h) (hs : s.Admissible) :
    c.state s =
      if recentFailures h < s.threshold then .closed else if (lastGrant? h).isSome then .halfOpen else .opened := by
  have htripped := hc.tripped_iff hs
  by_cases hfew : recentFailures h < s.threshold
  · simp [state, hc.probeStarted, htripped, hfew, Nat.not_le.2 hfew]
  · simp [state, hc.probeStarted, htripped, hfew, Nat.not_lt.1 hfew]

/-- How a circuit answers, in terms of its history. -/
theorem allow_eq (hc : c.Recalls s h) (hs : s.Admissible) (tick : Nat) :
    c.allow s tick =
      if recentFailures h < s.threshold then (true, c)
      else if hasRested s tick ((lastGrant? h).or (lastFailure? h)) then (true, { c with probeStarted := some tick })
      else (false, c) := by
  have hstate := hc.state_eq hs
  by_cases hfew : recentFailures h < s.threshold
  · rw [if_pos hfew] at hstate
    simp only [allow, hstate, hfew, if_true]
  · have hprobe := hc.probeStarted
    rw [if_pos (Nat.not_lt.1 hfew)] at hprobe
    rw [if_neg hfew] at hstate ⊢
    cases hgrant : lastGrant? h with
    | none =>
        rw [hgrant] at hstate
        simp only [allow, hstate, Option.isSome_none, Bool.false_eq_true, if_false, hc.lastFailure, Option.none_or]
    | some t =>
        rw [hgrant] at hstate hprobe
        simp only [allow, hstate, Option.isSome_some, if_true, hprobe, Option.some_or]
        rfl

/-- **A circuit answers by the law of its history.** -/
theorem allow_iff (hc : c.Recalls s h) (hs : s.Admissible) {tick : Nat} (hordered : InOrder h tick) :
    (c.allow s tick).1 = true ↔ s.Lets h tick := by
  rw [hc.allow_eq hs, BreakerSettings.Lets]
  by_cases hfew : recentFailures h < s.threshold
  · simp [hfew]
  · obtain ⟨t, hfailure⟩ : ∃ t, lastFailure? h = some t :=
      exists_lastFailure? (hs.positive.trans (Nat.not_lt.1 hfew))
    obtain ⟨hrests, hle⟩ := restsSince?_eq hordered hfailure
    have hsince : (lastGrant? h).or (lastFailure? h) = some ((lastGrant? h).getD t) := by
      cases lastGrant? h <;> simp [hfailure]
    have hrested : hasRested s tick (some ((lastGrant? h).getD t)) = true ↔
        (lastGrant? h).getD t + s.resetTimeout ≤ tick := by
      simp only [hasRested, decide_eq_true_eq]
      exact Nat.le_sub_iff_add_le' hle
    rw [if_neg hfew, hsince, hrests]
    split
    · next hyes => simpa [hfew] using hrested.1 hyes
    · next hno => simpa [hfew] using mt hrested.2 hno

theorem ask (hc : c.Recalls s h) (hs : s.Admissible) (tick : Nat) :
    (c.take s tick .ask).2.Recalls s ((c.take s tick .ask).1 :: h) := by
  simp only [take, hc.allow_eq hs]
  by_cases htripped : recentFailures h < s.threshold
  · have hprobe := hc.probeStarted
    rw [if_neg (Nat.not_le.2 htripped)] at hprobe
    simp only [htripped, if_true]
    exact ⟨hc.failures, hc.lastFailure, by rw [hprobe, recentFailures, if_neg (Nat.not_le.2 htripped)]⟩
  · simp only [htripped, if_false]
    split
    · -- the probe is the last call that was let through
      exact ⟨hc.failures, hc.lastFailure, (if_pos (Nat.not_lt.1 htripped)).symm⟩
    · exact ⟨hc.failures, hc.lastFailure, hc.probeStarted⟩

theorem fail (hc : c.Recalls s h) (tick : Nat) : (c.fail tick).Recalls s (.failed tick :: h) where
  failures := by
    have hfailures := hc.failures
    simp only [Circuit.fail, recentFailures]
    omega
  lastFailure := rfl
  probeStarted := by simp only [Circuit.fail, lastGrant?, ite_self]

theorem success (hc : c.Recalls s h) (hs : s.Admissible) (tick : Nat) : c.success.Recalls s (.succeeded tick :: h) where
  failures := (Nat.zero_min _).symm
  lastFailure := hc.lastFailure
  probeStarted := (if_neg (Nat.not_le.2 hs.positive)).symm

/-- That a call was let through need not be remembered when it has reported. -/
theorem of_reported {n : Note} {t : Nat} (hc : c.Recalls s (n :: .granted t :: h)) (hs : s.Admissible)
    (hn : n = .failed n.tick ∨ n = .succeeded n.tick) : c.Recalls s (n :: h) := by
  rcases hn with hn | hn
  · rw [hn] at hc ⊢
    exact ⟨hc.failures, hc.lastFailure, hc.probeStarted⟩
  · rw [hn] at hc ⊢
    have hprobe := hc.probeStarted
    rw [recentFailures, if_neg (Nat.not_le.2 hs.positive)] at hprobe
    exact ⟨hc.failures, hc.lastFailure, hprobe.trans (if_neg (Nat.not_le.2 hs.positive)).symm⟩

/-- Every signal is kept of as the history says. -/
theorem take (hc : c.Recalls s h) (hs : s.Admissible) (tick : Nat) (signal : Signal) :
    (c.take s tick signal).2.Recalls s ((c.take s tick signal).1 :: h) := by
  cases signal with
  | ask => exact hc.ask hs tick
  | fail => exact hc.fail tick
  | success => exact hc.success hs tick

end Recalls

end Circuit

/-- A signal to the circuit of a service. -/
structure BreakerCall where
  service : String
  tick : Nat
  signal : Circuit.Signal
  deriving DecidableEq, Repr

namespace Circuit

/-- What a circuit sees in a list of signals, the newest note first, and the circuit behind them. -/
def watch (c : Circuit) (s : BreakerSettings) : List BreakerCall → List Note × Circuit
  | [] => ([], c)
  | q :: qs =>
    let (note, c) := c.take s q.tick q.signal
    let (newer, c) := c.watch s qs
    (newer ++ [note], c)

theorem tick_take (c : Circuit) (s : BreakerSettings) (tick : Nat) (signal : Signal) :
    (c.take s tick signal).1.tick = tick := by
  cases signal with
  | ask =>
      simp only [take]
      split <;> rfl
  | fail => rfl
  | success => rfl

theorem ticks_watch (c : Circuit) (s : BreakerSettings) (qs : List BreakerCall) :
    (c.watch s qs).1.map Note.tick = (qs.map BreakerCall.tick).reverse := by
  induction qs generalizing c with
  | nil => rfl
  | cons q qs ih =>
      simp only [watch, List.map_append, List.map_cons, List.map_nil, List.reverse_cons, ih, tick_take]

/-- In the end a circuit recalls all that it saw, on top of what it knew. -/
theorem Recalls.watch {c : Circuit} {s : BreakerSettings} {h : List Note} (hc : c.Recalls s h) (hs : s.Admissible)
    (qs : List BreakerCall) : (c.watch s qs).2.Recalls s ((c.watch s qs).1 ++ h) := by
  induction qs generalizing c h with
  | nil => exact hc
  | cons q qs ih =>
      simp only [Circuit.watch, List.append_assoc, List.singleton_append]
      exact ih (hc.take hs q.tick q.signal)

end Circuit

/-! ### All circuits -/

namespace Breaker

/-- The note of a call, and the breaker behind it. -/
def take (b : Breaker) (q : BreakerCall) : Note × Breaker :=
  match q.signal with
  | .ask => (if (b.allow q.service q.tick).1 then .granted q.tick else .refused q.tick, (b.allow q.service q.tick).2)
  | .fail => (.failed q.tick, b.fail q.service q.tick)
  | .success => (.succeeded q.tick, b.success q.service)

/-- The breaker behind a list of calls. -/
def run (b : Breaker) (calls : List BreakerCall) : Breaker := calls.foldl (fun b q => (b.take q).2) b

/-- What the circuit of a service sees in a list of calls, the newest note first. -/
def notes (b : Breaker) (service : String) : List BreakerCall → List Note
  | [] => []
  | q :: calls => (b.take q).2.notes service calls ++ if q.service = service then [(b.take q).1] else []

section

variable {b : Breaker} {s : String}

theorem circuit_insert_self (c : Circuit) : circuit { b with circuits := b.circuits.insert s c } s = c := by
  simp only [circuit, SortedMap.get?_insert_self, Option.getD_some]

theorem circuit_insert_of_ne {s' : String} (c : Circuit) (h : s ≠ s') :
    circuit { b with circuits := b.circuits.insert s' c } s = b.circuit s := by
  simp only [circuit, SortedMap.get?_insert_of_ne _ _ h]

/-- A breaker asks the circuit of the service; a circuit that does not exist yet would let the call through. -/
theorem allow_circuit (hpositive : 1 ≤ (b.settings s).threshold) (tick : Nat) :
    (b.allow s tick).1 = ((b.circuit s).allow (b.settings s) tick).1 ∧
      (b.allow s tick).2.circuit s = ((b.circuit s).allow (b.settings s) tick).2 := by
  cases hget : b.circuits.get? s with
  | some c =>
      have hcircuit : b.circuit s = c := by rw [circuit, hget, Option.getD_some]
      simp only [allow, hget, hcircuit]
      exact ⟨trivial, circuit_insert_self _⟩
  | none =>
      have hcircuit : b.circuit s = {} := by rw [circuit, hget, Option.getD_none]
      have hclosed : Circuit.state {} (b.settings s) = .closed := if_neg (Nat.not_le.2 hpositive)
      simp only [allow, hget, hcircuit, Circuit.allow, hclosed]
      exact ⟨trivial, trivial⟩

/-- The state of a breaker is that of the circuit; one that does not exist yet is closed. -/
theorem state_circuit (hpositive : 1 ≤ (b.settings s).threshold) : b.state s = (b.circuit s).state (b.settings s) := by
  cases hget : b.circuits.get? s with
  | some c => simp only [state, circuit, hget, Option.getD_some]
  | none =>
      simp only [state, circuit, hget, Option.getD_none]
      exact (if_neg (Nat.not_le.2 hpositive)).symm

theorem settings_take (q : BreakerCall) : (b.take q).2.settings s = b.settings s := by
  obtain ⟨service, tick, signal⟩ := q
  cases signal with
  | ask =>
      simp only [take, allow]
      split <;> rfl
  | fail => rfl
  | success => rfl

/-- A call is a signal to the circuit of its service. -/
theorem take_self {q : BreakerCall} (hpositive : 1 ≤ (b.settings q.service).threshold) :
    (b.take q).1 = ((b.circuit q.service).take (b.settings q.service) q.tick q.signal).1 ∧
      (b.take q).2.circuit q.service = ((b.circuit q.service).take (b.settings q.service) q.tick q.signal).2 := by
  obtain ⟨service, tick, signal⟩ := q
  cases signal with
  | ask =>
      obtain ⟨hgranted, hcircuit⟩ := allow_circuit hpositive tick
      simp only [take, Circuit.take, hgranted, hcircuit]
      exact ⟨trivial, trivial⟩
  | fail => exact ⟨rfl, circuit_insert_self _⟩
  | success => exact ⟨rfl, circuit_insert_self _⟩

/-- Other circuits do not see a call. -/
theorem take_other {q : BreakerCall} (h : s ≠ q.service) : (b.take q).2.circuit s = b.circuit s := by
  obtain ⟨service, tick, signal⟩ := q
  cases signal with
  | ask =>
      simp only [take, allow]
      split
      · rfl
      · exact circuit_insert_of_ne _ h
  | fail => exact circuit_insert_of_ne _ h
  | success => exact circuit_insert_of_ne _ h

theorem settings_run (calls : List BreakerCall) : (b.run calls).settings s = b.settings s := by
  induction calls generalizing b with
  | nil => rfl
  | cons q calls ih => exact ih.trans (settings_take q)

/-- **Each circuit sees its own calls and nothing else.** -/
theorem run_eq_watch (hpositive : 1 ≤ (b.settings s).threshold) (calls : List BreakerCall) :
    (b.notes s calls, (b.run calls).circuit s) =
      (b.circuit s).watch (b.settings s) (calls.filter fun q => q.service = s) := by
  induction calls generalizing b with
  | nil => rfl
  | cons q calls ih =>
      have hrest := ih (b := (b.take q).2) (by rwa [settings_take])
      rw [settings_take] at hrest
      by_cases hq : q.service = s
      · subst hq
        obtain ⟨hnote, hcircuit⟩ := take_self hpositive
        rw [hcircuit] at hrest
        rw [List.filter_cons_of_pos (by simp), Circuit.watch]
        simp only [← hrest, ← hnote, notes, if_true]
        rfl
      · rw [take_other (Ne.symm hq)] at hrest
        rw [List.filter_cons_of_neg (by simpa using hq), ← hrest]
        simp only [notes, hq, if_false, List.append_nil]
        rfl

theorem inOrder_notes (hpositive : 1 ≤ (b.settings s).threshold) {calls : List BreakerCall} {now : Nat}
    (hordered : (calls.map BreakerCall.tick ++ [now]).Pairwise (· ≤ ·)) : InOrder (b.notes s calls) now := by
  have hnotes : b.notes s calls = ((b.circuit s).watch (b.settings s) (calls.filter fun q => q.service = s)).1 :=
    congrArg Prod.fst (run_eq_watch hpositive calls)
  have hsub : ((calls.filter fun q => q.service = s).map BreakerCall.tick ++ [now]).Sublist
      (calls.map BreakerCall.tick ++ [now]) :=
    (List.filter_sublist.map BreakerCall.tick).append (List.Sublist.refl _)
  rw [hnotes]
  exact .of_rising (Circuit.ticks_watch _ _ _) (hordered.sublist hsub)

/-- A breaker that keeps a service under some settings, and of its history what they ask for. -/
structure Recalls (b : Breaker) (service : String) (s : BreakerSettings) (h : List Note) : Prop where
  settings : b.settings service = s
  circuit : (b.circuit service).Recalls s h

/-- A breaker that has no circuit of a service recalls nothing of it. -/
theorem recalls_nil (hnew : b.circuits.get? s = none) (hs : (b.settings s).Admissible) :
    b.Recalls s (b.settings s) [] := by
  have hcircuit : b.circuit s = {} := by rw [circuit, hnew, Option.getD_none]
  refine ⟨rfl, ?_⟩
  rw [hcircuit]
  exact Circuit.recalls_new hs

/-- A breaker that has no circuit of a service recalls of it all that it comes to see. -/
theorem recalls_run (hnew : b.circuits.get? s = none) (hs : (b.settings s).Admissible) (calls : List BreakerCall) :
    (b.run calls).Recalls s (b.settings s) (b.notes s calls) := by
  refine ⟨settings_run calls, ?_⟩
  have hwatch := (recalls_nil hnew hs).circuit.watch hs (calls.filter fun q => q.service = s)
  rw [← run_eq_watch hs.positive calls, List.append_nil] at hwatch
  exact hwatch

end

namespace Recalls

variable {b : Breaker} {service : String} {s : BreakerSettings} {h : List Note}

theorem take {q : BreakerCall} (hb : b.Recalls q.service s h) (hs : s.Admissible) :
    (b.take q).2.Recalls q.service s ((b.take q).1 :: h) := by
  obtain ⟨rfl, hcircuit⟩ := hb
  obtain ⟨hnote, htaken⟩ := take_self hs.positive
  refine ⟨settings_take q, ?_⟩
  rw [hnote, htaken]
  exact hcircuit.take hs q.tick q.signal

/-- **A breaker answers by the law of the history of the service.** -/
theorem allow_iff (hb : b.Recalls service s h) (hs : s.Admissible) {tick : Nat} (hordered : InOrder h tick) :
    (b.allow service tick).1 = true ↔ s.Lets h tick := by
  obtain ⟨rfl, hcircuit⟩ := hb
  rw [(allow_circuit hs.positive tick).1]
  exact hcircuit.allow_iff hs hordered

theorem state_eq (hb : b.Recalls service s h) (hs : s.Admissible) :
    b.state service =
      if recentFailures h < s.threshold then .closed else if (lastGrant? h).isSome then .halfOpen else .opened := by
  obtain ⟨rfl, hcircuit⟩ := hb
  rw [state_circuit hs.positive]
  exact hcircuit.state_eq hs

end Recalls

/-- No threshold of a breaker from its configuration is below one, or beyond the 32 bits of the configured ones. -/
theorem admissible_ofConfig {c : BreakerConfig} (hdefault : c.threshold ≤ Circuit.maxFailures)
    (hoverrides : ∀ s o n, c.overrides.get? s = some o → o.threshold = some n → n ≤ Circuit.maxFailures) (s : String) :
    ((ofConfig c).settings s).Admissible := by
  have hone : 1 ≤ Circuit.maxFailures := by decide
  simp only [settings, ofConfig, SortedMap.get?_mapValues]
  cases hget : c.overrides.get? s with
  | none => exact ⟨Nat.le_max_right .., Nat.max_le.2 ⟨hdefault, hone⟩⟩
  | some o =>
      refine ⟨Nat.le_max_right .., Nat.max_le.2 ⟨?_, hone⟩⟩
      cases hthreshold : o.threshold with
      | none => exact Nat.max_le.2 ⟨hdefault, hone⟩
      | some n => exact hoverrides s o n hget hthreshold

/-- **A breaker answers by the history of the service.** Behind any calls to a breaker that had no circuit of the service,
made one after another for any services: a call goes through exactly when fewer than threshold failures stand behind the
last success, or the reset time has passed since the later one of the last failure and the last call let through after
it. So an open service is let through at most once in a reset time until a success is reported, counted from its last
failure on; a failure opens it again; a probe that never reports only holds up the next one for the reset time; and calls
for other services do not matter. -/
theorem allow_iff_history {b : Breaker} {s : String} (hnew : b.circuits.get? s = none)
    (hs : (b.settings s).Admissible) {calls : List BreakerCall} {now : Nat}
    (hordered : (calls.map BreakerCall.tick ++ [now]).Pairwise (· ≤ ·)) :
    let h := b.notes s calls
    let threshold := (b.settings s).threshold
    let reset := (b.settings s).resetTimeout
    let granted := ((b.run calls).allow s now).1
    (granted = true ↔ recentFailures h < threshold ∨ ∃ t, restsSince? h = some t ∧ t + reset ≤ now) ∧
      (∀ newer n older, h = newer ++ n :: older → n = .granted n.tick ∨ n = .failed n.tick →
        threshold ≤ recentFailures (n :: older) → (∀ m ∈ newer, m.isSuccess = false) →
          granted = true → n.tick + reset ≤ now) ∧
        (∀ t older, h = .failed t :: older → threshold ≤ recentFailures h → (b.run calls).state s = .opened) ∧
          (∀ newer t older, h = newer ++ .granted t :: older → (∀ m ∈ newer, m = .refused m.tick) →
            t + reset ≤ now → granted = true) ∧
            ∀ calls', (calls'.filter fun q => q.service = s) = calls.filter (fun q => q.service = s) →
              ((b.run calls').allow s now).1 = granted := by
  intro h threshold reset granted
  have hrecalls : (b.run calls).Recalls s (b.settings s) h := recalls_run hnew hs calls
  have hnotes : InOrder h now := inOrder_notes hs.positive hordered
  have hlaw : granted = true ↔ (b.settings s).Lets h now := hrecalls.allow_iff hs hnotes
  refine ⟨hlaw, ?_, ?_, ?_, ?_⟩
  · intro newer n older hsplit hn htripped hnewer hgranted
    have hmany : threshold ≤ recentFailures h := by
      rw [hsplit]
      exact htripped.trans (recentFailures_le_append hnewer)
    rcases hlaw.1 hgranted with hfew | ⟨t, hrests, hle⟩
    · exact absurd hmany (Nat.not_le.2 hfew)
    · rw [hsplit] at hnotes hrests
      exact (Nat.add_le_add_right (le_of_restsSince? hnotes hn hrests) _).trans hle
  · intro t older hsplit hmany
    have hgrant : lastGrant? h = none := by rw [hsplit, lastGrant?]
    rw [hrecalls.state_eq hs, if_neg (Nat.not_lt.2 hmany), hgrant]
    rfl
  · intro newer t older hsplit hnewer hrested
    refine hlaw.2 ?_
    by_cases hfew : recentFailures h < threshold
    · exact .inl hfew
    · obtain ⟨f, hfailure⟩ : ∃ f, lastFailure? h = some f :=
        exists_lastFailure? (hs.positive.trans (Nat.not_lt.1 hfew))
      have hgrant : lastGrant? h = some t := by
        rw [hsplit]
        exact lastGrant?_of_refused hnewer
      have hrests := (restsSince?_eq hnotes hfailure).1
      rw [hgrant] at hrests
      exact .inr ⟨t, hrests, hrested⟩
  · intro calls' hsame
    have hanswer : ∀ calls, ((b.run calls).allow s now).1 =
        (((b.circuit s).watch (b.settings s) (calls.filter fun q => q.service = s)).2.allow (b.settings s) now).1 := by
      intro calls
      have hsettings : (b.run calls).settings s = b.settings s := settings_run calls
      rw [(allow_circuit (by rw [hsettings]; exact hs.positive) now).1, hsettings, ← run_eq_watch hs.positive calls]
    rw [hanswer, hsame, ← hanswer]

/-- Two failures of the store open its circuit. A probe is let through a millisecond later; it never reports, and the next
one may start a millisecond after that, whatever the mail service does. -/
theorem allow_iff_history_probing :
    let b : Breaker := .ofConfig { threshold := 2, resetTimeoutMs := 1 }
    let calls : List BreakerCall :=
      [⟨"store", 0, .fail⟩, ⟨"store", 0, .fail⟩, ⟨"mail", 0, .fail⟩, ⟨"store", 1000000, .ask⟩]
    b.notes "store" calls = [.granted 1000000, .failed 0, .failed 0] ∧
      ((b.run calls).allow "store" 1999999).1 = false ∧ ((b.run calls).allow "store" 2000000).1 = true := by
  intro b calls
  have hs : (b.settings "store").Admissible :=
    admissible_ofConfig (c := { threshold := 2, resetTimeoutMs := 1 }) (by decide)
      (fun _ _ _ hget => absurd hget nofun) "store"
  have hnotes : b.notes "store" calls = [.granted 1000000, .failed 0, .failed 0] := by decide
  refine ⟨hnotes, ?_, ?_⟩
  · have hearly : (calls.map BreakerCall.tick ++ [1999999]).Pairwise (· ≤ ·) := by decide
    have hlaw := allow_iff_history rfl hs hearly
    refine Bool.eq_false_iff.2 fun hgranted => ?_
    have hrested := hlaw.2.1 [] _ _ hnotes (.inl rfl) (by decide) nofun hgranted
    exact absurd hrested (by decide)
  · have hlate : (calls.map BreakerCall.tick ++ [2000000]).Pairwise (· ≤ ·) := by decide
    have hlaw := allow_iff_history rfl hs hlate
    exact hlaw.1.2 (.inr ⟨1000000, by rw [hnotes]; rfl, by decide⟩)

end Breaker

end FleetRouting
