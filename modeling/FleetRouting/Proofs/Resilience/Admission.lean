import FleetRouting.Proofs.Resilience.Forgetting
import Mathlib.Order.Lattice
/-!
# FleetRouting.Proofs.Resilience.Admission

**How many requests a client is allowed, and when it is refused.** Both windows of a client are the same thing, a count
with the time since when it counts (`Window`). `Window.Tells` says what such a count tells of the times of all requests
that were allowed: it is the number of those since the window began, and the window before had its limit as well. So no
stretch of time as long as a window meets more than two of them, and a window that is full refuses only because that many
requests were just allowed (`Limiter.admission_bounds`).
-/

namespace FleetRouting

/-! ### Stretches of time -/

/-- How many of some times lie from `a` on and before `b`. -/
def between (ticks : List Nat) (a b : Nat) : Nat := ticks.countP fun t => a ≤ t ∧ t < b

theorem between_mono {ticks : List Nat} {a b c d : Nat}
    (h : ∀ t ∈ ticks, a ≤ t → t < b → c ≤ t ∧ t < d) : between ticks a b ≤ between ticks c d := by
  refine List.countP_mono_left fun t ht hab => ?_
  simp only [decide_eq_true_eq] at hab ⊢
  exact h t ht hab.1 hab.2

theorem between_eq_zero {ticks : List Nat} {a b : Nat} (h : ∀ t ∈ ticks, a ≤ t → b ≤ t) : between ticks a b = 0 := by
  refine List.countP_eq_zero.2 fun t ht hab => ?_
  simp only [decide_eq_true_eq] at hab
  exact absurd hab.2 (Nat.not_lt.2 (h t ht hab.1))

/-- A stretch of time can be cut in two anywhere. -/
theorem between_le_add (ticks : List Nat) (a b c : Nat) : between ticks a c ≤ between ticks a b + between ticks b c := by
  induction ticks with
  | nil => exact Nat.le_refl _
  | cons t ticks ih =>
      simp only [between, List.countP_cons, decide_eq_true_eq] at ih ⊢
      split <;> split <;> split <;> omega

theorem between_concat (ticks : List Nat) (t a b : Nat) :
    between (ticks ++ [t]) a b = between ticks a b + if a ≤ t ∧ t < b then 1 else 0 := by
  simp only [between, List.countP_append, List.countP_singleton, decide_eq_true_eq]

/-! ### One window -/

/-- A window of a client: since when it counts, and what it has counted. -/
structure Window where
  start : Nat
  count : Nat
  deriving DecidableEq, Repr

/-- The window that counts at `tick`: a new one if the old one has run out. -/
def Window.renew (v : Window) (length : Nat) (tick : Nat) : Window :=
  if length ≤ tick - v.start then ⟨tick, 0⟩ else v

/-- What a window tells at `now` of the requests that were allowed so far. A window without length holds nothing. -/
structure Window.Tells (v : Window) (length : Nat) (limit now : Nat) (allowed : List Nat) : Prop where
  begun : v.start ≤ now
  past : ∀ t ∈ allowed, t ≤ now
  within : v.count ≤ limit
  recent : 0 < length → ∀ t ∈ allowed, t < v.start + length
  counted : 0 < length → between allowed v.start (v.start + length) = v.count
  earlier : ∀ a, v.start < a + length → between allowed a v.start ≤ limit
  bounded : ∀ a, between allowed a (a + length) ≤ 2 * limit

namespace Window.Tells

variable {v : Window} {length limit now tick : Nat} {allowed : List Nat}

theorem new (length : Nat) (limit tick : Nat) : Tells ⟨tick, 0⟩ length limit tick [] where
  begun := Nat.le_refl _
  past := nofun
  within := Nat.zero_le _
  recent _ := nofun
  counted _ := rfl
  earlier _ _ := Nat.zero_le _
  bounded _ := Nat.zero_le _

theorem later (h : v.Tells length limit now allowed) (hle : now ≤ tick) : v.Tells length limit tick allowed :=
  { h with
    begun := h.begun.trans hle
    past := fun t ht => (h.past t ht).trans hle }

/-- A new window begins where the old one has run out, so all that was allowed lies before it. -/
theorem renew (h : v.Tells length limit tick allowed) : (v.renew length tick).Tells length limit tick allowed := by
  unfold Window.renew
  split
  · next hout =>
      have hbegun := h.begun
      have hpast : 0 < length → ∀ t ∈ allowed, t < tick := by
        intro hlength t ht
        have hrecent := h.recent hlength t ht
        omega
      refine ⟨Nat.le_refl _, h.past, Nat.zero_le _, ?_, ?_, ?_, h.bounded⟩
      · intro hlength t ht
        exact (hpast hlength t ht).trans_le (Nat.le_add_right _ _)
      · intro hlength
        exact between_eq_zero fun t ht hle => absurd (hpast hlength t ht) (Nat.not_lt.2 hle)
      · intro a (ha : tick < a + length)
        by_cases hlength : 0 < length
        -- what lies less than a window back was counted by the old one
        · calc between allowed a tick ≤ between allowed v.start (v.start + length) :=
                between_mono fun t ht hat _ => ⟨by omega, h.recent hlength t ht⟩
            _ = v.count := h.counted hlength
            _ ≤ limit := h.within
        · have hnone : between allowed a tick = 0 := between_eq_zero fun t _ hat => by omega
          exact hnone.trans_le (Nat.zero_le _)
  · exact h

/-- A window that counts at `tick` has not run out, unless it has no length. -/
theorem lt_of_renew (hlength : 0 < length) : tick < (v.renew length tick).start + length := by
  unfold Window.renew
  split
  · exact Nat.lt_add_of_pos_right hlength
  · next hrunning => omega

/-- A request is allowed and counted where the window has room. -/
theorem count (h : v.Tells length limit tick allowed) (hrunning : 0 < length → tick < v.start + length)
    (hroom : v.count < limit) :
    Tells ⟨v.start, v.count + 1⟩ length limit tick (allowed ++ [tick]) where
  begun := h.begun
  past := by
    intro t ht
    rcases List.mem_append.1 ht with ht | ht
    · exact h.past t ht
    · exact (List.mem_singleton.1 ht).le
  within := hroom
  recent hlength := by
    intro t ht
    rcases List.mem_append.1 ht with ht | ht
    · exact h.recent hlength t ht
    · rw [List.mem_singleton.1 ht]
      exact hrunning hlength
  counted hlength := by
    rw [between_concat, h.counted hlength, if_pos ⟨h.begun, hrunning hlength⟩]
  earlier a ha := by
    have hoff : ¬ (a ≤ tick ∧ tick < v.start) := fun hinside => absurd h.begun (Nat.not_le.2 hinside.2)
    rw [between_concat, if_neg hoff]
    exact h.earlier a ha
  bounded a := by
    have hbounded := h.bounded a
    rw [between_concat]
    split
    · next hinside =>
        -- the stretch meets this window and the one before
        have hbegun := h.begun
        have hlength : 0 < length := by omega
        have hcut := between_le_add allowed a v.start (a + length)
        have hearlier := h.earlier a (by omega)
        have hcurrent : between allowed v.start (a + length) ≤ v.count := by
          rw [← h.counted hlength]
          exact between_mono fun t ht hstart _ => ⟨hstart, h.recent hlength t ht⟩
        omega
    · exact hbounded

/-- A window that is full when it is asked has just been filled. -/
theorem refuses (h : (v.renew length tick).Tells length limit tick allowed) (hfull : limit ≤ (v.renew length tick).count) :
    limit ≤ allowed.countP fun t => t ≤ tick ∧ tick < t + length := by
  by_cases hlength : 0 < length
  · have hrunning : tick < (v.renew length tick).start + length := lt_of_renew hlength
    calc limit ≤ (v.renew length tick).count := hfull
      _ = between allowed (v.renew length tick).start ((v.renew length tick).start + length) := (h.counted hlength).symm
      _ ≤ allowed.countP fun t => t ≤ tick ∧ tick < t + length := by
        refine List.countP_mono_left fun t ht hinside => ?_
        simp only [decide_eq_true_eq] at hinside ⊢
        exact ⟨h.past t ht, by omega⟩
  · have hnew : v.renew length tick = ⟨tick, 0⟩ := if_pos (by omega)
    rw [hnew] at hfull
    exact hfull.trans (Nat.zero_le _)

end Window.Tells

/-! ### The two windows of a client -/

namespace ClientWindows

/-- The window for all requests. -/
def long (w : ClientWindows) : Window := ⟨w.windowStart, w.requests⟩

/-- The window for bursts. -/
def short (w : ClientWindows) : Window := ⟨w.burstStart, w.burst⟩

variable {s : LimitSettings} {w : ClientWindows} {tick now : Nat} {allowed : List Nat}

theorem long_refresh (w : ClientWindows) (s : LimitSettings) (tick : Nat) :
    (w.refresh s tick).long = w.long.renew s.window tick := by
  by_cases hlong : s.window ≤ tick - w.windowStart
  · by_cases hshort : s.burstDuration ≤ tick - w.burstStart <;> simp [refresh, Window.renew, long, hlong, hshort]
  · by_cases hshort : s.burstDuration ≤ tick - w.burstStart <;> simp [refresh, Window.renew, long, hlong, hshort]

theorem short_refresh (w : ClientWindows) (s : LimitSettings) (tick : Nat) :
    (w.refresh s tick).short = w.short.renew s.burstDuration tick := by
  by_cases hlong : s.window ≤ tick - w.windowStart
  · by_cases hshort : s.burstDuration ≤ tick - w.burstStart <;> simp [refresh, Window.renew, short, hlong, hshort]
  · by_cases hshort : s.burstDuration ≤ tick - w.burstStart <;> simp [refresh, Window.renew, short, hlong, hshort]

/-- Both windows tell what was allowed. -/
structure Tells (w : ClientWindows) (s : LimitSettings) (now : Nat) (allowed : List Nat) : Prop where
  long : w.long.Tells s.window s.threshold now allowed
  short : w.short.Tells s.burstDuration s.burstLimit now allowed

theorem Tells.later (h : w.Tells s now allowed) (hle : now ≤ tick) : w.Tells s tick allowed :=
  ⟨h.long.later hle, h.short.later hle⟩

/-- The times of a log at which requests were allowed. -/
def admitted (log : List (Nat × Verdict)) : List Nat := (log.filter fun e => e.2.isAllowed).map Prod.fst

theorem Tells.refresh (h : w.Tells s tick allowed) : (w.refresh s tick).Tells s tick allowed where
  long := by
    rw [long_refresh]
    exact h.long.renew
  short := by
    rw [short_refresh]
    exact h.short.renew

/-- A request is allowed if both windows have room, and then counted by both. -/
theorem Tells.acquire (h : w.Tells s tick allowed) :
    (w.acquire s tick).2.Tells s tick (allowed ++ admitted [(tick, (w.acquire s tick).1)]) := by
  have hrefreshed := h.refresh
  unfold ClientWindows.acquire
  simp only
  split
  · simpa [admitted, Verdict.isAllowed] using hrefreshed
  · next hlong =>
      split
      · simpa [admitted, Verdict.isAllowed] using hrefreshed
      · next hshort =>
          refine ⟨hrefreshed.long.count ?_ (Nat.not_le.1 hlong), hrefreshed.short.count ?_ (Nat.not_le.1 hshort)⟩
          · intro hlength
            rw [long_refresh]
            exact Window.Tells.lt_of_renew hlength
          · intro hlength
            rw [short_refresh]
            exact Window.Tells.lt_of_renew hlength

/-- A request is refused if one of the windows is full. -/
theorem Tells.refused (h : w.Tells s tick allowed) (hrefused : (w.acquire s tick).1 ≠ .allowed) :
    s.threshold ≤ (allowed.countP fun t => t ≤ tick ∧ tick < t + s.window) ∨
      s.burstLimit ≤ allowed.countP fun t => t ≤ tick ∧ tick < t + s.burstDuration := by
  have hrefreshed := h.refresh
  have hlong := hrefreshed.long
  have hshort := hrefreshed.short
  rw [long_refresh] at hlong
  rw [short_refresh] at hshort
  unfold ClientWindows.acquire at hrefused
  simp only at hrefused
  split at hrefused
  · next hfull =>
      refine .inl (hlong.refuses ?_)
      rw [← long_refresh]
      exact hfull
  · split at hrefused
    · next hfull =>
        refine .inr (hshort.refuses ?_)
        rw [← short_refresh]
        exact hfull
    · exact absurd rfl hrefused

/-! ### A client that is alone -/

/-- Whenever the next request comes, the windows of the client will tell what was allowed. -/
def Recalls (s : LimitSettings) (now : Nat) (alone : Option ClientWindows) (allowed : List Nat) : Prop :=
  ∀ tick, now ≤ tick → (alone.getD (.new tick)).Tells s tick allowed

theorem recalls_nil (s : LimitSettings) (now : Nat) : Recalls s now none [] :=
  fun tick _ => ⟨.new s.window s.threshold tick, .new s.burstDuration s.burstLimit tick⟩

/-- Behind its requests a client recalls what it was allowed, on top of what it was allowed before. -/
theorem Recalls.after {alone : Option ClientWindows} (h : Recalls s now alone allowed) {ticks : List Nat} {later : Nat}
    (hordered : (now :: (ticks ++ [later])).Pairwise (· ≤ ·)) :
    Recalls s later (ClientWindows.after s alone ticks) (allowed ++ admitted (log s alone ticks)) := by
  induction ticks generalizing now alone allowed with
  | nil =>
      have hle : now ≤ later := (List.pairwise_cons.1 hordered).1 later (by simp)
      intro tick htick
      simpa [log, admitted, ClientWindows.after] using h tick (hle.trans htick)
  | cons tick ticks ih =>
      obtain ⟨hnow, hrest⟩ := List.pairwise_cons.1 hordered
      have hstep := (h tick (hnow tick (List.mem_cons_self ..))).acquire
      have hnext : Recalls s tick (some (serve s alone tick).2) (allowed ++ admitted [(tick, (serve s alone tick).1)]) :=
        fun tick' hle => hstep.later hle
      have hend := ih hnext hrest
      rw [List.append_assoc, admitted, admitted, ← List.map_append, ← List.filter_append] at hend
      exact hend

end ClientWindows

/-! ### A client among others -/

namespace Limiter

/-- The times at which a client was allowed a request. -/
def allowed (l : Limiter) (key : String) (calls : List LimiterCall) : List Nat := ClientWindows.admitted (l.log key calls)

open ClientWindows (Remembers Recalls)

variable {l : Limiter} {key : String} {calls : List LimiterCall} {now : Nat}

/-- A limiter that meets a client for the first time in a run can be followed by what the client would recall alone. -/
theorem recalls_run (henabled : l.enabled = true) (hnew : l.clients.get? key = none)
    (hordered : (calls.map LimiterCall.tick ++ [now]).Pairwise (· ≤ ·)) :
    ∃ alone, Recalls (l.settings key) now alone (l.allowed key calls) ∧
      Remembers (l.settings key) now alone ((l.run calls).clients.get? key) := by
  obtain ⟨hticks, -, hnow⟩ := List.pairwise_append.1 hordered
  have hstart : (0 :: calls.map LimiterCall.tick).Pairwise (· ≤ ·) :=
    List.pairwise_cons.2 ⟨fun tick _ => Nat.zero_le tick, hticks⟩
  obtain ⟨hlog, hkept⟩ := remembers_run henabled (.refl _ 0 _) hstart
  have hlater : ∀ tick ∈ 0 :: calls.map LimiterCall.tick, tick ≤ now := by
    intro tick htick
    rcases List.mem_cons.1 htick with rfl | htick
    · exact Nat.zero_le now
    · exact hnow tick htick now (List.mem_singleton_self now)
  have hown : (ticksOf key calls ++ [now]).Sublist (calls.map LimiterCall.tick ++ [now]) :=
    (List.filter_sublist.map LimiterCall.tick).append (List.Sublist.refl _)
  have hrecalls := (ClientWindows.recalls_nil (l.settings key) 0).after
    (List.pairwise_cons.2 ⟨fun tick _ => Nat.zero_le tick, hordered.sublist hown⟩)
  have hremembers := hkept now hlater
  rw [hnew] at hlog hremembers
  refine ⟨_, ?_, hremembers⟩
  rw [allowed, hlog]
  exact hrecalls

/-- **Admission is bounded both ways.** Take a client that the limiter does not know yet, and requests of any clients that
come one after another. In no stretch of time as long as a window is the client allowed more than twice what the window
admits. It is refused at `now` only if as many of its requests as one of the windows admits were allowed less than the
length of that window ago. And neither count that is kept of it exceeds its limit, so a count that is raised below a
limit of 32 bits fits into 32 bits as well. -/
theorem admission_bounds {l : Limiter} {key : String} (henabled : l.enabled = true) (hnew : l.clients.get? key = none)
    {calls : List LimiterCall} {now : Nat} (hordered : (calls.map LimiterCall.tick ++ [now]).Pairwise (· ≤ ·)) :
    let s := l.settings key
    let allowed := l.allowed key calls
    (∀ a, (allowed.countP fun t => a ≤ t ∧ t < a + s.window) ≤ 2 * s.threshold) ∧
      (∀ a, (allowed.countP fun t => a ≤ t ∧ t < a + s.burstDuration) ≤ 2 * s.burstLimit) ∧
        (((l.run calls).check key now).1 ≠ .allowed →
          s.threshold ≤ (allowed.countP fun t => t ≤ now ∧ now < t + s.window) ∨
            s.burstLimit ≤ allowed.countP fun t => t ≤ now ∧ now < t + s.burstDuration) ∧
          ∀ w, (l.run calls).clients.get? key = some w → w.requests ≤ s.threshold ∧ w.burst ≤ s.burstLimit := by
  intro s allowed
  obtain ⟨alone, hrecalls, hremembers⟩ := recalls_run henabled hnew hordered
  have htells := hrecalls now (Nat.le_refl now)
  refine ⟨htells.long.bounded, htells.short.bounded, ?_, ?_⟩
  · intro hrefused
    have hkept : Remembers ((l.run calls).settings key) now alone ((l.run calls).clients.get? key) := by
      rw [settings_run]
      exact hremembers
    have hverdict := (check_self ((enabled_run calls).trans henabled) hkept (Nat.le_refl now)).1
    rw [settings_run] at hverdict
    rw [hverdict] at hrefused
    exact htells.refused hrefused
  · intro w hw
    rcases hremembers with hsame | ⟨hnone, -⟩
    · rw [← hsame, hw] at htells
      exact ⟨htells.long.within, htells.short.within⟩
    · rw [hnone] at hw
      cases hw

/-- Three requests in ten nanoseconds are admitted. One window is used at its end and the next one at its beginning, so five
requests are allowed between 8 and 11, and then one is refused. -/
theorem admission_bounds_across_windows :
    let l : Limiter := .ofSettings ⟨3, 10, 9, 10⟩ 0
    let calls : List LimiterCall :=
      [⟨"k", 0⟩, ⟨"k", 8⟩, ⟨"k", 9⟩, ⟨"j", 9⟩, ⟨"k", 10⟩, ⟨"k", 11⟩, ⟨"k", 11⟩]
    l.allowed "k" calls = [0, 8, 9, 10, 11, 11] ∧
      ((l.allowed "k" calls).countP fun t => 8 ≤ t ∧ t < 8 + 10) ≤ 2 * 3 ∧
        ((l.run calls).check "k" 12).1 = .limited 8 ∧
          3 ≤ (l.allowed "k" calls).countP fun t => t ≤ 12 ∧ 12 < t + 10 := by
  intro l calls
  have hordered : (calls.map LimiterCall.tick ++ [12]).Pairwise (· ≤ ·) := by decide
  have hnew : l.clients.get? "k" = none := rfl
  obtain ⟨hwindow, -, hrefused, -⟩ := admission_bounds rfl hnew hordered
  have hverdict : ((l.run calls).check "k" 12).1 = .limited 8 := by decide
  refine ⟨by decide, hwindow 8, hverdict, ?_⟩
  rcases hrefused (by rw [hverdict]; decide) with hfull | hfull
  · exact hfull
  · exact absurd hfull (by decide)

end Limiter

end FleetRouting
