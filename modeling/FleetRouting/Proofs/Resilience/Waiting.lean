import FleetRouting.Proofs.Access
import FleetRouting.Proofs.Resilience.Admission
import Mathlib.Order.Lattice
import Mathlib.Tactic.Common
/-!
# FleetRouting.Proofs.Resilience.Waiting

**Who is told to wait is told how long.** A request is refused by a full window, and the time to wait is what is left of
that window (`ClientWindows.Answers`). Until then the window counts on, whatever the other one does, so it blocks every
request (`ClientWindows.Blocks`); a client of whom something is blocked is not forgotten. When the time is over the window
begins anew: one refusal of each window is all that a client meets which is alone and comes back just then. Over HTTP the
time is rounded up to whole seconds, and never below one of them.
-/

namespace FleetRouting

open Duration (ofSecs)

/-! ### One window -/

namespace Window

/-- What is left of a window at `tick`. -/
def left (v : Window) (length tick : Nat) : Nat := length - (tick - v.start)

/-- A full window that does not run out before `deadline`. -/
structure Blocks (v : Window) (length limit deadline : Nat) : Prop where
  full : limit ≤ v.count
  lasts : ∀ tick < deadline, tick - v.start < length

variable {v : Window} {length limit deadline tick : Nat}

theorem Blocks.renew_eq (h : v.Blocks length limit deadline) (hlt : tick < deadline) : v.renew length tick = v :=
  if_neg (Nat.not_le.2 (h.lasts tick hlt))

/-- A full window blocks for as long as is left of it. -/
theorem blocks_left (hfull : limit ≤ v.count) (hleft : 0 < v.left length tick) :
    v.Blocks length limit (tick + v.left length tick) where
  full := hfull
  lasts tick' hlt := by
    unfold left at hleft hlt
    omega

/-- A window that is full when it is asked has not run out just now. -/
theorem left_pos (hlimit : 0 < limit) (hfull : limit ≤ (v.renew length tick).count) :
    0 < (v.renew length tick).left length tick := by
  unfold renew at hfull ⊢
  split at hfull
  · exact absurd hfull (Nat.not_le.2 hlimit)
  · next hrunning =>
      rw [if_neg hrunning, left]
      omega

/-- When nothing is left of a window it begins anew. -/
theorem renew_left (length : Nat) (hbegun : v.start ≤ tick) :
    v.renew length (tick + v.left length tick) = ⟨tick + v.left length tick, 0⟩ := by
  unfold left
  exact if_pos (by omega)

theorem count_renew_le (v : Window) (length tick : Nat) : (v.renew length tick).count ≤ v.count := by
  unfold renew
  split
  · exact Nat.zero_le _
  · exact Nat.le_refl _

theorem start_renew_le (hbegun : v.start ≤ tick) : (v.renew length tick).start ≤ tick := by
  unfold renew
  split
  · exact Nat.le_refl _
  · exact hbegun

end Window

/-! ### The two windows of a client -/

namespace ClientWindows

/-- The three ways of a request at `tick`: the long window is full, only the short one is, or both have room. -/
inductive Answers (w : ClientWindows) (s : LimitSettings) (tick : Nat) : Verdict × ClientWindows → Prop where
  | longFull (full : s.threshold ≤ (w.refresh s tick).long.count) :
      Answers w s tick (.limited ((w.refresh s tick).long.left s.window tick), w.refresh s tick)
  | shortFull (room : (w.refresh s tick).long.count < s.threshold)
      (full : s.burstLimit ≤ (w.refresh s tick).short.count) :
      Answers w s tick (.limited ((w.refresh s tick).short.left s.burstDuration tick), w.refresh s tick)
  | counted (room : (w.refresh s tick).long.count < s.threshold)
      (room' : (w.refresh s tick).short.count < s.burstLimit) {after : ClientWindows} : Answers w s tick (.allowed, after)

theorem answers_acquire (w : ClientWindows) (s : LimitSettings) (tick : Nat) : w.Answers s tick (w.acquire s tick) := by
  unfold acquire
  simp only
  split
  · next hfull => exact .longFull hfull
  · next hroom =>
      split
      · next hfull => exact .shortFull (Nat.not_le.1 hroom) hfull
      · next hroom' => exact .counted (Nat.not_le.1 hroom) (Nat.not_le.1 hroom')

/-- One of the windows is full and does not run out before `deadline`. -/
def Blocks (w : ClientWindows) (s : LimitSettings) (deadline : Nat) : Prop :=
  w.long.Blocks s.window s.threshold deadline ∨ w.short.Blocks s.burstDuration s.burstLimit deadline

variable {w : ClientWindows} {s : LimitSettings} {tick deadline : Nat} {r r' : Duration}

/-- The window that blocks goes on, even where the other one begins anew. -/
theorem Blocks.refresh (h : w.Blocks s deadline) (hlt : tick < deadline) : (w.refresh s tick).Blocks s deadline := by
  rcases h with hlong | hshort
  · left
    rw [long_refresh, hlong.renew_eq hlt]
    exact hlong
  · right
    rw [short_refresh, hshort.renew_eq hlt]
    exact hshort

/-- Before the deadline every request is refused, and none of them puts it off. -/
theorem Blocks.refuses (h : w.Blocks s deadline) (hlt : tick < deadline) :
    (w.acquire s tick).1 ≠ .allowed ∧ (w.acquire s tick).2.Blocks s deadline := by
  have hstill := h.refresh hlt
  have hanswer := w.answers_acquire s tick
  generalize w.acquire s tick = answer at hanswer ⊢
  cases hanswer with
  | longFull => exact ⟨nofun, hstill⟩
  | shortFull => exact ⟨nofun, hstill⟩
  | counted room room' =>
      rcases hstill with hlong | hshort
      · exact absurd hlong.full (Nat.not_le.2 room)
      · exact absurd hshort.full (Nat.not_le.2 room')

theorem Blocks.after (h : w.Blocks s deadline) {ticks : List Nat} (hlt : ∀ tick ∈ ticks, tick < deadline) :
    ∃ w', ClientWindows.after s (some w) ticks = some w' ∧ w'.Blocks s deadline := by
  induction ticks generalizing w with
  | nil => exact ⟨w, rfl, h⟩
  | cons tick ticks ih =>
      obtain ⟨hfirst, hrest⟩ := List.forall_mem_cons.1 hlt
      exact ih (h.refuses hfirst).2 hrest

/-- **The window that refuses blocks for the time to wait.** -/
theorem blocks_of_limited (hlimited : (w.acquire s tick).1 = .limited r) (hr : 0 < r) :
    (w.acquire s tick).2.Blocks s (tick + r) := by
  have hanswer := w.answers_acquire s tick
  generalize w.acquire s tick = answer at hanswer hlimited ⊢
  cases hanswer with
  | longFull full =>
      obtain rfl := Verdict.limited.inj hlimited
      exact .inl (Window.blocks_left full hr)
  | shortFull room full =>
      obtain rfl := Verdict.limited.inj hlimited
      exact .inr (Window.blocks_left full hr)
  | counted => cases hlimited

theorem pos_of_limited (hthreshold : 0 < s.threshold) (hburst : 0 < s.burstLimit)
    (hlimited : (w.acquire s tick).1 = .limited r) : 0 < r := by
  have hanswer := w.answers_acquire s tick
  generalize w.acquire s tick = answer at hanswer hlimited
  cases hanswer with
  | longFull full =>
      obtain rfl := Verdict.limited.inj hlimited
      rw [long_refresh] at full ⊢
      exact Window.left_pos hthreshold full
  | shortFull room full =>
      obtain rfl := Verdict.limited.inj hlimited
      rw [short_refresh] at full ⊢
      exact Window.left_pos hburst full
  | counted => cases hlimited

/-- Nobody waits for longer than a window is. -/
theorem le_of_limited (hlimited : (w.acquire s tick).1 = .limited r) : r ≤ max s.window s.burstDuration := by
  have hanswer := w.answers_acquire s tick
  generalize w.acquire s tick = answer at hanswer hlimited
  cases hanswer with
  | longFull =>
      obtain rfl := Verdict.limited.inj hlimited
      exact (Nat.sub_le ..).trans (Nat.le_max_left ..)
  | shortFull =>
      obtain rfl := Verdict.limited.inj hlimited
      exact (Nat.sub_le ..).trans (Nat.le_max_right ..)
  | counted => cases hlimited

/-- With room in the long window, a client is allowed when nothing is left of the short one. -/
theorem allowed_of_left (hburst : 0 < s.burstLimit) (hroom : w.long.count < s.threshold) (hbegun : w.short.start ≤ tick) :
    (w.acquire s (tick + w.short.left s.burstDuration tick)).1 = .allowed := by
  have hanswer := w.answers_acquire s (tick + w.short.left s.burstDuration tick)
  generalize w.acquire s (tick + w.short.left s.burstDuration tick) = answer at hanswer ⊢
  cases hanswer with
  | longFull full =>
      rw [long_refresh] at full
      exact absurd (full.trans (Window.count_renew_le ..)) (Nat.not_le.2 hroom)
  | shortFull room full =>
      rw [short_refresh, Window.renew_left _ hbegun] at full
      exact absurd full (Nat.not_le.2 hburst)
  | counted => rfl

/-- **A client that comes back when it is told to is not refused a third time:** the first refusal is one of the long
window, the second one of the short window. -/
theorem allowed_of_limited_twice (hthreshold : 0 < s.threshold) (hburst : 0 < s.burstLimit)
    (hlong : w.long.start ≤ tick) (hshort : w.short.start ≤ tick) (hfirst : (w.acquire s tick).1 = .limited r)
    (hsecond : ((w.acquire s tick).2.acquire s (tick + r)).1 = .limited r') :
    (((w.acquire s tick).2.acquire s (tick + r)).2.acquire s (tick + r + r')).1 = .allowed := by
  have hlong' : (w.refresh s tick).long.start ≤ tick := by
    rw [long_refresh]
    exact Window.start_renew_le hlong
  have hshort' : (w.refresh s tick).short.start ≤ tick := by
    rw [short_refresh]
    exact Window.start_renew_le hshort
  have hanswer := w.answers_acquire s tick
  generalize w.acquire s tick = answer at hanswer hfirst hsecond ⊢
  cases hanswer with
  | longFull =>
      obtain rfl := Verdict.limited.inj hfirst
      simp only at hsecond ⊢
      -- the long window begins anew with the second request
      have hnew := Window.renew_left s.window hlong'
      have hlater := hshort'.trans (Nat.le_add_right tick ((w.refresh s tick).long.left s.window tick))
      generalize tick + (w.refresh s tick).long.left s.window tick = again at hnew hlater hsecond ⊢
      have hanswer := (w.refresh s tick).answers_acquire s again
      generalize (w.refresh s tick).acquire s again = answer at hanswer hsecond ⊢
      cases hanswer with
      | longFull full =>
          rw [long_refresh, hnew] at full
          exact absurd full (Nat.not_le.2 hthreshold)
      | shortFull room =>
          obtain rfl := Verdict.limited.inj hsecond
          refine allowed_of_left hburst room ?_
          rw [short_refresh]
          exact Window.start_renew_le hlater
      | counted => cases hsecond
  | shortFull room =>
      obtain rfl := Verdict.limited.inj hfirst
      rw [allowed_of_left hburst room hshort'] at hsecond
      cases hsecond
  | counted => cases hfirst

end ClientWindows

/-! ### A client among others -/

/-- Calls that are made one after another, none of them before `start` or after `stop`. -/
def Within (calls : List LimiterCall) (start stop : Nat) : Prop :=
  (start :: (calls.map LimiterCall.tick ++ [stop])).Pairwise (· ≤ ·)

instance (calls : List LimiterCall) (start stop : Nat) : Decidable (Within calls start stop) :=
  inferInstanceAs (Decidable (List.Pairwise (· ≤ ·) _))

theorem Within.tick_le {calls : List LimiterCall} {start stop : Nat} (h : Within calls start stop) :
    ∀ tick ∈ start :: calls.map LimiterCall.tick, tick ≤ stop := by
  intro tick htick
  rcases List.mem_cons.1 htick with rfl | htick
  · exact (List.pairwise_cons.1 h).1 stop (List.mem_append_right _ (List.mem_singleton_self stop))
  · exact (List.pairwise_append.1 (List.pairwise_cons.1 h).2).2.2 tick htick stop (List.mem_singleton_self stop)

theorem Within.rising {calls : List LimiterCall} {start stop : Nat} (h : Within calls start stop) :
    (start :: calls.map LimiterCall.tick).Pairwise (· ≤ ·) := by
  rw [Within, ← List.cons_append] at h
  exact (List.pairwise_append.1 h).1

namespace Limiter

variable {l : Limiter} {key : String} {w : ClientWindows} {calls : List LimiterCall} {start tick : Nat}

/-- A client that is remembered is answered by its windows, whatever others have asked for meanwhile. -/
theorem check_run_of_kept (henabled : l.enabled = true) (hkept : l.clients.get? key = some w)
    (hcalls : Within calls start tick) {w' : ClientWindows}
    (hafter : ClientWindows.after (l.settings key) (some w) (ticksOf key calls) = some w') :
    ((l.run calls).check key tick).1 = (w'.acquire (l.settings key) tick).1 ∧
      ((l.run calls).check key tick).2.clients.get? key = some (w'.acquire (l.settings key) tick).2 := by
  have hremembers := (remembers_run henabled (.inl hkept) hcalls.rising).2 tick hcalls.tick_le
  rw [hafter, ← settings_run calls key] at hremembers
  have hchecked := check_self ((enabled_run calls).trans henabled) hremembers (Nat.le_refl tick)
  rwa [settings_run] at hchecked

/-- Others ask on their own account. -/
theorem ticksOf_eq_nil (hothers : ∀ q ∈ calls, q.key ≠ key) : ticksOf key calls = [] := by
  rw [ticksOf, List.filter_eq_nil_iff.2 fun q hq => by simpa using hothers q hq]
  rfl

/-- A client that asks for nothing finds its windows as it left them. -/
theorem check_run_of_others (henabled : l.enabled = true) (hkept : l.clients.get? key = some w)
    (hcalls : Within calls start tick) (hothers : ∀ q ∈ calls, q.key ≠ key) :
    ((l.run calls).check key tick).1 = (w.acquire (l.settings key) tick).1 ∧
      ((l.run calls).check key tick).2.clients.get? key = some (w.acquire (l.settings key) tick).2 := by
  refine check_run_of_kept henabled hkept hcalls ?_
  rw [ticksOf_eq_nil hothers]
  rfl

/-- A client that is blocked is refused until the deadline, whatever it and others ask for meanwhile. -/
theorem refused_of_blocks (henabled : l.enabled = true) (hkept : l.clients.get? key = some w)
    (hcalls : Within calls start tick) {deadline : Nat} (hblocks : w.Blocks (l.settings key) deadline)
    (hlt : tick < deadline) : ((l.run calls).check key tick).1 ≠ .allowed := by
  have hearly : ∀ tick' ∈ ticksOf key calls, tick' < deadline := by
    intro tick' htick
    obtain ⟨q, hq, rfl⟩ := List.mem_map.1 htick
    have hmem : q.tick ∈ calls.map LimiterCall.tick := List.mem_map_of_mem (List.mem_filter.1 hq).1
    exact (hcalls.tick_le q.tick (List.mem_cons_of_mem _ hmem)).trans_lt hlt
  obtain ⟨w', hafter, hblocks'⟩ := hblocks.after hearly
  rw [(check_run_of_kept henabled hkept hcalls hafter).1]
  exact (hblocks'.refuses hlt).1

theorem enabled_check_run (henabled : l.enabled = true) (calls : List LimiterCall) (key : String) (tick : Nat) :
    ((l.run calls).check key tick).2.enabled = true :=
  (enabled_check key tick).trans ((enabled_run calls).trans henabled)

theorem settings_check_run (l : Limiter) (calls : List LimiterCall) (key : String) (tick : Nat) :
    ((l.run calls).check key tick).2.settings key = l.settings key :=
  (settings_check key key tick).trans (settings_run calls key)

/-- A client that the limiter met in a run is answered by windows that have begun. -/
theorem exists_windows (henabled : l.enabled = true) (hnew : l.clients.get? key = none)
    (hordered : (calls.map LimiterCall.tick ++ [tick]).Pairwise (· ≤ ·)) :
    ∃ w : ClientWindows, w.long.start ≤ tick ∧ w.short.start ≤ tick ∧
      ((l.run calls).check key tick).1 = (w.acquire (l.settings key) tick).1 ∧
      ((l.run calls).check key tick).2.clients.get? key = some (w.acquire (l.settings key) tick).2 := by
  obtain ⟨alone, hrecalls, hremembers⟩ := recalls_run henabled hnew hordered
  have htells := hrecalls tick (Nat.le_refl tick)
  rw [← settings_run calls key] at hremembers
  have hchecked := check_self ((enabled_run calls).trans henabled) hremembers (Nat.le_refl tick)
  rw [settings_run] at hchecked
  exact ⟨alone.getD (.new tick), htells.long.begun, htells.short.begun, hchecked⟩

end Limiter

/-! ### What is advertised -/

/-- The most seconds that 64 bits count. -/
def Duration.maxSecs : Nat := bitSpan 64 - 1

/-- No window is longer than 64 bits of seconds. -/
def LimitSettings.Countable (s : LimitSettings) : Prop := max s.window s.burstDuration ≤ ofSecs Duration.maxSecs

instance (s : LimitSettings) : Decidable s.Countable :=
  inferInstanceAs (Decidable (max s.window s.burstDuration ≤ ofSecs Duration.maxSecs))

/-- A number of milliseconds is at most as many seconds. -/
theorem Duration.ofMillis_le_ofSecs {n m : Nat} (h : n ≤ m) : ofMillis n ≤ ofSecs m :=
  Nat.mul_le_mul h (by decide)

/-- Windows that are configured by 64 bits of seconds and of milliseconds can be counted. -/
theorem LimitSettings.countable_ofConfig {c : LimitConfig} (hwindow : c.windowSecs ≤ Duration.maxSecs)
    (hburst : c.burstDurationMs ≤ Duration.maxSecs)
    (hoverrides : ∀ key o, c.overrides.get? key = some o →
      (∀ n, o.windowSecs = some n → n ≤ Duration.maxSecs) ∧ ∀ n, o.burstDurationMs = some n → n ≤ Duration.maxSecs)
    (tick : Nat) (key : String) : ((Limiter.ofConfig c tick).settings key).Countable := by
  have hsecs {n : Nat} (h : n ≤ Duration.maxSecs) : ofSecs n ≤ ofSecs Duration.maxSecs := Nat.mul_le_mul_right _ h
  simp only [Limiter.settings, Limiter.ofConfig, SortedMap.get?_mapValues]
  cases hget : c.overrides.get? key with
  | none => exact Nat.max_le.2 ⟨hsecs hwindow, Duration.ofMillis_le_ofSecs hburst⟩
  | some o =>
      obtain ⟨hwindow', hburst'⟩ := hoverrides key o hget
      simp only [Option.map_some, Option.getD_some]
      refine Nat.max_le.2 ⟨?_, ?_⟩
      · cases hsome : o.windowSecs with
        | none => exact hsecs hwindow
        | some n => exact hsecs (hwindow' n hsome)
      · cases hsome : o.burstDurationMs with
        | none => exact Duration.ofMillis_le_ofSecs hburst
        | some n => exact Duration.ofMillis_le_ofSecs (hburst' n hsome)

/-- The whole seconds of a span, and one more if that is not all of it. -/
def Duration.secsUp (d : Duration) : Nat := d.secs + if 0 < d.subsecNanos then 1 else 0

theorem Duration.le_ofSecs_secsUp (d : Nat) : d ≤ ofSecs (secsUp d) := by
  show d ≤ (d / 1000000000 + if 0 < d % 1000000000 then 1 else 0) * 1000000000
  split <;> omega

/-- Rounding up to whole seconds stays within whole seconds. -/
theorem Duration.secsUp_le {d n : Nat} (h : d ≤ ofSecs n) : secsUp d ≤ n := by
  have h : d ≤ n * 1000000000 := h
  show (d / 1000000000 + if 0 < d % 1000000000 then 1 else 0) ≤ n
  split <;> omega

namespace App

/-- Who may ask for a head, and does so in a body that can be read, is answered within the limits of the client. -/
theorem handle_of_route {app : App} {q : Request} {c : Criteria} (haction : q.action? = some .route)
    (hrole : app.checkRole q (some .viewer) = .ok ()) (hbody : readBody Criteria.ofJson q = .ok c) (now : Moment)
    (decisionId : Uuid) : app.handle now decisionId q = app.route now decisionId (clientKey q) c := by
  have hmethod := method_ne_options haction
  have hneeded : q.role? = some .viewer := by
    rw [Request.role?, if_neg hmethod, haction]
    rfl
  rw [handle_eq app now decisionId q hmethod, hneeded, hrole, haction]
  simp only [decoded, admitted, perform, hbody]

theorem route_of_limited {app : App} {now : Moment} {client : String} {r : Duration}
    (hlimited : (app.limiter.check client now.tick).1 = .limited r) (decisionId : Uuid) (c : Criteria) :
    (app.route now decisionId client c).1 = tooMany r := by
  unfold route
  revert hlimited
  rcases app.limiter.check client now.tick with ⟨verdict, limiter⟩
  rintro rfl
  rfl

/-- The answer to a client that has to wait advertises at least its time, and at least a second. -/
theorem tooMany_spec {r longest : Duration} (hle : r ≤ longest) : ∃ secs, (tooMany r).status = 429 ∧
    (tooMany r).retryAfter = some secs ∧ 1 ≤ secs ∧ r ≤ ofSecs secs ∧
      (longest ≤ ofSecs Duration.maxSecs →
        r.secs + (if 0 < r.subsecNanos then 1 else 0) ≤ Duration.maxSecs ∧ secs ≤ Duration.maxSecs) := by
  have hup : r ≤ ofSecs (max r.secsUp 1) :=
    (Duration.le_ofSecs_secsUp r).trans (Nat.mul_le_mul_right _ (Nat.le_max_left ..))
  refine ⟨max r.secsUp 1, rfl, rfl, Nat.le_max_right .., hup, fun hlongest => ?_⟩
  have hfits : r.secsUp ≤ Duration.maxSecs := Duration.secsUp_le (hle.trans hlongest)
  exact ⟨hfits, Nat.max_le.2 ⟨hfits, by decide⟩⟩

end App

namespace Limiter

/-- **Who is told to wait is told how long.** Take a client that is refused behind any requests to a limiter that did not
know it. Until the time to wait is over it is refused again, whatever it and others ask for meanwhile and whoever is
forgotten. If its limits are positive there is a time to wait, and a client that is alone under its name and comes back
just when it is told to is refused twice in a row at most. The answer over HTTP advertises whole seconds, at least one and
at least the time to wait, and what is rounded up to them fits into 64 bits as long as the windows are counted by 64
bits of seconds. -/
theorem waiting_time {l : Limiter} {key : String} (henabled : l.enabled = true) (hnew : l.clients.get? key = none)
    {calls : List LimiterCall} {t : Nat} (hordered : (calls.map LimiterCall.tick ++ [t]).Pairwise (· ≤ ·))
    {r : Duration} (hlimited : ((l.run calls).check key t).1 = .limited r) :
    let s := l.settings key
    let refused := ((l.run calls).check key t).2
    (∀ calls' t', Within calls' t t' → t' < t + r → ((refused.run calls').check key t').1 ≠ .allowed) ∧
      (0 < s.threshold → 0 < s.burstLimit →
        0 < r ∧ ∀ others others' r', (∀ q ∈ others ++ others', q.key ≠ key) →
          Within others t (t + r) → ((refused.run others).check key (t + r)).1 = .limited r' →
            Within others' (t + r) (t + r + r') →
              ((((refused.run others).check key (t + r)).2.run others').check key (t + r + r')).1 = .allowed) ∧
        ∀ (app : App) (now : Moment) (decisionId : Uuid) (q : Request) (c : Criteria),
          app.limiter = l.run calls → now.tick = t → App.clientKey q = key → q.action? = some .route →
            app.checkRole q (some .viewer) = .ok () → App.readBody Criteria.ofJson q = .ok c →
              ∃ secs, (app.handle now decisionId q).1.status = 429 ∧
                (app.handle now decisionId q).1.retryAfter = some secs ∧ 1 ≤ secs ∧ r ≤ ofSecs secs ∧
                (s.Countable →
                  r.secs + (if 0 < r.subsecNanos then 1 else 0) ≤ Duration.maxSecs ∧ secs ≤ Duration.maxSecs) := by
  intro s refused
  have henabled' : refused.enabled = true := enabled_check_run henabled calls key t
  have hsettings : refused.settings key = s := settings_check_run l calls key t
  obtain ⟨w, hlong, hshort, hverdict, hkept⟩ := exists_windows henabled hnew hordered
  rw [hverdict] at hlimited
  refine ⟨fun calls' t' hcalls hlt => ?_, fun hthreshold hburst => ?_, ?_⟩
  · have hle : t ≤ t' := hcalls.tick_le t (List.mem_cons_self ..)
    have hr : 0 < r := Nat.lt_add_right_iff_pos.1 (hle.trans_lt hlt)
    have hblocks := ClientWindows.blocks_of_limited hlimited hr
    exact refused_of_blocks henabled' hkept hcalls (hsettings.symm ▸ hblocks) hlt
  · refine ⟨ClientWindows.pos_of_limited hthreshold hburst hlimited, ?_⟩
    intro others others' r' hothers hcalls hagain hcalls'
    obtain ⟨hfirst, hsecond⟩ := List.forall_mem_append.1 hothers
    obtain ⟨hverdict', hkept'⟩ := check_run_of_others henabled' hkept hcalls hfirst
    rw [hsettings] at hverdict' hkept'
    rw [hverdict'] at hagain
    have henabled'' := enabled_check_run henabled' others key (t + r)
    rw [(check_run_of_others henabled'' hkept' hcalls' hsecond).1, settings_check_run, hsettings]
    exact ClientWindows.allowed_of_limited_twice hthreshold hburst hlong hshort hlimited hagain
  · intro app now decisionId q c happ htick hclient haction hrole hbody
    have hcheck : (app.limiter.check (App.clientKey q) now.tick).1 = .limited r := by
      rw [happ, hclient, htick, hverdict, hlimited]
    rw [App.handle_of_route haction hrole hbody, App.route_of_limited hcheck]
    exact App.tooMany_spec (ClientWindows.le_of_limited hlimited)

/-- Both windows of a client are full: it waits for the long one, then for the short one, and is allowed. Another client
asks meanwhile, when it is time to forget clients. -/
theorem waiting_time_twice :
    let l : Limiter := .ofConfig { threshold := 1, windowSecs := 100, burstLimit := 1, burstDurationMs := 250000 } 0
    let calls : List LimiterCall := [⟨"unknown", 0⟩]
    let t : Nat := Duration.ofMillis 55500
    let r : Nat := Duration.ofMillis 44500
    let r' : Nat := ofSecs 150
    let refused := ((l.run calls).check "unknown" t).2
    let again := ((refused.run [⟨"other", ofSecs 70⟩]).check "unknown" (t + r))
    let app : App := { limiter := l.run calls }
    let q : Request :=
      ⟨"POST", "/v1/route", [("content-type", "application/json")], "\x7b\"model_type\":\"m\"\x7d", none⟩
    ((l.run calls).check "unknown" t).1 = .limited r ∧
      ((refused.run [⟨"other", ofSecs 70⟩]).check "unknown" (ofSecs 99)).1 ≠ .allowed ∧
      again.1 = .limited r' ∧ ((again.2.run [⟨"other", ofSecs 170⟩]).check "unknown" (t + r + r')).1 = .allowed ∧
      ∃ secs, (app.handle ⟨⟨0, 0⟩, t⟩ default q).1.retryAfter = some secs ∧ 1 ≤ secs ∧ r ≤ ofSecs secs ∧
        secs ≤ Duration.maxSecs := by
  intro l calls t r r' refused again app q
  have hordered : (calls.map LimiterCall.tick ++ [t]).Pairwise (· ≤ ·) := by decide
  have hlimited : ((l.run calls).check "unknown" t).1 = .limited r := by decide +kernel
  obtain ⟨hstill, htwice, hadvertised⟩ := waiting_time rfl rfl hordered hlimited
  have hagain : again.1 = .limited r' := by decide +kernel
  refine ⟨hlimited, ?_, hagain, ?_, ?_⟩
  · exact hstill [⟨"other", ofSecs 70⟩] (ofSecs 99) (by decide) (by decide)
  · exact (htwice (by decide) (by decide)).2 [⟨"other", ofSecs 70⟩] [⟨"other", ofSecs 170⟩] r' (by decide) (by decide)
      hagain (by decide)
  · have hread : Json.readFront "\x7b\"model_type\":\"m\"\x7d" = .object [(some "model_type", .str "m")] := by
      rw [Json.readFront, Json.Token.scan, String.foldl_eq_foldl_toList]
      rfl
    have hget : q.headers.get? "content-type" = some "application/json" := by decide +kernel
    have hjson : MediaType.isJson "application/json" := by decide +kernel
    have hbody : App.readBody Criteria.ofJson q = .ok { modelType := "m" } := by
      rw [App.readBody, hget, hread]
      simp only [hjson, if_true]
      rfl
    have haction : q.action? = some .route := by decide +kernel
    have hrole : app.checkRole q (some .viewer) = .ok () := rfl
    obtain ⟨secs, -, hsecs, hone, hle, hfits⟩ :=
      hadvertised app ⟨⟨0, 0⟩, t⟩ default q { modelType := "m" } rfl rfl rfl haction hrole hbody
    have hcountable : (l.settings "unknown").Countable := by
      refine LimitSettings.countable_ofConfig (by decide) (by decide) ?_ 0 "unknown"
      intro _ _ hget
      rw [SortedMap.get?_empty] at hget
      cases hget
    exact ⟨secs, hsecs, hone, hle, (hfits hcountable).2⟩

end Limiter

end FleetRouting
