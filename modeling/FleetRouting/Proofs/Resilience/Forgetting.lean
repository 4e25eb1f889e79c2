import FleetRouting.Proofs.SortedMap
import FleetRouting.Resilience.Limiter
import Mathlib.Tactic.Common
/-!
# FleetRouting.Proofs.Resilience.Forgetting

**That clients are forgotten is never seen.** A limiter forgets clients while it answers others, and meets them again
with new windows. Beside it stands a client that is alone and never forgotten (`ClientWindows.log`). `Remembers` is the
relation of the two: the limiter keeps the very windows of the client, or has dropped them when both had run out, and a
window that has run out begins anew with the next request in any case. So both give the same verdicts
(`Limiter.log_eq_alone`), whatever other clients ask for.
-/

namespace FleetRouting

/-- A request that a limiter is asked about. -/
structure LimiterCall where
  key : String
  tick : Nat
  deriving DecidableEq, Repr

namespace Limiter

/-- The limiter behind a list of requests. -/
def run (l : Limiter) (calls : List LimiterCall) : Limiter := calls.foldl (fun l q => (l.check q.key q.tick).2) l

/-- The requests of one client in a list of requests, each with its time and its verdict. -/
def log (l : Limiter) (key : String) : List LimiterCall → List (Nat × Verdict)
  | [] => []
  | q :: calls =>
    let (verdict, l) := l.check q.key q.tick
    if q.key = key then (q.tick, verdict) :: l.log key calls else l.log key calls

end Limiter

namespace ClientWindows

/-! ### A client that is alone -/

/-- A request of a client that is alone. Its windows begin with its first request, and are kept for ever. -/
def serve (s : LimitSettings) (alone : Option ClientWindows) (tick : Nat) : Verdict × ClientWindows :=
  (alone.getD (.new tick)).acquire s tick

/-- The requests of a client that is alone, each with its time and its verdict. -/
def log (s : LimitSettings) (alone : Option ClientWindows) : List Nat → List (Nat × Verdict)
  | [] => []
  | tick :: ticks => (tick, (serve s alone tick).1) :: log s (some (serve s alone tick).2) ticks

/-- The windows of a client that is alone behind its requests. -/
def after (s : LimitSettings) (alone : Option ClientWindows) (ticks : List Nat) : Option ClientWindows :=
  ticks.foldl (fun alone tick => some (serve s alone tick).2) alone

/-! ### Windows that have run out -/

variable {s : LimitSettings} {w : ClientWindows}

/-- Windows that have run out stay so. -/
theorem isExpired_mono {now tick : Nat} (hle : now ≤ tick) (hexpired : w.isExpired s now = true) :
    w.isExpired s tick = true := by
  simp only [isExpired, Bool.and_eq_true, decide_eq_true_eq] at hexpired ⊢
  have helapsed (start : Nat) : now - start ≤ tick - start := Nat.sub_le_sub_right hle start
  exact ⟨Nat.le_trans hexpired.1 (helapsed _), Nat.le_trans hexpired.2 (helapsed _)⟩

/-- New windows need not begin anew. -/
theorem refresh_new (s : LimitSettings) (tick : Nat) : (new tick).refresh s tick = new tick := by
  unfold refresh new
  simp

/-- Windows that have run out begin anew. -/
theorem refresh_of_isExpired {tick : Nat} (hexpired : w.isExpired s tick = true) : w.refresh s tick = new tick := by
  simp only [isExpired, Bool.and_eq_true, decide_eq_true_eq] at hexpired
  obtain ⟨hlong, hshort⟩ := hexpired
  simp only [refresh, hlong, hshort, if_true, new]

/-- So a client whose windows have run out is answered like a new one. -/
theorem acquire_of_isExpired {tick : Nat} (hexpired : w.isExpired s tick = true) :
    w.acquire s tick = (new tick).acquire s tick := by
  simp only [acquire, refresh_of_isExpired hexpired, refresh_new]

/-! ### What is kept of a client -/

/-- A limiter keeps the windows of a client as they are, or has dropped them as they had run out by `now`. -/
def Remembers (s : LimitSettings) (now : Nat) (alone kept : Option ClientWindows) : Prop :=
  kept = alone ∨ kept = none ∧ ∃ w, alone = some w ∧ w.isExpired s now = true

namespace Remembers

variable {now tick : Nat} {alone kept : Option ClientWindows}

theorem refl (s : LimitSettings) (now : Nat) (alone : Option ClientWindows) : Remembers s now alone alone := .inl rfl

theorem later (h : Remembers s now alone kept) (hle : now ≤ tick) : Remembers s tick alone kept := by
  rcases h with hkept | ⟨hkept, w, halone, hexpired⟩
  · exact .inl hkept
  · exact .inr ⟨hkept, w, halone, isExpired_mono hle hexpired⟩

/-- Whether the windows were kept makes no difference to a request. -/
theorem serve_eq (h : Remembers s now alone kept) (hle : now ≤ tick) : serve s kept tick = serve s alone tick := by
  rcases h.later hle with rfl | ⟨rfl, w, rfl, hexpired⟩
  · rfl
  · simp only [serve, Option.getD_none, Option.getD_some, acquire_of_isExpired hexpired]

/-- What is kept can be dropped when it has run out. -/
theorem drop (h : Remembers s now alone kept) : Remembers s now alone (kept.filter fun w => !w.isExpired s now) := by
  rcases h with rfl | ⟨rfl, hdropped⟩
  · cases kept with
    | none => exact .refl s now none
    | some w =>
        cases hexpired : w.isExpired s now with
        | false => exact .inl (by simp [Option.filter, hexpired])
        | true => exact .inr ⟨by simp [Option.filter, hexpired], w, rfl, hexpired⟩
  · exact .inr ⟨rfl, hdropped⟩

end Remembers

end ClientWindows

open ClientWindows (Remembers)
open Duration (ofSecs)

namespace Limiter

variable {l : Limiter} {key : String} {now tick : Nat} {alone : Option ClientWindows}

/-! ### One request -/

theorem settings_cleanup (l : Limiter) (tick : Nat) (key : String) : (l.cleanup tick).settings key = l.settings key := by
  unfold cleanup
  split <;> rfl

/-- A request is answered from what is left of the client after forgetting. -/
theorem check_eq (henabled : l.enabled = true) (key : String) (tick : Nat) :
    l.check key tick =
      ((ClientWindows.serve (l.settings key) ((l.cleanup tick).clients.get? key) tick).1,
        { l.cleanup tick with
          clients := (l.cleanup tick).clients.insert key
            (ClientWindows.serve (l.settings key) ((l.cleanup tick).clients.get? key) tick).2 }) := by
  simp only [check, henabled, if_true, settings_cleanup, ClientWindows.serve]

theorem enabled_check (key : String) (tick : Nat) : (l.check key tick).2.enabled = l.enabled := by
  unfold check cleanup
  split
  · split <;> rfl
  · rfl

theorem settings_check (q key : String) (tick : Nat) : (l.check q tick).2.settings key = l.settings key := by
  unfold check
  split
  · exact settings_cleanup l tick key
  · rfl

/-- Forgetting drops of each client only what has run out. -/
theorem remembers_cleanup (h : Remembers (l.settings key) tick alone (l.clients.get? key)) :
    Remembers (l.settings key) tick alone ((l.cleanup tick).clients.get? key) := by
  unfold cleanup
  split
  · simp only [SortedMap.get?_filter]
    exact h.drop
  · exact h

/-- The client itself is answered as if it were alone, and remembered from then on. -/
theorem check_self (henabled : l.enabled = true) (h : Remembers (l.settings key) now alone (l.clients.get? key))
    (hle : now ≤ tick) :
    (l.check key tick).1 = (ClientWindows.serve (l.settings key) alone tick).1 ∧
      (l.check key tick).2.clients.get? key = some (ClientWindows.serve (l.settings key) alone tick).2 := by
  have hserve := (remembers_cleanup (h.later hle)).serve_eq (Nat.le_refl tick)
  rw [check_eq henabled, hserve]
  exact ⟨rfl, SortedMap.get?_insert_self ..⟩

/-- Another client may cause it to be forgotten, but not before its time. -/
theorem check_other {q : String} (henabled : l.enabled = true) (hother : key ≠ q)
    (h : Remembers (l.settings key) now alone (l.clients.get? key)) (hle : now ≤ tick) :
    Remembers (l.settings key) tick alone ((l.check q tick).2.clients.get? key) := by
  rw [check_eq henabled]
  simp only [SortedMap.get?_insert_of_ne _ _ hother]
  exact remembers_cleanup (h.later hle)

/-! ### Whole runs -/

theorem settings_run (calls : List LimiterCall) (key : String) : (l.run calls).settings key = l.settings key := by
  induction calls generalizing l with
  | nil => rfl
  | cons q calls ih => exact ih.trans (settings_check q.key key q.tick)

theorem enabled_run (calls : List LimiterCall) : (l.run calls).enabled = l.enabled := by
  induction calls generalizing l with
  | nil => rfl
  | cons q calls ih => exact ih.trans (enabled_check q.key q.tick)

/-- The times at which a client makes its requests. -/
def ticksOf (key : String) (calls : List LimiterCall) : List Nat :=
  (calls.filter fun q => q.key = key).map LimiterCall.tick

theorem ticksOf_cons_self (q : LimiterCall) (calls : List LimiterCall) :
    ticksOf q.key (q :: calls) = q.tick :: ticksOf q.key calls := by
  simp [ticksOf]

theorem ticksOf_cons_of_ne {q : LimiterCall} (hother : key ≠ q.key) (calls : List LimiterCall) :
    ticksOf key (q :: calls) = ticksOf key calls := by
  simp [ticksOf, hother.symm]

/-- **A limiter and a client that is alone run side by side.** In requests that come one after another, none of them
before `now`, the client is given the same verdicts, and in the end the limiter still remembers it. -/
theorem remembers_run (henabled : l.enabled = true) (h : Remembers (l.settings key) now alone (l.clients.get? key))
    {calls : List LimiterCall} (hordered : (now :: calls.map LimiterCall.tick).Pairwise (· ≤ ·)) :
    l.log key calls = ClientWindows.log (l.settings key) alone (ticksOf key calls) ∧
      ∀ later, (∀ tick ∈ now :: calls.map LimiterCall.tick, tick ≤ later) →
        Remembers (l.settings key) later (ClientWindows.after (l.settings key) alone (ticksOf key calls))
          ((l.run calls).clients.get? key) := by
  induction calls generalizing l now alone with
  | nil => exact ⟨rfl, fun later hlater => h.later (hlater now (List.mem_cons_self ..))⟩
  | cons q calls ih =>
      obtain ⟨hnow, hrest⟩ := List.pairwise_cons.1 hordered
      have hle : now ≤ q.tick := hnow q.tick (List.mem_cons_self ..)
      have henabled' : (l.check q.key q.tick).2.enabled = true := (enabled_check q.key q.tick).trans henabled
      by_cases hself : key = q.key
      · subst hself
        obtain ⟨hverdict, hkept⟩ := check_self henabled h hle
        have hnext := ih henabled' (.inl hkept) hrest
        rw [settings_check] at hnext
        obtain ⟨hlog, hend⟩ := hnext
        rw [ticksOf_cons_self]
        refine ⟨?_, fun later hlater => hend later fun tick htick => hlater tick (List.mem_cons_of_mem _ htick)⟩
        simp only [log, ClientWindows.log, if_true, hverdict, hlog]
      · have hkept := check_other henabled hself h hle
        rw [← settings_check q.key key q.tick] at hkept
        have hnext := ih henabled' hkept hrest
        rw [settings_check] at hnext
        obtain ⟨hlog, hend⟩ := hnext
        rw [ticksOf_cons_of_ne hself]
        refine ⟨?_, fun later hlater => hend later fun tick htick => hlater tick (List.mem_cons_of_mem _ htick)⟩
        simp only [log, Ne.symm hself, if_false, hlog]

/-- **Forgetting and other clients are invisible.** In requests of any clients that come one after another, whatever the
limits are and whatever the limiter has seen before, each client is given the verdicts, with the times to wait, that it
would be given alone for the same requests by a limiter that never forgets. -/
theorem log_eq_alone {l : Limiter} (henabled : l.enabled = true) (key : String) {calls : List LimiterCall}
    (hordered : (calls.map LimiterCall.tick).Pairwise (· ≤ ·)) :
    l.log key calls = ClientWindows.log (l.settings key) (l.clients.get? key) (ticksOf key calls) := by
  have hstart : (0 :: calls.map LimiterCall.tick).Pairwise (· ≤ ·) :=
    List.pairwise_cons.2 ⟨fun tick _ => Nat.zero_le tick, hordered⟩
  exact (remembers_run henabled (.refl _ 0 _) hstart).1

/-- A client is refused and has to wait for five seconds. A minute later another client causes it to be forgotten, and it
is allowed one more request, as it would be without that. -/
theorem log_eq_alone_forgotten :
    let l : Limiter := .ofSettings ⟨1, ofSecs 10, 5, ofSecs 1⟩ 0
    let calls : List LimiterCall :=
      [⟨"k", 0⟩, ⟨"k", ofSecs 5⟩, ⟨"other", ofSecs 60⟩, ⟨"k", ofSecs 60⟩, ⟨"k", ofSecs 61⟩]
    (l.run (calls.take 3)).clients.get? "k" = none ∧
      l.log "k" calls = ClientWindows.log (l.settings "k") none (ticksOf "k" calls) ∧
        l.log "k" calls = [(0, .allowed), (ofSecs 5, .limited (ofSecs 5)), (ofSecs 60, .allowed),
          (ofSecs 61, .limited (ofSecs 9))] := by
  intro l calls
  have hordered : (calls.map LimiterCall.tick).Pairwise (· ≤ ·) := by decide
  exact ⟨by decide, log_eq_alone rfl "k" hordered, by decide⟩

end Limiter

end FleetRouting
