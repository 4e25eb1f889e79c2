import FleetRouting.Proofs.Restoring
import FleetRouting.Proofs.Store.Records
/-!
# FleetRouting.Proofs.Bootstrap

**A service starts from what its store holds, whatever that is and whatever fails.** The heads are read one after
another behind the listing of their keys. If one of these calls fails, no head is restored (`Store.run_loadHeads`); a
text that is no head is passed over. The policy is asked for in any case, with the next call (`Store.run_loadPolicy`).
Nothing else of the service is touched (`Service.bootstrap_outcome`).
-/

namespace FleetRouting

/-! ### Calls in a row -/

namespace Outage

/-- The first of some calls that fails, and how, if they are made one after another behind `n` others. -/
def failure? (outage : Outage) : Nat → List Call → Option (Nat × StoreError)
  | _, [] => Option.none
  | n, call :: calls =>
    match outage n call with
    | some e => some (n, e)
    | Option.none => failure? outage (n + 1) calls

/-- The number of calls behind these ones, of which none is made after the first that fails. -/
def behind (outage : Outage) (n : Nat) (calls : List Call) : Nat :=
  match outage.failure? n calls with
  | some (m, _) => m + 1
  | Option.none => n + calls.length

variable {outage : Outage} {n : Nat} {call : Call} (calls : List Call)

theorem failure?_of_failed {e : StoreError} (h : outage n call = some e) :
    outage.failure? n (call :: calls) = some (n, e) := by
  simp only [failure?, h]

theorem failure?_of_answered (h : outage n call = Option.none) :
    outage.failure? n (call :: calls) = outage.failure? (n + 1) calls := by
  simp only [failure?, h]

end Outage

/-! ### What a store holds -/

namespace Contents

/-- The head that the text under a key decodes to. -/
def headUnder? (c : Contents) (key : String) : Option Head :=
  (c.values.get? key).bind fun text => (Json.decodeText Head.ofJson text).toOption

/-- The heads that can be decoded, in the order of their keys. -/
def heads (c : Contents) : List Head := (c.keysFrom Store.headKeyStart).filterMap c.headUnder?

/-- The policy that the text under its key decodes to. -/
def policy? (c : Contents) : Option Policy :=
  (c.values.get? Store.policyKey).bind fun text => (Json.decodeText Policy.ofJson text).toOption

end Contents

namespace Store

/-- The store behind some calls that left its contents alone. -/
def counted (s : Store) (calls : Nat) : Store := { s with calls := calls }

@[simp] theorem counted_contents (s : Store) (calls : Nat) : (s.counted calls).contents = s.contents := rfl

@[simp] theorem counted_outage (s : Store) (calls : Nat) : (s.counted calls).outage = s.outage := rfl

@[simp] theorem counted_calls (s : Store) (calls : Nat) : (s.counted calls).calls = calls := rfl

@[simp] theorem counted_counted (s : Store) (m n : Nat) : (s.counted m).counted n = s.counted n := rfl

/-- The calls that loading the heads makes, as long as none fails. -/
def headReads (s : Store) : List Call :=
  .keys headKeyStart :: (s.contents.keysFrom headKeyStart).map .get

theorem run_get_ok {s : Store} {key : String} (h : s.outage s.calls (.get key) = none) :
    (get key).run s = (.ok (s.contents.values.get? key), s.counted (s.calls + 1)) :=
  run_perform_ok _ h

theorem run_get_error {s : Store} {key : String} {e : StoreError} (h : s.outage s.calls (.get key) = some e) :
    (get key).run s = (.error e, s.counted (s.calls + 1)) :=
  run_perform_error _ h

/-- Memory and database list the same keys of heads. -/
theorem run_keys (s : Store) :
    (keys headKeyStart).run s =
      (perform (.keys headKeyStart) fun c => (c.keysFrom headKeyStart, c) : StoreM (List String)).run s := by
  have hzero : headKeyStart.toList.contains '\x00' = false := by decide
  have heffect : (fun c : Contents => (if s.isDatabase then c.keysInDatabase headKeyStart else c.keysFrom headKeyStart, c)) =
      fun c => (c.keysFrom headKeyStart, c) := by
    simp only [Contents.keysInDatabase, hzero, Bool.false_eq_true, if_false, ite_self]
  rw [← heffect]
  rfl

/-- **Loading reads key after key up to the first failure,** and gives the heads that it can decode if there is none. -/
theorem run_loadKeys (keys : List String) (s : Store) :
    (loadKeys keys).run s =
      match s.outage.failure? s.calls (keys.map .get) with
      | some (n, e) => (.error e, s.counted (n + 1))
      | none => (.ok (keys.filterMap s.contents.headUnder?), s.counted (s.calls + keys.length)) := by
  induction keys generalizing s with
  | nil => rfl
  | cons key keys ih =>
      rw [List.map_cons]
      unfold loadKeys
      cases hcall : s.outage s.calls (.get key) with
      | some e =>
          rw [Outage.failure?_of_failed _ hcall]
          exact run_bind_error (run_get_error hcall)
      | none =>
          have hrest := ih (s.counted (s.calls + 1))
          rw [Outage.failure?_of_answered _ hcall, run_bind_ok (run_get_ok hcall)]
          cases hfailure : s.outage.failure? (s.calls + 1) (keys.map .get) with
          | some failed =>
              simp only [counted_outage, counted_calls, counted_counted, hfailure] at hrest
              exact run_bind_error hrest
          | none =>
              simp only [counted_outage, counted_calls, counted_contents, counted_counted, hfailure] at hrest
              have hcalls : s.calls + 1 + keys.length = s.calls + (key :: keys).length := by
                rw [List.length_cons]
                omega
              rw [run_bind_ok hrest, hcalls, List.filterMap_cons, Contents.headUnder?]
              cases s.contents.values.get? key with
              | none => rfl
              | some text =>
                  simp only [Option.map_some, Option.bind_some]
                  cases Json.decodeText Head.ofJson text with
                  | error fault => rfl
                  | ok head => rfl

/-- **Either every read comes through, and all heads that can be decoded are loaded, or none is.** -/
theorem run_loadHeads (s : Store) :
    ∃ loaded, loadHeads.run s = (loaded, s.counted (s.outage.behind s.calls s.headReads)) ∧
      (s.outage.failure? s.calls s.headReads = none → loaded = .ok s.contents.heads) ∧
      (s.outage.failure? s.calls s.headReads ≠ none → ∃ e, loaded = .error e) := by
  unfold loadHeads headReads Outage.behind
  cases hcall : s.outage s.calls (.keys headKeyStart) with
  | some e =>
      rw [Outage.failure?_of_failed _ hcall]
      exact ⟨.error e, run_bind_error ((run_keys s).trans (run_perform_error _ hcall)), nofun, fun _ => ⟨e, rfl⟩⟩
  | none =>
      have hkeys : (keys headKeyStart).run s = (.ok (s.contents.keysFrom headKeyStart), s.counted (s.calls + 1)) :=
        (run_keys s).trans (run_perform_ok _ hcall)
      have hcalls (n : Nat) : s.calls + 1 + n = s.calls + (n + 1) := by omega
      rw [Outage.failure?_of_answered _ hcall, run_bind_ok hkeys, run_loadKeys]
      simp only [counted_outage, counted_calls, counted_contents, counted_counted, List.length_cons, List.length_map,
        hcalls]
      cases s.outage.failure? (s.calls + 1) ((s.contents.keysFrom headKeyStart).map .get) with
      | some failed => exact ⟨.error failed.2, rfl, nofun, fun _ => ⟨failed.2, rfl⟩⟩
      | none => exact ⟨.ok s.contents.heads, rfl, fun _ => rfl, fun h => absurd rfl h⟩

/-- The policy is loaded if its read comes through and the text decodes, and the contents stay as they are. -/
theorem run_loadPolicy (s : Store) :
    ∃ found, loadPolicy.run s = (found, s.counted (s.calls + 1)) ∧
      ∀ policy, found.toOption.join = some policy ↔
        s.outage s.calls (.get policyKey) = none ∧ s.contents.policy? = some policy := by
  unfold loadPolicy
  cases hcall : s.outage s.calls (.get policyKey) with
  | some e => exact ⟨.error e, run_bind_error (run_get_error hcall), by simp [Except.toOption]⟩
  | none =>
      rw [run_bind_ok (run_get_ok hcall), Contents.policy?]
      cases s.contents.values.get? policyKey with
      | none => exact ⟨.ok none, rfl, by simp [Except.toOption]⟩
      | some text =>
          simp only [decodeStored, Option.bind_some]
          cases Json.decodeText Policy.ofJson text with
          | error fault => exact ⟨.error (.serialization fault), rfl, by simp [Except.toOption]⟩
          | ok policy => exact ⟨.ok (some policy), rfl, by simp [Except.toOption]⟩

end Store

/-! ### A service that starts -/

namespace Service

/-- What a service takes over is what it has loaded. -/
theorem bootstrap_eq {s : Service} {loaded : Except StoreError (List Head)} {found : Except StoreError (Option Policy)}
    {store store' : Store} (hheads : Store.loadHeads.run s.store = (loaded, store))
    (hpolicy : Store.loadPolicy.run store = (found, store')) :
    s.bootstrap =
      (⟨(loaded.toOption.map List.length).getD 0, found.toOption.join.isSome⟩,
        { s with
          router := { s.router with
            registry := (loaded.toOption.map s.router.registry.restore).getD s.router.registry
            policy := found.toOption.join.getD s.router.policy }
          store := store' }) := by
  unfold bootstrap call
  rw [hheads]
  cases loaded with
  | error e =>
      simp only [hpolicy]
      rcases found with e' | _ | policy <;> rfl
  | ok records =>
      simp only [withRegistry, hpolicy]
      rcases found with e' | _ | policy <;> rfl

/-- **A new service takes over what it can read, and nothing by halves.** Whatever the store holds and whatever fails: if
the listing and all reads of heads come through, the registry holds the heads that can be decoded under new numbers,
of several records of one head the last one; and no head at all otherwise. Behind these calls the policy is asked for. It
is in force if this read comes through and the text decodes, and the default policy is otherwise. All else of the
service, the contents of the store included, is as it was. -/
theorem bootstrap_outcome (store : Store) (breaker : Breaker) (bus : Bus) (cacheTtl : Option Duration) :
    let s := start store breaker bus cacheTtl
    let (report, t) := s.bootstrap
    let failure := store.outage.failure? store.calls store.headReads
    let asked := store.outage.behind store.calls store.headReads
    (failure = none → report.headsRestored = store.contents.heads.length ∧
        ∃ lasts, Registry.Lasts store.contents.heads lasts ∧
          t.router.registry.heads.map Head.unnumbered = lasts.map Head.unnumbered) ∧
      (failure ≠ none → report.headsRestored = 0 ∧ t.router.registry = {}) ∧
      (∀ policy, store.outage asked (.get Store.policyKey) = none ∧ store.contents.policy? = some policy →
        report.policyRestored = true ∧ t.router.policy = policy) ∧
      ((¬∃ policy, store.outage asked (.get Store.policyKey) = none ∧ store.contents.policy? = some policy) →
        report.policyRestored = false ∧ t.router.policy = {}) ∧
      t = { s with
        router := { s.router with registry := t.router.registry, policy := t.router.policy }
        store := { store with calls := asked + 1 } } := by
  intro s
  obtain ⟨loaded, hheads, hall, hnone⟩ := store.run_loadHeads
  obtain ⟨found, hpolicy, hfound⟩ :=
    (store.counted (store.outage.behind store.calls store.headReads)).run_loadPolicy
  have hbootstrap := bootstrap_eq (s := s) hheads hpolicy
  rw [hbootstrap]
  refine ⟨?_, ?_, ?_, ?_, rfl⟩
  · intro hanswered
    obtain ⟨lasts, restored, hlasts, hrestored, hlisted⟩ := Registry.heads_restore {} store.contents.heads
    rw [hall hanswered]
    refine ⟨rfl, lasts, hlasts, ?_⟩
    rw [← hrestored]
    exact congrArg (List.map Head.unnumbered) hlisted
  · intro hfailed
    obtain ⟨e, rfl⟩ := hnone hfailed
    exact ⟨rfl, rfl⟩
  · intro policy hstored
    rw [(hfound policy).2 hstored]
    exact ⟨rfl, rfl⟩
  · intro hlost
    have hunfound : found.toOption.join = none := by
      refine Option.eq_none_iff_forall_ne_some.2 ?_
      intro policy hpolicy
      exact hlost ⟨policy, (hfound policy).1 hpolicy⟩
    rw [hunfound]
    exact ⟨rfl, rfl⟩

end Service

end FleetRouting
