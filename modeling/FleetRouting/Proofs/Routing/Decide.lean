import FleetRouting.Proofs.Routing.Cache
import FleetRouting.Proofs.Routing.Turns
import FleetRouting.Routing.Router
import Mathlib.Tactic.Common
/-!
# FleetRouting.Proofs.Routing.Decide

**What a decision consists of.** A request is answered from memory exactly when `Router.recalled?` finds a head, and
otherwise by the selection of its strategy (`Router.selection`). Everything that later proofs need of
`Router.decide` is read off here: the answer in both cases, what stays as it is, where the entries of the cache come
from, and that no counter plays a part (`Router.Agrees.decide`).
-/

namespace FleetRouting

namespace Router

/-- The head that a request is given from memory. -/
def recalled? (r : Router) (c : Criteria) (tick : Nat) : Option Head :=
  match r.cache.get? (.ofCriteria c) tick with
  | some id => (r.registry.get? id).filter (serves · c)
  | none => none

/-- The strategy that answers a request. -/
def strategy (r : Router) (c : Criteria) : Strategy := c.effectiveStrategy r.policy.defaultStrategy

/-- The heads that a request may be given. -/
def candidates (r : Router) (c : Criteria) : List Head := r.registry.listActive c.modelType

/-- What the strategy of a request selects. -/
def selection (r : Router) (c : Criteria) : Option Selection :=
  ((select (r.strategy c) (r.candidates c) c r.policy).run (r.cursor c.modelType)).1

/-! ### The answer of a strategy -/

/-- The turn of the rotation that a selection leaves behind. -/
def nextTurn (r : Router) (c : Criteria) : UInt64 :=
  ((select (r.strategy c) (r.candidates c) c r.policy).run (r.cursor c.modelType)).2

/-- A router that has counted one more request which memory does not answer. -/
def missed (r : Router) : Router :=
  { r with metrics := { r.metrics with cacheMisses := r.metrics.cacheMisses + 1 } }

/-- A router behind the turn that a selection took. -/
def turned (r : Router) (c : Criteria) : Router :=
  { r.missed with cursors := r.cursors.insert c.modelType (r.nextTurn c) }

/-- The answer to a selection, and what is kept of it. -/
def conclude (r : Router) (c : Criteria) (tick : Nat) : Option Selection → Decision × Router
  | none => (.none (r.strategy c).name "no suitable head found", r.turned c)
  | some s => (.ofHead s.head (r.strategy c).name s.reason.text, (r.turned c).note c (r.strategy c) s tick)

theorem compute_of_candidates {r : Router} {c : Criteria} (h : r.candidates c ≠ []) (tick : Nat) :
    r.compute c tick = r.conclude c tick (r.selection c) :=
  if_neg fun hempty => h (List.isEmpty_iff.1 hempty)

theorem compute_of_no_candidates {r : Router} {c : Criteria} (h : r.candidates c = []) (tick : Nat) :
    r.compute c tick = (.none "none" "no available heads for model type", r.missed) :=
  if_pos (List.isEmpty_iff.2 h)

/-- Where something is selected there are candidates. -/
theorem candidates_ne_nil_of_selection {r : Router} {c : Criteria} {s : Selection}
    (h : r.selection c = some s) : r.candidates c ≠ [] :=
  List.ne_nil_of_mem (mem_of_select h)

/-- A selection is the answer, under the name of its strategy. -/
theorem compute_of_selection {r : Router} {c : Criteria} {s : Selection} (h : r.selection c = some s)
    (tick : Nat) :
    r.compute c tick =
      (.ofHead s.head (r.strategy c).name s.reason.text, (r.turned c).note c (r.strategy c) s tick) := by
  rw [compute_of_candidates (candidates_ne_nil_of_selection h), h]
  rfl

/-- Without a selection the answer names no head. -/
theorem headId_compute_of_no_selection {r : Router} {c : Criteria} (h : r.selection c = none)
    (tick : Nat) : (r.compute c tick).1.headId = "" := by
  by_cases hnil : r.candidates c = []
  · rw [compute_of_no_candidates hnil]
    rfl
  · rw [compute_of_candidates hnil, h]
    rfl

/-- Heads and policy are read and not changed. -/
theorem compute_keeps (r : Router) (c : Criteria) (tick : Nat) :
    (r.compute c tick).2.registry = r.registry ∧ (r.compute c tick).2.policy = r.policy := by
  by_cases hnil : r.candidates c = []
  · rw [compute_of_no_candidates hnil]
    exact ⟨rfl, rfl⟩
  · rw [compute_of_candidates hnil]
    cases r.selection c with
    | none => exact ⟨rfl, rfl⟩
    | some s => exact ⟨rfl, rfl⟩

/-- What a computed answer remembers: the selection, if it may be repeated. -/
theorem compute_cache (r : Router) (c : Criteria) (tick : Nat) :
    (r.compute c tick).2.cache =
      match (r.selection c).filter Selection.cacheable with
      | some s => r.cache.insert (.ofCriteria c) s.head.id tick
      | none => r.cache := by
  cases h : r.selection c with
  | none =>
      by_cases hnil : r.candidates c = []
      · rw [compute_of_no_candidates hnil]
        rfl
      · rw [compute_of_candidates hnil, h]
        rfl
  | some s =>
      rw [compute_of_selection h]
      cases hs : s.cacheable <;> simp [note, turned, missed, hs, Option.filter]

/-! ### Memory before strategy -/

/-- A router without the entry of a request that does not count any more. -/
def tidied (r : Router) (c : Criteria) (tick : Nat) : Router :=
  { r with
    cache := if (r.cache.get? (.ofCriteria c) tick).isSome then r.cache.remove (.ofCriteria c) else r.cache }

/-- Memory gives a head that may serve the request and that a fresh entry of its key names. -/
theorem entry_of_recalled? {r : Router} {c : Criteria} {tick : Nat} {h : Head} (hrecall : r.recalled? c tick = some h) :
    (∃ e ∈ r.cache.entries, e.key = .ofCriteria c ∧ r.cache.isFresh e tick ∧
      r.registry.get? e.headId = some h) ∧ serves h c := by
  unfold recalled? at hrecall
  cases hget : r.cache.get? (.ofCriteria c) tick with
  | none => simp [hget] at hrecall
  | some id =>
      rw [hget] at hrecall
      obtain ⟨hfound, hserves⟩ := Option.filter_eq_some_iff.1 hrecall
      obtain ⟨e, he, hkey, hfresh, rfl⟩ := Cache.entry_of_get? hget
      exact ⟨⟨e, he, hkey, hfresh, hfound⟩, hserves⟩

/-- A fresh entry of a request's key gives its head as long as it may serve. -/
theorem recalled?_of_entry {r : Router} (hunique : r.cache.Unique) {c : Criteria} {tick : Nat} {h : Head}
    {e : CacheEntry} (he : e ∈ r.cache.entries) (hkey : e.key = .ofCriteria c) (hfresh : r.cache.isFresh e tick)
    (hfound : r.registry.get? e.headId = some h) (hserves : serves h c) : r.recalled? c tick = some h := by
  simp only [recalled?, ← hkey, hunique.get?_of_mem he hfresh, hfound, Option.filter_some, hserves, if_true]

/-- Without entries nothing is remembered. -/
theorem recalled?_of_no_entries {r : Router} (h : r.cache.entries = []) (c : Criteria) (tick : Nat) :
    r.recalled? c tick = none := by
  rw [recalled?, Cache.get?_of_no_entries h]

/-- A request that memory answers. -/
theorem decide_of_recall {r : Router} {c : Criteria} {tick : Nat} {h : Head}
    (hrecall : r.recalled? c tick = some h) :
    r.decide c tick =
      (.ofHead h cachedName "cached decision",
        { r with metrics := { r.metrics with cacheHits := r.metrics.cacheHits + 1 } }) := by
  unfold recalled? at hrecall
  unfold decide remembered
  cases hget : r.cache.get? (.ofCriteria c) tick with
  | none => simp [hget] at hrecall
  | some id =>
      rw [hget] at hrecall
      obtain ⟨hfound, hserves⟩ := Option.filter_eq_some_iff.1 hrecall
      simp only [hget, hfound, hserves, if_true]

/-- A request that memory does not answer. -/
theorem decide_of_no_recall {r : Router} {c : Criteria} {tick : Nat}
    (hrecall : r.recalled? c tick = none) : r.decide c tick = (r.tidied c tick).compute c tick := by
  unfold recalled? at hrecall
  unfold decide remembered tidied
  cases hget : r.cache.get? (.ofCriteria c) tick with
  | none => simp [hget]
  | some id =>
      rw [hget] at hrecall
      cases hfound : r.registry.get? id with
      | none => simp [hget, hfound]
      | some h =>
          -- the head is known but may not serve this request
          have hserves : serves h c = false := by
            simpa [hfound, Option.filter_eq_none_iff] using hrecall
          simp [hget, hfound, hserves]

/-- Dropping an entry changes nothing that a strategy reads. -/
theorem selection_tidied (r : Router) (c d : Criteria) (tick : Nat) :
    (r.tidied c tick).selection d = r.selection d := rfl

/-- The identifier of the head that the strategy of a request selects; empty when there is none. -/
def selectedId (r : Router) (c : Criteria) : String := ((r.selection c).map fun s => s.head.id).getD ""

/-- Where memory does not answer, the answer names the selected head. -/
theorem headId_decide_of_no_recall {r : Router} {c : Criteria} {tick : Nat} (hrecall : r.recalled? c tick = none) :
    (r.decide c tick).1.headId = r.selectedId c := by
  rw [decide_of_no_recall hrecall, selectedId]
  cases hselection : r.selection c with
  | none =>
      have htidied : (r.tidied c tick).selection c = none := hselection
      exact headId_compute_of_no_selection htidied tick
  | some s =>
      have htidied : (r.tidied c tick).selection c = some s := hselection
      rw [compute_of_selection htidied]
      rfl

@[simp] theorem decide_registry (r : Router) (c : Criteria) (tick : Nat) :
    (r.decide c tick).2.registry = r.registry := by
  cases h : r.recalled? c tick with
  | some head => rw [decide_of_recall h]
  | none =>
      rw [decide_of_no_recall h]
      exact (compute_keeps _ c tick).1

@[simp] theorem decide_policy (r : Router) (c : Criteria) (tick : Nat) :
    (r.decide c tick).2.policy = r.policy := by
  cases h : r.recalled? c tick with
  | some head => rw [decide_of_recall h]
  | none =>
      rw [decide_of_no_recall h]
      exact (compute_keeps _ c tick).2

/-- Decisions have nothing to do with lost writes. -/
theorem decide_losses (r : Router) (c : Criteria) (tick : Nat) :
    (r.decide c tick).2.metrics.breakerRejections = r.metrics.breakerRejections ∧
      (r.decide c tick).2.metrics.persistenceFailures = r.metrics.persistenceFailures := by
  cases h : r.recalled? c tick with
  | some head =>
      rw [decide_of_recall h]
      exact ⟨rfl, rfl⟩
  | none =>
      rw [decide_of_no_recall h]
      by_cases hnil : (r.tidied c tick).candidates c = []
      · rw [compute_of_no_candidates hnil]
        exact ⟨rfl, rfl⟩
      · rw [compute_of_candidates hnil]
        cases (r.tidied c tick).selection c with
        | none => exact ⟨rfl, rfl⟩
        | some s => exact ⟨rfl, rfl⟩

/-- Every entry behind a decision was there before, or remembers the selection that was just made. -/
theorem mem_decide_cache {r : Router} {c : Criteria} {tick : Nat} {e : CacheEntry}
    (he : e ∈ (r.decide c tick).2.cache.entries) :
    e ∈ r.cache.entries ∨
      ∃ s, r.selection c = some s ∧ s.cacheable ∧ e = ⟨.ofCriteria c, s.head.id, tick⟩ := by
  have htidied : ∀ e ∈ (r.tidied c tick).cache.entries, e ∈ r.cache.entries := by
    intro e he
    unfold tidied at he
    split at he
    · exact (List.mem_filter.1 he).1
    · exact he
  cases h : r.recalled? c tick with
  | some head =>
      rw [decide_of_recall h] at he
      exact .inl he
  | none =>
      rw [decide_of_no_recall h, compute_cache, selection_tidied] at he
      cases hs : (r.selection c).filter Selection.cacheable with
      | none =>
          rw [hs] at he
          exact .inl (htidied e he)
      | some s =>
          rw [hs] at he
          obtain ⟨hselected, hcacheable⟩ := Option.filter_eq_some_iff.1 hs
          rcases List.mem_cons.1 he with rfl | he
          · exact .inr ⟨s, hselected, hcacheable, rfl⟩
          · exact .inl (htidied e (List.mem_filter.1 he).1)

/-! ### Counters are not read -/

/-- Two routers that differ at most in their counters. -/
structure Agrees (r t : Router) : Prop where
  registry : r.registry = t.registry
  policy : r.policy = t.policy
  cache : r.cache = t.cache
  cursors : r.cursors = t.cursors

namespace Agrees

theorem refl (r : Router) : r.Agrees r := ⟨rfl, rfl, rfl, rfl⟩

theorem trans {r t u : Router} (h : r.Agrees t) (h' : t.Agrees u) : r.Agrees u :=
  ⟨h.registry.trans h'.registry, h.policy.trans h'.policy, h.cache.trans h'.cache,
    h.cursors.trans h'.cursors⟩

section

variable {r t : Router} (h : r.Agrees t) (c : Criteria)

include h

theorem candidates_eq : r.candidates c = t.candidates c := by
  rw [candidates, candidates, h.registry]

theorem strategy_eq : r.strategy c = t.strategy c := by
  rw [strategy, strategy, h.policy]

theorem run_select_eq :
    (select (r.strategy c) (r.candidates c) c r.policy).run (r.cursor c.modelType) =
      (select (t.strategy c) (t.candidates c) c t.policy).run (t.cursor c.modelType) := by
  rw [h.strategy_eq, h.candidates_eq, h.policy, cursor, cursor, h.cursors]

theorem selection_eq : r.selection c = t.selection c := congrArg Prod.fst (h.run_select_eq c)

theorem selectedId_eq : r.selectedId c = t.selectedId c := by
  rw [selectedId, selectedId, h.selection_eq]

theorem nextTurn_eq : r.nextTurn c = t.nextTurn c := congrArg Prod.snd (h.run_select_eq c)

theorem recalled?_eq (tick : Nat) : r.recalled? c tick = t.recalled? c tick := by
  rw [recalled?, recalled?, h.cache, h.registry]

theorem turned : (r.turned c).Agrees (t.turned c) :=
  ⟨h.registry, h.policy, h.cache, by simp only [Router.turned, h.cursors, h.nextTurn_eq c]⟩

theorem note (s : Selection) (strategy : Strategy) (tick : Nat) :
    (r.note c strategy s tick).Agrees (t.note c strategy s tick) :=
  ⟨h.registry, h.policy, by simp only [Router.note, h.cache], h.cursors⟩

theorem tidied (tick : Nat) : (r.tidied c tick).Agrees (t.tidied c tick) :=
  ⟨h.registry, h.policy, by unfold Router.tidied; rw [h.cache], h.cursors⟩

theorem compute (tick : Nat) :
    (r.compute c tick).1 = (t.compute c tick).1 ∧ (r.compute c tick).2.Agrees (t.compute c tick).2 := by
  by_cases hnil : t.candidates c = []
  · rw [compute_of_no_candidates hnil, compute_of_no_candidates ((h.candidates_eq c).trans hnil)]
    exact ⟨rfl, h.registry, h.policy, h.cache, h.cursors⟩
  · rw [compute_of_candidates hnil, compute_of_candidates (by rwa [h.candidates_eq c]),
      h.selection_eq c]
    cases t.selection c with
    | none => exact ⟨by simp only [conclude, h.strategy_eq c], h.turned c⟩
    | some s =>
        simp only [conclude, h.strategy_eq c, true_and]
        exact (h.turned c).note c s _ tick

theorem decide (tick : Nat) :
    (r.decide c tick).1 = (t.decide c tick).1 ∧ (r.decide c tick).2.Agrees (t.decide c tick).2 := by
  cases hrecall : t.recalled? c tick with
  | some head =>
      rw [decide_of_recall hrecall, decide_of_recall ((h.recalled?_eq c tick).trans hrecall)]
      exact ⟨rfl, h.registry, h.policy, h.cache, h.cursors⟩
  | none =>
      rw [decide_of_no_recall hrecall, decide_of_no_recall ((h.recalled?_eq c tick).trans hrecall)]
      exact (h.tidied c tick).compute c tick

end

end Agrees

end Router

end FleetRouting
