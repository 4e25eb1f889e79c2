import FleetRouting.Proofs.Routing.Decide
import FleetRouting.Proofs.Routing.Renumbering
/-!
# FleetRouting.Proofs.Routing.Resemblance

**Decisions do not read the numbers of heads.** Two routing states that list the same heads but for their numbers, and
share policy, cache and turns (`Router.Resembles`), answer every request alike, and remember the same and stand at the
same turns behind it (`Router.Resembles.decide`).
-/

namespace FleetRouting

/-- Two routing states that differ at most in the numbers of heads, and in counters. -/
structure Router.Resembles (r t : Router) : Prop where
  heads : r.registry.heads.map Head.unnumbered = t.registry.heads.map Head.unnumbered
  policy : r.policy = t.policy
  cache : r.cache = t.cache
  cursors : r.cursors = t.cursors

namespace Router.Resembles

variable {r t : Router} (h : r.Resembles t) (c : Criteria) (tick : Nat)

include h

theorem get?_eq (id : String) :
    (r.registry.get? id).map Head.unnumbered = (t.registry.get? id).map Head.unnumbered := by
  have hfind := congrArg (List.find? fun a => a.id == id) h.heads
  rwa [List.find?_map, List.find?_map] at hfind

theorem candidates_eq : (r.candidates c).map Head.unnumbered = (t.candidates c).map Head.unnumbered := by
  have hfilter := congrArg (List.filter fun a => a.isActive && a.modelType == c.modelType) h.heads
  rwa [List.filter_map, List.filter_map] at hfilter

theorem strategy_eq : r.strategy c = t.strategy c := by
  rw [strategy, strategy, h.policy]

theorem distinct (hr : Distinct r.registry.heads) : Distinct t.registry.heads := by
  have hids := congrArg (List.map Head.id) h.heads
  simp only [List.map_map, Function.comp_def, Head.unnumbered_id] at hids
  exact (congrArg List.Nodup hids).mp hr

/-- The strategy of a request selects alike, and leaves the same turn. -/
theorem select_eq (hr : Distinct r.registry.heads) :
    (r.selection c).map Selection.unnumbered = (t.selection c).map Selection.unnumbered ∧
      r.nextTurn c = t.nextTurn c := by
  have hleft : Distinct (r.candidates c) := hr.filter _
  have hright : Distinct (t.candidates c) := (h.distinct hr).filter _
  have hcursor : r.cursor c.modelType = t.cursor c.modelType := by rw [cursor, cursor, h.cursors]
  have hselect := hleft.select_unnumbered (r.strategy c) c r.policy (r.cursor c.modelType)
  rw [h.candidates_eq c, hright.select_unnumbered] at hselect
  rw [selection, selection, nextTurn, nextTurn, ← h.strategy_eq c, ← h.policy, ← hcursor]
  exact ⟨(congrArg Prod.fst hselect).symm, (congrArg Prod.snd hselect).symm⟩

theorem recalled?_eq : (r.recalled? c tick).map Head.unnumbered = (t.recalled? c tick).map Head.unnumbered := by
  have hserves (a : Option Head) :
      (a.filter (serves · c)).map Head.unnumbered = (a.map Head.unnumbered).filter (serves · c) :=
    (Option.filter_map (f := Head.unnumbered) (p := (serves · c))).symm
  rw [recalled?, recalled?, h.cache]
  cases t.cache.get? (.ofCriteria c) tick with
  | none => rfl
  | some id => exact (hserves _).trans ((congrArg _ (h.get?_eq id)).trans (hserves _).symm)

/-- The same answer is given to selections that are alike, and the same is kept of them. -/
theorem conclude_eq (hturn : r.nextTurn c = t.nextTurn c) {s s' : Option Selection}
    (hs : s.map Selection.unnumbered = s'.map Selection.unnumbered) :
    (r.conclude c tick s).1 = (t.conclude c tick s').1 ∧
      (r.conclude c tick s).2.Resembles (t.conclude c tick s').2 := by
  have hcursors : r.cursors.insert c.modelType (r.nextTurn c) = t.cursors.insert c.modelType (t.nextTurn c) := by
    rw [h.cursors, hturn]
  cases s with
  | none =>
      obtain rfl := Option.map_eq_none_iff.1 hs.symm
      exact ⟨by simp only [conclude, h.strategy_eq c], h.heads, h.policy, h.cache, hcursors⟩
  | some s =>
      obtain ⟨s', rfl, hlike⟩ := Option.map_eq_some_iff.1 hs.symm
      obtain ⟨head, reason, cacheable⟩ := s
      obtain ⟨head', reason', cacheable'⟩ := s'
      obtain ⟨hhead, rfl, rfl⟩ := Selection.mk.inj hlike
      have hid : head'.unnumbered.id = head.unnumbered.id := congrArg Head.id hhead
      rw [Head.unnumbered_id, Head.unnumbered_id] at hid
      refine ⟨?_, h.heads, h.policy, ?_, hcursors⟩
      · simp only [conclude, h.strategy_eq c]
        rw [← Decision.ofHead_unnumbered head, ← Decision.ofHead_unnumbered head', hhead]
      · simp only [conclude, note, turned, missed, hid, h.cache]

theorem compute (hr : Distinct r.registry.heads) :
    (r.compute c tick).1 = (t.compute c tick).1 ∧ (r.compute c tick).2.Resembles (t.compute c tick).2 := by
  obtain ⟨hselection, hturn⟩ := h.select_eq c hr
  have hnil : r.candidates c = [] ↔ t.candidates c = [] := by
    rw [← List.map_eq_nil_iff (f := Head.unnumbered), h.candidates_eq, List.map_eq_nil_iff]
  by_cases hnone : t.candidates c = []
  · rw [compute_of_no_candidates hnone, compute_of_no_candidates (hnil.2 hnone)]
    exact ⟨rfl, h.heads, h.policy, h.cache, h.cursors⟩
  · rw [compute_of_candidates hnone, compute_of_candidates (hnil.not.2 hnone)]
    exact h.conclude_eq c tick hturn hselection

/-- **Routing states that differ in numbers alone answer alike**, and do so from then on. -/
theorem decide (hr : Distinct r.registry.heads) :
    (r.decide c tick).1 = (t.decide c tick).1 ∧ (r.decide c tick).2.Resembles (t.decide c tick).2 := by
  have hrecalled := h.recalled?_eq c tick
  cases hrecall : t.recalled? c tick with
  | some a =>
      rw [hrecall] at hrecalled
      obtain ⟨a', hrecall', hlike⟩ := Option.map_eq_some_iff.1 hrecalled
      rw [decide_of_recall hrecall, decide_of_recall hrecall']
      refine ⟨?_, h.heads, h.policy, h.cache, h.cursors⟩
      show Decision.ofHead a'.unnumbered cachedName _ = Decision.ofHead a.unnumbered cachedName _
      rw [hlike]
  | none =>
      rw [hrecall] at hrecalled
      have htidied : (r.tidied c tick).Resembles (t.tidied c tick) :=
        ⟨h.heads, h.policy, by unfold tidied; rw [h.cache], h.cursors⟩
      rw [decide_of_no_recall hrecall, decide_of_no_recall (Option.map_eq_none_iff.1 hrecalled)]
      exact htidied.compute c tick hr

end Router.Resembles

end FleetRouting
