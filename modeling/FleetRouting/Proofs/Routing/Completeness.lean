import FleetRouting.Proofs.CacheTransparency
/-!
# FleetRouting.Proofs.Routing.Completeness

**Where a head can serve a request, the answer is such a head; where none can, the answer says so.** Every strategy
picks one of its candidates as soon as there are any (`exists_select`), and what memory gives is a candidate as well. So
nothing has to be known of the cache: whatever it holds, an answer shows a candidate as it is now.
-/

namespace FleetRouting

/-! ### Answers show candidates -/

/-- A decision shows a head as it is. -/
structure Decision.Shows (d : Decision) (h : Head) : Prop where
  headId : d.headId = h.id
  endpoint : d.endpoint = h.endpoint
  region : d.metadata.get? "region" = some h.region
  modelType : d.metadata.get? "model_type" = some h.modelType
  version : d.metadata.get? "version" = some h.version
  currentLoad : d.metadata.get? "current_load" = some (toString h.currentLoad.toNat)

theorem Decision.shows_ofHead (h : Head) (strategyUsed reason : String) :
    (Decision.ofHead h strategyUsed reason).Shows h where
  headId := rfl
  endpoint := rfl
  region := by simp [ofHead, SortedMap.ofList, SortedMap.get?_insert_of_ne]
  modelType := by simp [ofHead, SortedMap.ofList, SortedMap.get?_insert_of_ne]
  version := by simp [ofHead, SortedMap.ofList, SortedMap.get?_insert_of_ne]
  currentLoad := SortedMap.get?_insert_self ..

namespace Router

variable {r : Router} {c : Criteria}

theorem mem_candidates {h : Head} : h ∈ r.candidates c ↔ h ∈ r.registry.heads ∧ h.isActive ∧ h.modelType = c.modelType :=
  Registry.mem_listActive

/-- What is selected is a candidate. -/
theorem mem_candidates_of_selection {s : Selection} (hs : r.selection c = some s) : s.head ∈ r.candidates c :=
  mem_of_select hs

/-- With candidates, the answer shows one of them. -/
theorem exists_shows_decide (hne : r.candidates c ≠ []) (tick : Nat) :
    ∃ h ∈ r.candidates c, (r.decide c tick).1.Shows h := by
  cases hrecall : r.recalled? c tick with
  | some h =>
      rw [decide_of_recall hrecall]
      exact ⟨h, (candidate_of_recalled? hrecall).1, Decision.shows_ofHead ..⟩
  | none =>
      obtain ⟨s, hselected, hmem⟩ := exists_select hne (r.strategy c) (r.cursor c.modelType) (c := c) (p := r.policy)
      have htidied : (r.tidied c tick).selection c = some s := hselected
      rw [decide_of_no_recall hrecall, compute_of_selection htidied]
      exact ⟨s.head, hmem, Decision.shows_ofHead ..⟩

/-- Without candidates, the answer says so, and nothing is remembered. -/
theorem decide_of_no_candidates (hnil : r.candidates c = []) (tick : Nat) :
    (r.decide c tick).1 = .none "none" "no available heads for model type" ∧
      (r.decide c tick).2.cache.entries.Sublist r.cache.entries := by
  cases hrecall : r.recalled? c tick with
  | some h =>
      have hmem := (candidate_of_recalled? hrecall).1
      rw [hnil] at hmem
      cases hmem
  | none =>
      have htidied : (r.tidied c tick).candidates c = [] := hnil
      rw [decide_of_no_recall hrecall, compute_of_no_candidates htidied]
      refine ⟨rfl, ?_⟩
      show (r.tidied c tick).cache.entries.Sublist _
      unfold tidied
      split
      · exact List.filter_sublist
      · exact List.Sublist.refl _

/-- **Routing is sound and complete over any cache.** Whatever is remembered, for whatever head and since whenever, and
whatever the turns are: a request is given a head exactly when a registered head is active and of its model type; it is
such a head, shown as it is now. Otherwise the answer names no head, and nothing more is remembered than before. -/
theorem decide_complete (hdistinct : Distinct r.registry.heads) (hids : ∀ h ∈ r.registry.heads, h.id ≠ "")
    (c : Criteria) (tick : Nat) :
    let d := (r.decide c tick).1
    let after := (r.decide c tick).2
    (d.isEmpty = false ↔ ∃ h ∈ r.registry.heads, h.isActive ∧ h.modelType = c.modelType) ∧
      (d.isEmpty = false →
        ∃ h, r.registry.get? d.headId = some h ∧ h.isActive ∧ h.modelType = c.modelType ∧ d.Shows h) ∧
        ((¬ ∃ h ∈ r.registry.heads, h.isActive ∧ h.modelType = c.modelType) →
          d = .none "none" "no available heads for model type" ∧ after.cache.entries.Sublist r.cache.entries) := by
  intro d after
  have hcandidates : r.candidates c ≠ [] ↔ ∃ h ∈ r.registry.heads, h.isActive ∧ h.modelType = c.modelType := by
    constructor
    · intro hne
      obtain ⟨h, hmem⟩ := List.exists_mem_of_ne_nil _ hne
      exact ⟨h, mem_candidates.1 hmem⟩
    · rintro ⟨h, hserves⟩
      exact List.ne_nil_of_mem (mem_candidates.2 hserves)
  rw [← hcandidates]
  by_cases hnil : r.candidates c = []
  · obtain ⟨hnone, hcache⟩ := decide_of_no_candidates hnil tick
    have hempty : ¬ d.isEmpty = false := by
      rw [Bool.not_eq_false]
      exact congrArg Decision.isEmpty hnone
    exact ⟨iff_of_false hempty (not_not.2 hnil), fun hsome => absurd hsome hempty, fun _ => ⟨hnone, hcache⟩⟩
  · obtain ⟨h, hmem, hshows⟩ := exists_shows_decide hnil tick
    obtain ⟨hknown, hactive, hmodel⟩ := mem_candidates.1 hmem
    have hnonempty : d.isEmpty = false := by
      rw [Decision.isEmpty, hshows.headId, Bool.eq_false_iff, ne_eq, String.isEmpty_iff]
      exact hids h hknown
    refine ⟨iff_of_true hnonempty hnil, fun _ => ⟨h, ?_, hactive, hmodel, hshows⟩, fun hnone => absurd hnil hnone⟩
    rw [hshows.headId]
    exact Registry.get?_of_mem hdistinct hknown

/-- The cache names a head that is out of routing, under the key of the request: the answer is the head that can serve
it. -/
theorem decide_complete_corrupt_cache :
    let down : Head := { (default : Head) with id := "down", modelType := "llm", status := .inactive }
    let up : Head := { (default : Head) with id := "up", modelType := "llm", status := .active, currentLoad := 7 }
    let c : Criteria := { modelType := "llm" }
    let r : Router := { registry := { heads := [down, up] }, cache := { entries := [⟨.ofCriteria c, "down", 3⟩] } }
    (r.decide c 9).1.isEmpty = false ∧ (r.decide c 9).1.Shows up ∧
      (r.decide { c with modelType := "vision" } 9).1 = .none "none" "no available heads for model type" := by
  intro down up c r
  have hdistinct : Distinct r.registry.heads := by unfold Distinct; decide
  have hids : ∀ h ∈ r.registry.heads, h.id ≠ "" := by decide
  obtain ⟨hiff, hsound, -⟩ := decide_complete hdistinct hids c 9
  obtain ⟨-, -, hnone⟩ := decide_complete hdistinct hids { c with modelType := "vision" } 9
  have hsome := hiff.2 ⟨up, by decide, by decide, rfl⟩
  obtain ⟨h, hget, hactive, -, hshows⟩ := hsound hsome
  obtain ⟨hmem, -⟩ := Registry.get?_eq_some hget
  refine ⟨hsome, ?_, (hnone (by decide)).1⟩
  -- of the two heads only one is active
  rcases List.mem_cons.1 hmem with rfl | hmem
  · cases hactive
  · rwa [← List.mem_singleton.1 hmem]

end Router

end FleetRouting
