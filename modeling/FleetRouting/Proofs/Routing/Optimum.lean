import FleetRouting.Proofs.Routing.Ranking
/-!
# FleetRouting.Proofs.Routing.Optimum

**Ranked strategies choose the one best candidate.** As long as no two candidates share an identifier, the lowest load, the
best model match and the lowest projected load each have one winner (`Distinct.optimal_choices`). It comes before every
other candidate in its order, it is found however the candidates are lined up, and it stays when others are taken away
(`Optimal`).
-/

namespace FleetRouting

/-! ### Orders of heads -/

namespace Head

/-- Less loaded, or of the same load and with the smaller identifier. -/
def LessLoaded (a b : Head) : Prop := a.currentLoad < b.currentLoad ∨ a.currentLoad = b.currentLoad ∧ a.id < b.id

/-- A better match, or as good a match and with the smaller identifier. -/
def BetterMatch (c : Criteria) (t : Tuning) (a b : Head) : Prop :=
  modelScore b c t < modelScore a c t ∨ modelScore b c t = modelScore a c t ∧ a.id < b.id

/-- Projected to be less loaded, or to be no more loaded and with the smaller identifier. -/
def LessProjected (t : Tuning) (a b : Head) : Prop :=
  (projectedLoad a t.growthFactor).lt (projectedLoad b t.growthFactor) ∨
    (projectedLoad a t.growthFactor).le (projectedLoad b t.growthFactor) ∧ a.id < b.id

end Head

/-- The choice `a` of the head `head a`, which comes before all other candidates. Nothing but the candidates themselves
decides about it: neither their order, nor whether those that lose are there. -/
structure Optimal {α : Type} (choose : List Head → Option α) (head : α → Head) (before : Head → Head → Prop)
    (candidates : List Head) (a : α) : Prop where
  chosen : choose candidates = some a
  mem : head a ∈ candidates
  first : ∀ b ∈ candidates, b ≠ head a → before (head a) b
  reordered : ∀ l, l.Perm candidates → choose l = some a
  remaining : ∀ l, l.Sublist candidates → head a ∈ l → choose l = some a

namespace Ranks

variable {α β : Type} {better : α → α → Bool} {l : List α}

/-- To rank what a measure tells apart is to rank the elements by it. -/
theorem of_measured {better : β → β → Bool} {measured : α → β} (h : Ranks better (l.map measured))
    (hmeasured : Function.Injective measured) : Ranks (fun a b => better (measured a) (measured b)) l where
  irrefl a := h.irrefl (measured a)
  trans := h.trans
  total a ha b hb := (h.total _ (List.mem_map_of_mem ha) _ (List.mem_map_of_mem hb)).imp_left (@hmeasured a b)

/-- The winner is the optimal choice of a strategy that chooses the winner wherever it is given candidates. -/
theorem exists_optimal {candidates : List Head} (hne : candidates ≠ []) {better : Head → Head → Bool}
    (h : Ranks better candidates) {choose : List Head → Option α} {measured : Head → α}
    (hchoose : ∀ l, (∀ a ∈ l, a ∈ candidates) → choose l = (firstBest? better l).map measured)
    {head : α → Head} (hhead : ∀ a, head (measured a) = a) {before : Head → Head → Prop}
    (hbefore : ∀ a b, better a b → before a b) : ∃ w, Optimal choose head before candidates (measured w) := by
  obtain ⟨w, hmem, hw⟩ := exists_firstBest? better hne
  obtain ⟨-, hbest⟩ := h.firstBest?_eq_some_iff.1 hw
  -- reordered or thinned out, a list with the winner is still one of candidates
  have hdrawn (l : List Head) (hl : ∀ a ∈ l, a ∈ candidates) (hwl : w ∈ l) : choose l = some (measured w) := by
    rw [hchoose l hl, h.firstBest?_of_drawn hw hl hwl, Option.map_some]
  refine ⟨w, hdrawn candidates (fun _ => id) hmem, ?_, ?_, ?_, ?_⟩
  · rwa [hhead]
  · intro b hb hother
    rw [hhead] at hother ⊢
    exact hbefore w b ((hbest b hb).resolve_left hother)
  · intro l hl
    exact hdrawn l (fun _ => hl.mem_iff.1) (hl.mem_iff.2 hmem)
  · intro l hl hwl
    rw [hhead] at hwl
    exact hdrawn l (fun _ => hl.mem) hwl

end Ranks

/-! ### Projected loads can be compared -/

namespace Binary64

theorem le_iff_of_rank {a b : Binary64} {i j : Int} (ha : a.rank? = some i) (hb : b.rank? = some j) : a.le b ↔ i ≤ j := by
  simp only [le, ha, hb, decide_eq_true_eq]

theorem le_total {a b : Binary64} (ha : a.rank?.isSome) (hb : b.rank?.isSome) : a.le b ∨ b.le a := by
  obtain ⟨i, hi⟩ := Option.isSome_iff_exists.1 ha
  obtain ⟨j, hj⟩ := Option.isSome_iff_exists.1 hb
  rw [le_iff_of_rank hi hj, le_iff_of_rank hj hi]
  exact Int.le_total i j

/-- A number is at most as large as one that is not smaller. -/
theorem le_of_not_lt {a b : Binary64} (ha : a.rank?.isSome) (hb : b.rank?.isSome) (h : b.lt a = false) : a.le b := by
  obtain ⟨i, hi⟩ := Option.isSome_iff_exists.1 ha
  obtain ⟨j, hj⟩ := Option.isSome_iff_exists.1 hb
  rw [← Bool.not_eq_true, lt_iff_of_rank hj hi] at h
  exact (le_iff_of_rank hi hj).2 (Int.not_lt.1 h)

end Binary64

/-! ### The three rankings -/

namespace Distinct

section

variable {candidates : List Head} (h : Distinct candidates) (hne : candidates ≠ [])

include h hne

theorem exists_optimal_load : ∃ w, Optimal leastLoaded? id Head.LessLoaded candidates w := by
  show ∃ w, Optimal leastLoaded? id Head.LessLoaded candidates (id w)
  refine h.ranks_load.exists_optimal hne (fun l _ => ?_) (fun _ => rfl) fun a b hab => ?_
  · rw [Option.map_id_fun, id]
    rfl
  · simpa [Head.LessLoaded] using hab

theorem exists_optimal_match (c : Criteria) (t : Tuning) :
    ∃ w, Optimal (modelMatch? · c t) Prod.fst (Head.BetterMatch c t) candidates (w, modelScore w c t) := by
  have hranks := h.ranks_score fun a => modelScore a c t
  refine (hranks.of_measured fun a b hab => congrArg Prod.fst hab).exists_optimal hne (fun l hl => ?_) (fun _ => rfl)
    fun a b hab => ?_
  · -- no two candidates are on a par, so it does not matter that later ones would win ties
    refine (hranks.mono fun x hx => ?_).lastBest?_eq.trans (Ranks.firstBest?_measured _ _ l)
    obtain ⟨a, ha, rfl⟩ := List.mem_map.1 hx
    exact List.mem_map_of_mem (hl a ha)
  · simpa [Head.BetterMatch] using hab

theorem exists_optimal_projection (t : Tuning) :
    ∃ w, Optimal (lowestProjected? · t) Prod.fst (Head.LessProjected t) candidates (w, projectedLoad w t.growthFactor) := by
  refine (h.ranks_projectedLoad t.growthFactor).exists_optimal hne (fun l _ => ?_) (fun _ => rfl) fun a b hab => ?_
  · exact Ranks.firstBest?_measured _ _ l
  · simp only [Bool.or_eq_true, Bool.and_eq_true, Bool.not_eq_true', decide_eq_true_eq] at hab
    refine hab.imp_right (And.imp_left fun hnot => ?_)
    exact Binary64.le_of_not_lt (isSome_rank?_projectedLoad a _) (isSome_rank?_projectedLoad b _) hnot

/-- **Each ranked strategy chooses the one best candidate**: the lowest load, the highest score or the lowest projected
load, and among equal ones the smallest identifier. Projected loads can always be compared, as they are numbers. The
choice is the same for every order of the candidates, and whatever others are taken away. -/
theorem optimal_choices (c : Criteria) (t : Tuning) :
    (∃ w, Optimal leastLoaded? id Head.LessLoaded candidates w) ∧
      (∃ w, Optimal (modelMatch? · c t) Prod.fst (Head.BetterMatch c t) candidates (w, modelScore w c t)) ∧
        (∃ w, Optimal (lowestProjected? · t) Prod.fst (Head.LessProjected t) candidates
          (w, projectedLoad w t.growthFactor)) ∧
          ∀ a b : Head, (projectedLoad a t.growthFactor).le (projectedLoad b t.growthFactor) ∨
            (projectedLoad b t.growthFactor).le (projectedLoad a t.growthFactor) := by
  refine ⟨h.exists_optimal_load hne, h.exists_optimal_match hne c t, h.exists_optimal_projection hne t, fun a b => ?_⟩
  exact Binary64.le_total (isSome_rank?_projectedLoad a _) (isSome_rank?_projectedLoad b _)

end

/-- Two heads of one load and one score, of which the first by name was busier of late: it is chosen by load and by match,
and the other one by projection, in whatever order they and a third one stand. -/
theorem optimal_choices_tied :
    let head (id : String) (load : UInt32) (history : List UInt32) : Head :=
      ⟨id, "http://" ++ id, .active, load, history, "", "m", "1", .empty, ⟨0, 0⟩, ⟨0, 0⟩, 0, 0⟩
    let candidates := [head "b" 5 [5], head "a" 5 [5, 9], head "c" 9 []]
    let c : Criteria := { modelType := "m" }
    let t : Tuning := .ofPolicy {}
    Distinct candidates ∧ ∀ l, l.Perm candidates →
      (leastLoaded? l).map Head.id = some "a" ∧ (modelMatch? l c t).map (fun w => (w.1.id, w.2)) = some ("a", 1) ∧
        (lowestProjected? l t).map (fun w => w.1.id) = some "b" := by
  intro head candidates c t
  have hdistinct : Distinct candidates := by unfold Distinct; decide
  obtain ⟨⟨a, ha⟩, ⟨b, hb⟩, ⟨d, hd⟩, -⟩ := hdistinct.optimal_choices (by decide) c t
  refine ⟨hdistinct, fun l hl => ⟨?_, ?_, ?_⟩⟩
  · rw [ha.reordered l hl, ← ha.chosen]
    decide +kernel
  · rw [hb.reordered l hl, ← hb.chosen]
    decide +kernel
  · rw [hd.reordered l hl, ← hd.chosen]
    decide +kernel

end Distinct

end FleetRouting
