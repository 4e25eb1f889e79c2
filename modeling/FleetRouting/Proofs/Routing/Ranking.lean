import FleetRouting.Proofs.Registry
import FleetRouting.Routing.Ranking
import Mathlib.Order.Lattice
import Mathlib.Tactic.Common
/-!
# FleetRouting.Proofs.Routing.Ranking

**Winners of rankings.** Every ranking finds one of its candidates, as soon as there are any. An order that tells any
two candidates apart has a winner that does not depend on how the candidates are gone through: it is the one that is
better than every other (`Ranks.firstBest?_eq_some_iff`). So a winner stays the winner when others leave, and when all
candidates change without a change of their order. Both are stated for the rankings by load and by model match.
-/

namespace FleetRouting

/-! ### Every ranking finds a candidate -/

/-- A fold that keeps one of two elements ends with an element of the list. -/
theorem foldl_mem {α : Type} {pick : α → α → α} (hpick : ∀ a b, pick a b = a ∨ pick a b = b) (a : α) (l : List α) :
    l.foldl pick a ∈ a :: l := by
  induction l generalizing a with
  | nil => exact List.mem_singleton_self a
  | cons b l ih =>
      rw [List.foldl_cons]
      rcases List.mem_cons.1 (ih (pick a b)) with heq | hmem
      · rw [heq]
        rcases hpick a b with hpicked | hpicked
        · rw [hpicked]
          exact List.mem_cons_self ..
        · rw [hpicked]
          exact List.mem_cons_of_mem a (List.mem_cons_self ..)
      · exact List.mem_cons_of_mem a (List.mem_cons_of_mem b hmem)

theorem exists_firstBest? {α : Type} (better : α → α → Bool) {l : List α} (hl : l ≠ []) :
    ∃ a ∈ l, firstBest? better l = some a := by
  cases l with
  | nil => exact absurd rfl hl
  | cons a l => exact ⟨_, foldl_mem (fun a b => (ite_eq_or_eq (better b a = true) b a).symm) a l, rfl⟩

theorem exists_lastBest? {α : Type} (worse : α → α → Bool) {l : List α} (hl : l ≠ []) :
    ∃ a ∈ l, lastBest? worse l = some a := by
  cases l with
  | nil => exact absurd rfl hl
  | cons a l => exact ⟨_, foldl_mem (fun a b => ite_eq_or_eq (worse b a = true) a b) a l, rfl⟩

section

variable {candidates : List Head} {c : Criteria} {t : Tuning}

theorem exists_modelMatch? (h : candidates ≠ []) :
    ∃ a ∈ candidates, ∃ score, modelMatch? candidates c t = some (a, score) := by
  obtain ⟨w, hw, hbest⟩ := exists_lastBest? _ (List.map_eq_nil_iff.not.2 h)
  obtain ⟨a, ha, rfl⟩ := List.mem_map.1 hw
  exact ⟨a, ha, modelScore a c t, hbest⟩

theorem mem_of_modelMatch? {a : Head} {score : Nat} (hmatch : modelMatch? candidates c t = some (a, score)) :
    a ∈ candidates := by
  have hne : candidates ≠ [] := by
    rintro rfl
    cases hmatch
  obtain ⟨best, hbest, score', hmatch'⟩ := exists_modelMatch? hne (c := c) (t := t)
  obtain ⟨rfl, -⟩ := Prod.mk.inj (Option.some.inj (hmatch'.symm.trans hmatch))
  exact hbest

theorem exists_lowestProjected? (h : candidates ≠ []) :
    ∃ a ∈ candidates, ∃ load, lowestProjected? candidates t = some (a, load) := by
  obtain ⟨w, hw, hbest⟩ := exists_firstBest? _ (List.map_eq_nil_iff.not.2 h)
  obtain ⟨a, ha, rfl⟩ := List.mem_map.1 hw
  exact ⟨a, ha, projectedLoad a t.growthFactor, hbest⟩

end

/-! ### Orders that tell candidates apart -/

/-- A strict order that tells apart any two different elements of a list. -/
structure Ranks {α : Type} (better : α → α → Bool) (l : List α) : Prop where
  irrefl (a : α) : better a a = false
  trans {a b c : α} : better a b → better b c → better a c
  total : ∀ a ∈ l, ∀ b ∈ l, a = b ∨ better a b ∨ better b a

namespace Ranks

variable {α β κ : Type} {better : α → α → Bool} {l : List α}

theorem mono (h : Ranks better l) {l' : List α} (hsub : ∀ a ∈ l', a ∈ l) : Ranks better l' :=
  ⟨h.irrefl, h.trans, fun a ha b hb => h.total a (hsub a ha) b (hsub b hb)⟩

theorem asymm (h : Ranks better l) {a b : α} (hab : better a b) : better b a = false := by
  cases hba : better b a with
  | false => rfl
  | true => exact absurd (h.trans hab hba) (by rw [h.irrefl a]; exact Bool.false_ne_true)

/-- An order by a measure, and among equal measures by a name that no two elements share. -/
theorem of_key [LinearOrder κ] (key : α → κ) (name : α → String)
    (hbetter : ∀ a b, better a b = true ↔ key a < key b ∨ key a = key b ∧ name a < name b)
    (hname : ∀ a ∈ l, ∀ b ∈ l, name a = name b → a = b) : Ranks better l where
  irrefl a := by
    rw [Bool.eq_false_iff, ne_eq, hbetter]
    rintro (hkey | ⟨-, hlt⟩)
    · exact lt_irrefl _ hkey
    · exact String.lt_irrefl _ hlt
  trans {a b c} hab hbc := by
    rw [hbetter] at hab hbc ⊢
    rcases hab with hab | ⟨hab, hname⟩
    · rcases hbc with hbc | ⟨hbc, -⟩
      · exact .inl (hab.trans hbc)
      · exact .inl (hbc ▸ hab)
    · rcases hbc with hbc | ⟨hbc, hname'⟩
      · exact .inl (hab ▸ hbc)
      · exact .inr ⟨hab.trans hbc, String.lt_trans hname hname'⟩
  total a ha b hb := by
    rw [hbetter, hbetter]
    rcases lt_trichotomy (key a) (key b) with hkey | hkey | hkey
    · exact .inr (.inl (.inl hkey))
    -- equal measures are told apart by their names, and equal names are one element
    · by_cases hlt : name a < name b
      · exact .inr (.inl (.inr ⟨hkey, hlt⟩))
      · by_cases hgt : name b < name a
        · exact .inr (.inr (.inr ⟨hkey.symm, hgt⟩))
        · exact .inl (hname a ha b hb (KeyOrder.eq_of_not_lt hlt hgt))
    · exact .inr (.inr (.inl hkey))

/-- What is better than a winner over `a` is better than `a`. -/
theorem wins_of_wins (h : Ranks better l) {a pick w : α} (hw : pick = w ∨ better w pick)
    (hpick : a = pick ∨ better pick a) : a = w ∨ better w a := by
  rcases hpick with rfl | hpick
  · exact hw
  · rcases hw with rfl | hw
    · exact .inr hpick
    · exact .inr (h.trans hw hpick)

/-- The better one of two elements is one of them, whatever follows. -/
theorem mem_of_mem_pick {a b x : α} {p : Bool} (hx : x ∈ (if p then b else a) :: l) : x ∈ a :: b :: l := by
  rcases List.mem_cons.1 hx with rfl | hx
  · cases p with
    | true => exact List.mem_cons_of_mem _ (List.mem_cons_self ..)
    | false => exact List.mem_cons_self ..
  · exact List.mem_cons_of_mem _ (List.mem_cons_of_mem _ hx)

/-- Going through a list keeps the element that is better than every other. -/
theorem foldl_wins {a : α} (h : Ranks better (a :: l)) :
    l.foldl (fun best b => if better b best then b else best) a ∈ a :: l ∧
      ∀ b ∈ a :: l, b = l.foldl (fun best b => if better b best then b else best) a ∨
        better (l.foldl (fun best b => if better b best then b else best) a) b := by
  induction l generalizing a with
  | nil => exact ⟨List.mem_singleton_self a, fun b hb => .inl (List.mem_singleton.1 hb)⟩
  | cons b l ih =>
      have hb : b ∈ a :: b :: l := List.mem_cons_of_mem a (List.mem_cons_self ..)
      obtain ⟨hmem, hwins⟩ := ih (h.mono fun x => mem_of_mem_pick (p := better b a))
      rw [List.foldl_cons]
      refine ⟨mem_of_mem_pick hmem, fun x hx => ?_⟩
      -- the pick wins over both, and the winner over the pick
      have hpick := hwins _ (List.mem_cons_self ..)
      rcases List.mem_cons.1 hx with rfl | hx
      · refine h.wins_of_wins hpick ?_
        cases hba : better b x with
        | true => exact .inr hba
        | false => exact .inl rfl
      · rcases List.mem_cons.1 hx with rfl | hx
        · refine h.wins_of_wins hpick ?_
          cases hba : better x a with
          | true => exact .inl rfl
          | false =>
              have htotal := h.total x hb a (List.mem_cons_self ..)
              simpa [hba] using htotal
        · exact hwins x (List.mem_cons_of_mem _ hx)

/-- The winner is the one element that is better than every other. -/
theorem firstBest?_eq_some_iff (h : Ranks better l) {w : α} :
    firstBest? better l = some w ↔ w ∈ l ∧ ∀ b ∈ l, b = w ∨ better w b := by
  cases l with
  | nil => simp [firstBest?]
  | cons a l =>
      obtain ⟨hmem, hwins⟩ := h.foldl_wins
      constructor
      · rintro hw
        obtain rfl := Option.some.inj hw
        exact ⟨hmem, hwins⟩
      · rintro ⟨hw, hbest⟩
        refine congrArg some ?_
        rcases hbest _ hmem with heq | hlt
        · exact heq
        · rcases hwins w hw with heq | hgt
          · exact heq.symm
          · rw [h.asymm hlt] at hgt
            cases hgt

/-- A winner wins over whatever is drawn from the list along with it. -/
theorem firstBest?_of_drawn (h : Ranks better l) {w : α} (hw : firstBest? better l = some w) {l' : List α}
    (hdrawn : ∀ a ∈ l', a ∈ l) (hmem : w ∈ l') : firstBest? better l' = some w := by
  obtain ⟨-, hbest⟩ := h.firstBest?_eq_some_iff.1 hw
  exact (h.mono hdrawn).firstBest?_eq_some_iff.2 ⟨hmem, fun b hb => hbest b (hdrawn b hb)⟩

/-- A winner stays the winner when others leave. -/
theorem firstBest?_filter (h : Ranks better l) {w : α} {p : α → Bool}
    (hw : firstBest? better l = some w) (hp : p w) : firstBest? better (l.filter p) = some w := by
  obtain ⟨hmem, -⟩ := h.firstBest?_eq_some_iff.1 hw
  exact h.firstBest?_of_drawn hw (fun a ha => (List.mem_filter.1 ha).1) (List.mem_filter.2 ⟨hmem, hp⟩)

/-- A change of all elements that keeps their order changes the winner like the others. -/
theorem firstBest?_map {better' : β → β → Bool} {f : α → β} (h : Ranks better l)
    (h' : Ranks better' (l.map f)) (hf : ∀ a ∈ l, ∀ b ∈ l, better a b → better' (f a) (f b)) :
    firstBest? better' (l.map f) = (firstBest? better l).map f := by
  cases hw : firstBest? better l with
  | none =>
      cases l with
      | nil => rfl
      | cons a l => cases hw
  | some w =>
      obtain ⟨hmem, hbest⟩ := h.firstBest?_eq_some_iff.1 hw
      refine h'.firstBest?_eq_some_iff.2 ⟨List.mem_map_of_mem hmem, fun b hb => ?_⟩
      obtain ⟨a, ha, rfl⟩ := List.mem_map.1 hb
      exact (hbest a ha).imp (congrArg f) (hf w hmem a ha)

/-- Where no two elements are equally good, it does not matter that later ones win ties. -/
theorem lastBest?_eq (h : Ranks better l) : lastBest? (fun a b => better b a) l = firstBest? better l := by
  have hfold : ∀ (l : List α) (a : α), Ranks better (a :: l) →
      l.foldl (fun best b => if better best b then best else b) a =
        l.foldl (fun best b => if better b best then b else best) a := by
    intro l
    induction l with
    | nil => exact fun _ _ => rfl
    | cons b l ih =>
        intro a h
        -- the two folds can only differ where neither of two elements is better
        have hpick : (if better a b then a else b) = if better b a then b else a := by
          rcases h.total a (List.mem_cons_self ..) b (List.mem_cons_of_mem _ (List.mem_cons_self ..)) with
            rfl | hab | hba
          · rfl
          · rw [hab, h.asymm hab]
            rfl
          · rw [hba, h.asymm hba]
            rfl
        rw [List.foldl_cons, List.foldl_cons, hpick]
        exact ih _ (h.mono fun x => mem_of_mem_pick)
  cases l with
  | nil => rfl
  | cons a l => exact congrArg some (hfold l a h)

/-- To rank what a measure gives of the elements is to rank the elements by the measure. -/
theorem firstBest?_measured (better : β → β → Bool) (f : α → β) (l : List α) :
    firstBest? better (l.map f) = (firstBest? (fun a b => better (f a) (f b)) l).map f := by
  cases l with
  | nil => rfl
  | cons a l =>
      refine congrArg some ?_
      induction l generalizing a with
      | nil => rfl
      | cons b l ih =>
          rw [List.map_cons, List.foldl_cons, List.foldl_cons, ← apply_ite f]
          exact ih _

end Ranks

/-! ### Projected loads -/

namespace Binary64

theorem lt_iff_of_rank {a b : Binary64} {i j : Int} (ha : a.rank? = some i) (hb : b.rank? = some j) :
    a.lt b ↔ i < j := by
  simp only [lt, ha, hb, decide_eq_true_eq]

theorem isSome_rank?_round (negative : Bool) (num den : Nat) : (round negative num den).rank?.isSome := by
  unfold round
  simp only
  split <;> cases negative <;> rfl

/-- The larger of two values is a number if one of them is. -/
theorem isSome_rank?_max {a b : Binary64} (hb : b.rank?.isSome) : (a.max b).rank?.isSome := by
  unfold max
  split
  · exact hb
  · cases hb
  · next hnan _ =>
      split
      · exact hb
      · cases a with
        | nan => exact absurd rfl hnan
        | infinite negative => cases negative <;> rfl
        | finite negative units => cases negative <;> rfl

end Binary64

/-- A projected load is always a number. -/
theorem isSome_rank?_projectedLoad (h : Head) (growth : Binary64) : (projectedLoad h growth).rank?.isSome := by
  have hload : h.load.rank?.isSome := by
    rw [Head.load, Binary64.ofNat]
    exact Binary64.isSome_rank?_round _ _ _
  unfold projectedLoad
  split
  · exact Binary64.isSome_rank?_max hload
  · exact hload

/-! ### Rankings of heads -/

namespace Distinct

variable {heads : List Head}

/-- By load the heads are ranked. -/
theorem ranks_load (h : Distinct heads) :
    Ranks (fun a b : Head => a.currentLoad < b.currentLoad ||
      (a.currentLoad == b.currentLoad && decide (a.id < b.id))) heads := by
  refine .of_key (·.currentLoad.toNat) Head.id (fun a b => ?_) fun a ha b hb => h.eq_of_id_eq ha hb
  simp only [Bool.or_eq_true, Bool.and_eq_true, decide_eq_true_eq, beq_iff_eq, UInt32.lt_iff_toNat_lt,
    UInt32.toNat_inj]

/-- By any score the heads are ranked, the highest first. -/
theorem ranks_score (h : Distinct heads) (score : Head → Nat) :
    Ranks (fun a b : Head × Nat => decide (b.2 < a.2) || (b.2 == a.2 && decide (a.1.id < b.1.id)))
      (heads.map fun a => (a, score a)) := by
  refine .of_key (fun a => OrderDual.toDual a.2) (fun a => a.1.id) (fun a b => ?_) fun x hx y hy hid => ?_
  · simp only [Bool.or_eq_true, Bool.and_eq_true, decide_eq_true_eq, beq_iff_eq, OrderDual.toDual_lt_toDual,
      OrderDual.toDual_inj, eq_comm (a := b.2)]
  · obtain ⟨a, ha, rfl⟩ := List.mem_map.1 hx
    obtain ⟨b, hb, rfl⟩ := List.mem_map.1 hy
    obtain rfl := h.eq_of_id_eq ha hb hid
    rfl

theorem leastLoaded?_filter (h : Distinct heads) {w : Head} {p : Head → Bool}
    (hw : leastLoaded? heads = some w) (hp : p w) : leastLoaded? (heads.filter p) = some w :=
  h.ranks_load.firstBest?_filter hw hp

theorem leastLoaded?_map (h : Distinct heads) {f : Head → Head}
    (hf : ∀ a ∈ heads, (f a).id = a.id ∧ (f a).currentLoad = a.currentLoad) :
    leastLoaded? (heads.map f) = (leastLoaded? heads).map f := by
  refine h.ranks_load.firstBest?_map (h.map fun a ha => (hf a ha).1).ranks_load fun a ha b hb hab => ?_
  rw [(hf a ha).1, (hf a ha).2, (hf b hb).1, (hf b hb).2]
  exact hab

theorem modelMatch?_eq (h : Distinct heads) (c : Criteria) (t : Tuning) :
    modelMatch? heads c t =
      firstBest? (fun a b : Head × Nat => decide (b.2 < a.2) || (b.2 == a.2 && decide (a.1.id < b.1.id)))
        (heads.map fun a => (a, modelScore a c t)) :=
  (h.ranks_score _).lastBest?_eq

theorem modelMatch?_filter (h : Distinct heads) {c : Criteria} {t : Tuning} {w : Head × Nat} {p : Head → Bool}
    (hw : modelMatch? heads c t = some w) (hp : p w.1) : modelMatch? (heads.filter p) c t = some w := by
  rw [h.modelMatch?_eq] at hw
  rw [(h.filter p).modelMatch?_eq]
  have hkept := (h.ranks_score fun a => modelScore a c t).firstBest?_filter (p := fun a => p a.1) hw hp
  rwa [List.filter_map] at hkept

theorem modelMatch?_map (h : Distinct heads) {c : Criteria} {t : Tuning} {f : Head → Head}
    (hf : ∀ a ∈ heads, (f a).id = a.id ∧ modelScore (f a) c t = modelScore a c t) :
    modelMatch? (heads.map f) c t = (modelMatch? heads c t).map fun w => (f w.1, w.2) := by
  have hscores : (heads.map f).map (fun a => (a, modelScore a c t)) =
      (heads.map fun a => (a, modelScore a c t)).map fun w => (f w.1, w.2) := by
    rw [List.map_map, List.map_map]
    exact List.map_congr_left fun a ha => Prod.ext rfl (hf a ha).2
  have hranks := (h.map fun a ha => (hf a ha).1).ranks_score fun a => modelScore a c t
  rw [h.modelMatch?_eq, (h.map fun a ha => (hf a ha).1).modelMatch?_eq]
  rw [hscores] at hranks ⊢
  refine (h.ranks_score _).firstBest?_map hranks fun x hx y hy hxy => ?_
  obtain ⟨a, ha, rfl⟩ := List.mem_map.1 hx
  obtain ⟨b, hb, rfl⟩ := List.mem_map.1 hy
  simp only [(hf a ha).1, (hf b hb).1]
  exact hxy

/-- By projected load the heads are ranked. -/
theorem ranks_projectedLoad (h : Distinct heads) (growth : Binary64) :
    Ranks (fun a b : Head => (projectedLoad a growth).lt (projectedLoad b growth) ||
      (!(projectedLoad b growth).lt (projectedLoad a growth) && decide (a.id < b.id))) heads := by
  have hrank (a : Head) := Option.some_get (isSome_rank?_projectedLoad a growth) |>.symm
  refine .of_key (fun a => (projectedLoad a growth).rank?.get (isSome_rank?_projectedLoad a growth)) Head.id
    (fun a b => ?_) fun a ha b hb => h.eq_of_id_eq ha hb
  simp only [Bool.or_eq_true, Bool.and_eq_true, Bool.not_eq_true', decide_eq_true_eq, ← Bool.not_eq_true,
    Binary64.lt_iff_of_rank (hrank a) (hrank b), Binary64.lt_iff_of_rank (hrank b) (hrank a)]
  constructor
  · rintro (hlt | ⟨hnot, hid⟩)
    · exact .inl hlt
    · exact (lt_or_eq_of_le (not_lt.1 hnot)).imp id fun heq => ⟨heq, hid⟩
  · rintro (hlt | ⟨heq, hid⟩)
    · exact .inl hlt
    · exact .inr ⟨heq ▸ lt_irrefl _, hid⟩

theorem lowestProjected?_filter (h : Distinct heads) {t : Tuning} {w : Head × Binary64} {p : Head → Bool}
    (hw : lowestProjected? heads t = some w) (hp : p w.1) : lowestProjected? (heads.filter p) t = some w := by
  rw [lowestProjected?, Ranks.firstBest?_measured] at hw ⊢
  obtain ⟨a, ha, rfl⟩ := Option.map_eq_some_iff.1 hw
  rw [(h.ranks_projectedLoad t.growthFactor).firstBest?_filter ha hp]
  rfl

end Distinct

end FleetRouting
