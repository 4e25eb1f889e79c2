import FleetRouting.Registry
import Mathlib.Data.List.Nodup
import Mathlib.Tactic.Common
/-!
# FleetRouting.Proofs.Registry

**What changes of the registry do to its heads.** Every operation keeps the identifiers distinct, so a change of one
head is seen in the listing of its own model type alone: there the head is refreshed in its place, or it leaves.
-/

namespace FleetRouting

/-! ### Heads that differ by their identifiers -/

/-- Heads of which no two have one identifier. -/
def Distinct (heads : List Head) : Prop := (heads.map Head.id).Nodup

namespace Distinct

variable {heads : List Head}

theorem eq_of_id_eq (h : Distinct heads) {a b : Head} (ha : a ∈ heads) (hb : b ∈ heads) (hid : a.id = b.id) :
    a = b :=
  List.inj_on_of_nodup_map h ha hb hid

theorem filter (h : Distinct heads) (p : Head → Bool) : Distinct (heads.filter p) :=
  h.sublist (List.filter_sublist.map Head.id)

/-- Identifiers stay distinct when heads change otherwise. -/
theorem map (h : Distinct heads) {f : Head → Head} (hid : ∀ a ∈ heads, (f a).id = a.id) :
    Distinct (heads.map f) := by
  have hids : (heads.map f).map Head.id = heads.map Head.id := by
    rw [List.map_map]
    exact List.map_congr_left hid
  rw [Distinct, hids]
  exact h

/-- A head with a new identifier may follow. -/
theorem append (h : Distinct heads) {a : Head} (hnew : ∀ b ∈ heads, b.id ≠ a.id) : Distinct (heads ++ [a]) := by
  rw [Distinct, List.map_append, List.nodup_append]
  refine ⟨h, List.nodup_singleton _, fun id hid id' hid' => ?_⟩
  obtain ⟨b, hb, rfl⟩ := List.mem_map.1 hid
  rw [List.mem_singleton.1 hid']
  exact hnew b hb

end Distinct

/-- A head, or the one that takes its place. -/
def Head.unless (new h : Head) : Head := if h.id = new.id then new else h

theorem Head.unless_id (new h : Head) : (new.unless h).id = h.id := by
  unfold Head.unless
  split
  · next hid => exact hid.symm
  · rfl

namespace Registry

/-! ### Looking up -/

theorem get?_eq_some {r : Registry} {id : String} {h : Head} (hget : r.get? id = some h) :
    h ∈ r.heads ∧ h.id = id :=
  ⟨List.mem_of_find?_eq_some hget, beq_iff_eq.1 (List.find?_some (p := fun h : Head => h.id == id) hget)⟩

theorem get?_eq_none {r : Registry} {id : String} (hget : r.get? id = none) : ∀ h ∈ r.heads, h.id ≠ id := by
  intro h hh hid
  exact List.find?_eq_none.1 hget h hh (beq_iff_eq.2 hid)

/-- A head is found under its identifier. -/
theorem get?_of_mem {r : Registry} (hr : Distinct r.heads) {h : Head} (hh : h ∈ r.heads) :
    r.get? h.id = some h := by
  cases hget : r.get? h.id with
  | none => exact absurd rfl (get?_eq_none hget h hh)
  | some h' =>
      obtain ⟨hmem, hid⟩ := get?_eq_some hget
      rw [hr.eq_of_id_eq hmem hh hid]

theorem mem_listActive {r : Registry} {m : String} {h : Head} :
    h ∈ r.listActive m ↔ h ∈ r.heads ∧ h.isActive ∧ h.modelType = m := by
  simp only [listActive, List.mem_filter, Bool.and_eq_true, beq_iff_eq]

/-! ### One head in the place of another -/

theorem heads_replace (r : Registry) (new : Head) : (r.replace new).heads = r.heads.map new.unless := rfl

theorem distinct_replace {r : Registry} (hr : Distinct r.heads) (new : Head) :
    Distinct (r.replace new).heads :=
  hr.map fun a _ => new.unless_id a

/-- What the new head has in common with the old one, the listing shows as before. -/
theorem map_replace {β : Type} {r : Registry} (hr : Distinct r.heads) {new old : Head}
    (hold : r.get? new.id = some old) {f : Head → β} (hf : f new = f old) :
    (r.replace new).heads.map f = r.heads.map f := by
  rw [heads_replace, List.map_map]
  refine List.map_congr_left fun h hh => ?_
  simp only [Function.comp, Head.unless]
  split
  · next hid =>
      obtain rfl := Option.some.inj (hold.symm.trans (hid ▸ get?_of_mem hr hh))
      exact hf
  · rfl

/-- A head is found in the place that it took. -/
theorem get?_replace {r : Registry} {id : String} {new known : Head} (hid : new.id = id)
    (hknown : r.get? id = some known) : (r.replace new).get? id = some new := by
  have hids : (fun h : Head => h.id == id) ∘ new.unless = fun h => h.id == id :=
    funext fun h => by rw [Function.comp, Head.unless_id]
  have hplace : known.id = new.id := (get?_eq_some hknown).2.trans hid.symm
  rw [get?, heads_replace, List.find?_map, hids, ← get?, hknown, Option.map_some, Head.unless, if_pos hplace]

/-- A listing in which the new head is no more has lost the old one. -/
theorem listActive_replace_of_left (r : Registry) {new : Head} {m : String}
    (hleft : (new.isActive && new.modelType == m) = false) :
    (r.replace new).listActive m = (r.listActive m).filter fun h => h.id ≠ new.id := by
  rw [listActive, listActive, heads_replace]
  induction r.heads with
  | nil => rfl
  | cons h heads ih =>
      rw [List.map_cons, List.filter_cons, List.filter_cons, ih, Head.unless]
      by_cases hid : h.id = new.id
      · rw [if_pos hid, hleft, if_neg Bool.false_ne_true]
        split
        · rw [List.filter_cons, if_neg (by simpa using hid)]
        · rfl
      · rw [if_neg hid]
        split
        · rw [List.filter_cons, if_pos (by simpa using hid)]
        · rfl

/-- A listing in which the new head is where the old one was. -/
theorem listActive_replace_of_stayed (r : Registry) {new : Head} {m : String}
    (hstayed : ∀ h ∈ r.heads, h.id = new.id →
      (h.isActive && h.modelType == m) = (new.isActive && new.modelType == m)) :
    (r.replace new).listActive m = (r.listActive m).map new.unless := by
  rw [listActive, heads_replace, List.filter_map]
  refine congrArg (List.map new.unless) (List.filter_congr fun h hh => ?_)
  simp only [Function.comp, Head.unless]
  split
  · next hid => exact (hstayed h hh hid).symm
  · rfl

/-- A listing that had neither head is as it was. -/
theorem listActive_replace_of_other {r : Registry} {new : Head} {m : String}
    (hnew : (new.isActive && new.modelType == m) = false)
    (hold : ∀ h ∈ r.heads, h.id = new.id → (h.isActive && h.modelType == m) = false) :
    (r.replace new).listActive m = r.listActive m := by
  rw [listActive_replace_of_left r hnew]
  refine List.filter_eq_self.2 fun h hh => decide_eq_true fun hid => ?_
  obtain ⟨hmem, hlisted⟩ := List.mem_filter.1 hh
  rw [hold h hmem hid] at hlisted
  cases hlisted

/-! ### Registration -/

theorem register_id (r : Registry) (q : Registration) (now : Timestamp) :
    (r.register q now).1.id = q.headId := by
  unfold register
  cases r.get? q.headId <;> rfl

theorem register_modelType (r : Registry) (q : Registration) (now : Timestamp) :
    (r.register q now).1.modelType = q.modelType := by
  unfold register
  cases r.get? q.headId <;> rfl

theorem heads_register_of_known {r : Registry} {q : Registration} {known : Head} (now : Timestamp)
    (hknown : r.get? q.headId = some known) :
    (r.register q now).2.heads = r.heads.map (r.register q now).1.unless := by
  simp only [register, hknown]
  rfl

theorem heads_register_of_new {r : Registry} {q : Registration} (now : Timestamp)
    (hnew : r.get? q.headId = none) :
    (r.register q now).2.heads = r.heads ++ [(r.register q now).1] := by
  simp only [register, hnew]

theorem get?_register (r : Registry) (q : Registration) (now : Timestamp) :
    (r.register q now).2.get? q.headId = some (r.register q now).1 := by
  cases hget : r.get? q.headId with
  | some known =>
      simp only [register, hget]
      exact get?_replace rfl hget
  | none =>
      rw [get?, heads_register_of_new now hget, List.find?_append, ← get?, hget, Option.none_or,
        List.find?_singleton, register_id, beq_self_eq_true, if_pos rfl]

theorem distinct_register {r : Registry} (hr : Distinct r.heads) (q : Registration) (now : Timestamp) :
    Distinct (r.register q now).2.heads := by
  cases hget : r.get? q.headId with
  | some known =>
      rw [heads_register_of_known now hget]
      exact distinct_replace hr _
  | none =>
      rw [heads_register_of_new now hget]
      refine hr.append fun b hb => ?_
      rw [register_id]
      exact get?_eq_none hget b hb

/-- A registration is seen under the old and the new model type of the head alone. -/
theorem listActive_register_of_other {r : Registry} (hr : Distinct r.heads) {q : Registration} {m : String}
    (now : Timestamp) (hm : q.modelType ≠ m)
    (hold : ∀ known, r.get? q.headId = some known → known.modelType ≠ m) :
    (r.register q now).2.listActive m = r.listActive m := by
  have hhead : ((r.register q now).1.isActive && (r.register q now).1.modelType == m) = false := by
    rw [register_modelType, beq_eq_false_iff_ne.2 hm, Bool.and_false]
  cases hget : r.get? q.headId with
  | some known =>
      rw [listActive, heads_register_of_known now hget]
      refine listActive_replace_of_other hhead fun h hh hid => ?_
      rw [register_id] at hid
      obtain rfl := Option.some.inj (hget.symm.trans (hid ▸ get?_of_mem hr hh))
      rw [beq_eq_false_iff_ne.2 (hold known hget), Bool.and_false]
  | none =>
      rw [listActive, heads_register_of_new now hget, List.filter_append, List.filter_singleton, hhead]
      exact List.append_nil _

/-! ### Changes of a known head -/

/-- What a change finds, makes, and leaves behind. -/
theorem change?_eq_some {r : Registry} {id : String} {f : Head → Head} {change : StatusChange} {r' : Registry}
    (hchange : r.change? id f = some (change, r')) :
    r.get? id = some change.previous ∧
      change.current = { f change.previous with revision := r.lastRevision + 1 } ∧
      r' = { r.replace change.current with lastRevision := r.lastRevision + 1 } := by
  obtain ⟨previous, hget, heq⟩ := Option.map_eq_some_iff.1 hchange
  injection heq with hleft hright
  subst hleft
  exact ⟨hget, rfl, hright.symm⟩

theorem get?_change? {r : Registry} {id : String} {f : Head → Head} {change : StatusChange} {r' : Registry}
    (hchange : r.change? id f = some (change, r')) (hf : ∀ h, (f h).id = h.id) :
    r'.get? id = some change.current := by
  obtain ⟨hget, hcurrent, rfl⟩ := change?_eq_some hchange
  refine get?_replace ?_ hget
  rw [hcurrent]
  exact (hf _).trans (get?_eq_some hget).2

/-- A change of a head is refused exactly if the head is not known. -/
theorem change?_eq_none {r : Registry} {id : String} {f : Head → Head} :
    r.change? id f = none ↔ ∀ h ∈ r.heads, h.id ≠ id := by
  rw [change?, Option.map_eq_none_iff, get?, List.find?_eq_none]
  simp only [beq_iff_eq, ne_eq]

theorem distinct_change? {r : Registry} (hr : Distinct r.heads) {id : String} {f : Head → Head}
    {change : StatusChange} {r' : Registry} (hchange : r.change? id f = some (change, r')) :
    Distinct r'.heads := by
  obtain ⟨-, -, rfl⟩ := change?_eq_some hchange
  exact distinct_replace hr _

/-- The head that a change finds is the only one of its identifier. -/
theorem eq_previous {r : Registry} (hr : Distinct r.heads) {id : String} {f : Head → Head} {change : StatusChange}
    {r' : Registry} (hchange : r.change? id f = some (change, r')) (hf : ∀ h, (f h).id = h.id) {a : Head}
    (ha : a ∈ r.heads) (haid : a.id = change.current.id) : a = change.previous := by
  obtain ⟨hget, hcurrent, -⟩ := change?_eq_some hchange
  have hid : change.current.id = change.previous.id := by
    rw [hcurrent]
    exact hf _
  exact hr.eq_of_id_eq ha (get?_eq_some hget).1 (haid.trans hid)

/-- A head that is taken out of routing leaves the listing of its model type. -/
theorem listActive_deactivate? {r : Registry} {id : String} {change : StatusChange} {r' : Registry}
    (hchange : r.deactivate? id = some (change, r')) (m : String) :
    r'.listActive m = (r.listActive m).filter fun h => h.id ≠ id := by
  obtain ⟨hget, hcurrent, rfl⟩ := change?_eq_some hchange
  have hid : change.current.id = id := by
    rw [hcurrent]
    exact (get?_eq_some hget).2
  have hinactive : change.current.isActive = false := by
    rw [hcurrent]
    rfl
  rw [← hid]
  exact listActive_replace_of_left r (by rw [hinactive, Bool.false_and])

/-! ### Silent heads -/

/-- Every head is come by once. -/
theorem visit_perm (order : List String) (heads : List Head) : (visit order heads).Perm heads := by
  induction order generalizing heads with
  | nil => exact .refl heads
  | cons id order ih =>
      have hsplit := List.filter_append_perm (fun h : Head => decide (h.id = id)) heads
      simp only [← decide_not] at hsplit
      exact ((ih _).append_left _).trans hsplit

/-- **Heads may be come by in any order.** -/
theorem visit_ids {heads visited : List Head} (h : Distinct heads) (hperm : visited.Perm heads) :
    visit (visited.map Head.id) heads = visited := by
  induction visited generalizing heads with
  | nil => exact hperm.nil_eq.symm
  | cons a visited ih =>
      obtain ⟨hnew, -⟩ := List.nodup_cons.1 ((hperm.map Head.id).nodup_iff.2 h)
      have hother : ∀ b ∈ visited, b.id ≠ a.id := fun b hb heq => hnew (heq ▸ List.mem_map_of_mem hb)
      have hfirst : ((a :: visited).filter fun b => b.id = a.id) = [a] := by
        rw [List.filter_cons_of_pos (by simp), List.filter_eq_nil_iff.2 fun b hb => by simpa using hother b hb]
      have hrest : ((a :: visited).filter fun b => b.id ≠ a.id) = visited := by
        rw [List.filter_cons_of_neg (by simp), List.filter_eq_self.2 fun b hb => by simpa using hother b hb]
      have hsame := hperm.filter fun b => decide (b.id = a.id)
      have hothers := hperm.filter fun b => decide (b.id ≠ a.id)
      rw [hfirst] at hsame
      rw [hrest] at hothers
      rw [List.map_cons, visit, hsame.singleton_eq.symm, ih (h.filter _) hothers]
      rfl

section

variable (stale : Head → Bool) (found : List String) (revision : Nat)

/-- What reads neither status nor revision is the same of the heads before and after. -/
theorem map_retire {β : Type} {f : Head → β}
    (hf : ∀ (h : Head) (revision : Nat), f { h with status := .inactive, revision := revision } = f h)
    (heads : List Head) : (heads.map (retire stale found revision)).map f = heads.map f := by
  rw [List.map_map]
  refine List.map_congr_left fun h _ => ?_
  simp only [Function.comp, retire]
  split
  · exact hf h _
  · rfl

theorem ids_retire (heads : List Head) : (heads.map (retire stale found revision)).map Head.id = heads.map Head.id :=
  map_retire stale found revision (fun _ _ => rfl) heads

theorem retire_of_stale {h : Head} (hstale : stale h = true) :
    retire stale found revision h =
      { h with status := .inactive, revision := revision + 1 + found.idxOf h.id } := if_pos hstale

theorem retire_of_not_stale {h : Head} (hstale : stale h = false) : retire stale found revision h = h :=
  if_neg (Bool.eq_false_iff.1 hstale)

/-- Only the heads that are not silent stay active. -/
theorem active_retire (m : String) (heads : List Head) :
    (heads.map (retire stale found revision)).filter (fun h => h.isActive && h.modelType == m) =
      (heads.filter fun h => h.isActive && h.modelType == m).filter fun h => !stale h := by
  have hactive (h : Head) : ((retire stale found revision h).isActive && (retire stale found revision h).modelType == m) =
      (!stale h && (h.isActive && h.modelType == m)) := by
    cases hstale : stale h with
    | true =>
        rw [retire_of_stale stale found revision hstale]
        rfl
    | false =>
        rw [retire_of_not_stale stale found revision hstale]
        rfl
  rw [List.filter_map, List.filter_filter]
  simp only [Function.comp_def, hactive]
  refine (List.map_congr_left fun h hh => ?_).trans (List.map_id _)
  obtain ⟨hstale, -⟩ := Bool.and_eq_true_iff.1 (List.mem_filter.1 hh).2
  exact retire_of_not_stale stale found revision (by simpa using hstale)

end

section

variable {r : Registry} (now : Timestamp) (timeout : Int) (order : List String)

theorem found_perm (r : Registry) :
    (r.found now timeout order).Perm ((r.heads.filter (isStale · now timeout)).map Head.id) :=
  ((visit_perm order r.heads).filter _).map Head.id

theorem length_found (r : Registry) :
    (r.found now timeout order).length = r.heads.countP (isStale · now timeout) := by
  rw [(found_perm now timeout order r).length_eq, List.length_map, List.countP_eq_length_filter]

/-- Revisions are given out one after another. -/
theorem idxOf_found_lt {h : Head} (hh : h ∈ r.heads) (hstale : isStale h now timeout) :
    (r.found now timeout order).idxOf h.id < (r.found now timeout order).length :=
  List.idxOf_lt_length_of_mem <| (found_perm now timeout order r).mem_iff.2 <|
    List.mem_map_of_mem (List.mem_filter.2 ⟨hh, hstale⟩)

theorem heads_markStale (r : Registry) :
    (r.markStale now timeout order).2.heads =
      r.heads.map (retire (isStale · now timeout) (r.found now timeout order) r.lastRevision) := rfl

/-- The heads that are retired are the silent ones. -/
theorem ids_marked (r : Registry) :
    (r.markStale now timeout order).1.map Head.id = (r.heads.filter (isStale · now timeout)).map Head.id :=
  ids_retire _ _ _ _

theorem distinct_markStale (hr : Distinct r.heads) : Distinct (r.markStale now timeout order).2.heads := by
  rw [Distinct, heads_markStale, ids_retire]
  exact hr

theorem listActive_markStale (r : Registry) (m : String) :
    (r.markStale now timeout order).2.listActive m = (r.listActive m).filter fun h => !isStale h now timeout :=
  active_retire _ _ _ m r.heads

/-- The silent heads are told. -/
theorem mem_markStale {h : Head} (hh : h ∈ r.heads) (hstale : isStale h now timeout) :
    h.id ∈ (r.markStale now timeout order).1.map Head.id := by
  rw [ids_marked]
  exact List.mem_map_of_mem (List.mem_filter.2 ⟨hh, hstale⟩)

end

/-! ### Restoring -/

theorem distinct_restoreOne {r : Registry} (hr : Distinct r.heads) (h : Head) :
    Distinct (r.restoreOne h).heads :=
  (hr.filter _).append fun _ hb => of_decide_eq_true (List.mem_filter.1 hb).2

/-- What restoring one head after another keeps, a restore keeps. -/
theorem restore_induction {P : Registry → Prop} {r : Registry} (hr : P r) {records : List Head}
    (hstep : ∀ s, P s → ∀ h ∈ records, P (s.restoreOne h)) : P (r.restore records) := by
  refine List.foldlRecOn _ restoreOne hr ?_
  intro s hs h hh
  exact hstep s hs h (List.mem_mergeSort.1 hh)

theorem distinct_restore {r : Registry} (hr : Distinct r.heads) (records : List Head) :
    Distinct (r.restore records).heads :=
  restore_induction (P := fun s => Distinct s.heads) hr fun _ hs h _ => distinct_restoreOne hs h

end Registry

end FleetRouting
