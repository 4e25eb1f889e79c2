import FleetRouting.SortedMap
import Mathlib.Data.List.Induction
import Mathlib.Data.List.Nodup
/-!
# FleetRouting.Proofs.SortedMap

**Looking up in a map is membership in its entries** (`SortedMap.get?_eq_some`), whatever the order they stand in; what
erasing does to look-ups and to keys follows from that. A map is also what its own entries make, however they are listed
(`ofList_of_perm`, `mergeSort_of_perm`).
-/

namespace FleetRouting.SortedMap

variable {κ α : Type} [LT κ] [DecidableLT κ] [KeyOrder κ]

/-! ### Look-ups -/

/-- Distinct keys compare one way or the other. -/
theorem lt_or_lt_of_ne {a b : κ} (h : a ≠ b) : a < b ∨ b < a := by
  by_cases hlt : a < b
  · exact .inl hlt
  · by_cases hgt : b < a
    · exact .inr hgt
    · exact absurd (KeyOrder.eq_of_not_lt hlt hgt) h

theorem find_eq_some {l : List (κ × α)} (h : l.Pairwise fun a b => a.1 < b.1) {k : κ} {v : α} :
    find k l = some v ↔ (k, v) ∈ l := by
  induction l with
  | nil => simp [find]
  | cons e rest ih =>
      obtain ⟨k', v'⟩ := e
      obtain ⟨hfirst, hrest⟩ := List.pairwise_cons.1 h
      rw [find, List.mem_cons, Prod.mk.injEq]
      split
      · next hlt =>
          -- the entries that follow have still larger keys
          refine iff_of_false (by simp) fun hmem => ?_
          rcases hmem with ⟨rfl, -⟩ | hmem
          · exact KeyOrder.irrefl _ hlt
          · exact KeyOrder.irrefl _ (KeyOrder.trans hlt (hfirst _ hmem))
      · next hge =>
          split
          · next hgt =>
              have hne : k ≠ k' := fun heq => KeyOrder.irrefl _ (heq ▸ hgt)
              rw [ih hrest]
              exact ⟨.inr, fun hmem => hmem.resolve_left fun heq => hne heq.1⟩
          · next hle =>
              have hk : k = k' := KeyOrder.eq_of_not_lt hge hle
              rw [Option.some.injEq]
              refine ⟨fun hv => .inl ⟨hk, hv.symm⟩, fun hmem => ?_⟩
              rcases hmem with ⟨-, rfl⟩ | hmem
              · rfl
              · exact absurd (hk ▸ hfirst _ hmem) (KeyOrder.irrefl _)

/-- **The value of a key is the one that it has an entry with.** -/
theorem get?_eq_some {m : SortedMap κ α} {k : κ} {v : α} : m.get? k = some v ↔ (k, v) ∈ m.toList :=
  find_eq_some m.sorted

theorem mem_keys {m : SortedMap κ α} {k : κ} : k ∈ m.keys ↔ ∃ v, m.get? k = some v := by
  simp only [keys, List.mem_map, Prod.exists, exists_and_right, exists_eq_right, get?_eq_some]

theorem nodup_keys (m : SortedMap κ α) : m.keys.Nodup := by
  refine List.pairwise_map.2 (m.sorted.imp ?_)
  intro a b hlt heq
  exact KeyOrder.irrefl a.1 (heq ▸ hlt)

/-- The values of a changed map are the changed values. -/
theorem get?_mapValues {β : Type} (m : SortedMap κ α) (f : α → β) (k : κ) : (m.mapValues f).get? k = (m.get? k).map f := by
  refine Option.ext fun v => ?_
  simp only [get?_eq_some, mapValues, Option.map_eq_some_iff, List.mem_map, Prod.exists, Prod.mk.injEq]
  constructor
  · rintro ⟨_, w, hmem, rfl, rfl⟩
    exact ⟨w, hmem, rfl⟩
  · rintro ⟨w, hmem, rfl⟩
    exact ⟨k, w, hmem, rfl, rfl⟩

/-- What a filter leaves of the value of a key. -/
theorem get?_filter (m : SortedMap κ α) (p : κ → α → Bool) (k : κ) : (m.filter p).get? k = (m.get? k).filter (p k) := by
  refine Option.ext fun v => ?_
  rw [get?_eq_some, Option.filter_eq_some_iff, get?_eq_some]
  exact List.mem_filter

/-! ### Changes -/

@[simp] theorem get?_erase_self (m : SortedMap κ α) (k : κ) : (m.erase k).get? k = none := by
  refine Option.eq_none_iff_forall_ne_some.2 fun v hv => ?_
  have hkept := (List.mem_filter.1 (get?_eq_some.1 hv)).2
  exact absurd (of_decide_eq_true hkept) (by simp [KeyOrder.irrefl])

theorem get?_erase_of_ne (m : SortedMap κ α) {k j : κ} (h : j ≠ k) : (m.erase k).get? j = m.get? j := by
  refine Option.ext fun v => ?_
  rw [get?_eq_some, get?_eq_some]
  refine List.mem_filter.trans (and_iff_left ?_)
  exact decide_eq_true (lt_or_lt_of_ne h.symm)

theorem mem_keys_insert {m : SortedMap κ α} {k j : κ} {v : α} : j ∈ (m.insert k v).keys ↔ j = k ∨ j ∈ m.keys := by
  rw [mem_keys, mem_keys]
  by_cases hj : j = k
  · simp [hj]
  · simp [hj, get?_insert_of_ne]

theorem mem_keys_erase {m : SortedMap κ α} {k j : κ} : j ∈ (m.erase k).keys ↔ j ≠ k ∧ j ∈ m.keys := by
  rw [mem_keys, mem_keys]
  by_cases hj : j = k
  · simp [hj]
  · simp [hj, get?_erase_of_ne]

omit [DecidableLT κ] [KeyOrder κ] in
theorem keys_eq_nil_of_isEmpty {m : SortedMap κ α} (h : m.isEmpty = true) : m.keys = [] := by
  rw [keys, List.isEmpty_iff.1 h, List.map_nil]

/-! ### The map of a list -/

/-- Of the entries of one key the last one counts. -/
theorem get?_ofList [DecidableEq κ] (l : List (κ × α)) (k : κ) :
    (ofList l).get? k = (l.reverse.find? fun e => e.1 = k).map Prod.snd := by
  induction l using List.reverseRecOn with
  | nil => rfl
  | append_singleton l e ih =>
      have hlast : ofList (l ++ [e]) = (ofList l).insert e.1 e.2 := by
        simp only [ofList, List.foldl_append, List.foldl_cons, List.foldl_nil]
      rw [hlast, List.reverse_append, List.reverse_singleton, List.singleton_append]
      by_cases he : e.1 = k
      · subst he
        simp
      · rw [get?_insert_of_ne _ _ (Ne.symm he), ih, List.find?_cons_of_neg (by simpa using he)]

/-- An entry with a new key joins the others. -/
theorem perm_put {k : κ} (v : α) {l : List (κ × α)} (hnew : k ∉ l.map Prod.fst) :
    (put k v l).Perm ((k, v) :: l) := by
  induction l with
  | nil => exact .refl _
  | cons e rest ih =>
      obtain ⟨hne, hnew⟩ := not_or.1 fun h => hnew (List.mem_cons.2 h)
      rw [put]
      split
      · exact .refl _
      · split
        · exact ((ih hnew).cons e).trans (.swap ..)
        · next hge hle => exact absurd (KeyOrder.eq_of_not_lt hge hle) hne

/-- **A map is made of its entries,** in whatever order they are listed. -/
theorem ofList_of_perm {l : List (κ × α)} {m : SortedMap κ α} (h : l.Perm m.toList) : ofList l = m := by
  have hfold : ∀ (l : List (κ × α)) (n : SortedMap κ α), ((n.toList ++ l).map Prod.fst).Nodup →
      (l.foldl (fun n e => n.insert e.1 e.2) n).toList.Perm (n.toList ++ l) := by
    intro l
    induction l with
    | nil => exact fun n _ => .of_eq (List.append_nil _).symm
    | cons e rest ih =>
        intro n hnodup
        have hnodup' : ((e :: (n.toList ++ rest)).map Prod.fst).Nodup :=
          (List.perm_middle.map Prod.fst).nodup_iff.1 hnodup
        have hnew : e.1 ∉ n.toList.map Prod.fst := fun hmem =>
          (List.nodup_cons.1 hnodup').1 (List.map_append ▸ List.mem_append_left _ hmem)
        have hinsert : (n.insert e.1 e.2).toList.Perm (e :: n.toList) := perm_put e.2 hnew
        have hmoved := hinsert.append_right rest
        exact (ih _ ((hmoved.map Prod.fst).nodup_iff.2 hnodup')).trans (hmoved.trans List.perm_middle.symm)
  have hnodup : (l.map Prod.fst).Nodup := (h.map Prod.fst).nodup_iff.2 m.nodup_keys
  refine ext (((hfold l empty hnodup).trans h).eq_of_pairwise (fun a b _ _ hab hba => ?_) (ofList l).sorted m.sorted)
  exact absurd (KeyOrder.trans hab hba) (KeyOrder.irrefl _)

/-- **The entries are sorted by their keys,** so sorting them in whatever order they are listed gives them back. -/
theorem mergeSort_of_perm {l : List (κ × α)} {m : SortedMap κ α} (h : l.Perm m.toList) :
    (l.mergeSort fun a b => !decide (b.1 < a.1)) = m.toList := by
  have htrans : ∀ a b c : κ × α, (!decide (b.1 < a.1)) = true → (!decide (c.1 < b.1)) = true →
      (!decide (c.1 < a.1)) = true := by
    intro a b c hab hbc
    simp only [Bool.not_eq_true', decide_eq_false_iff_not] at hab hbc ⊢
    intro hca
    by_cases hlt : b.1 < c.1
    · exact hab (KeyOrder.trans hlt hca)
    · exact hab (KeyOrder.eq_of_not_lt hlt hbc ▸ hca)
  have htotal : ∀ a b : κ × α, ((!decide (b.1 < a.1)) || !decide (a.1 < b.1)) = true := by
    intro a b
    simp only [Bool.or_eq_true, Bool.not_eq_true', decide_eq_false_iff_not]
    by_cases hlt : b.1 < a.1
    · exact .inr fun hgt => KeyOrder.irrefl _ (KeyOrder.trans hlt hgt)
    · exact .inl hlt
  have hperm := (List.mergeSort_perm l fun a b => !decide (b.1 < a.1)).trans h
  refine hperm.eq_of_pairwise (fun a b ha hb hab hba => ?_) (List.pairwise_mergeSort htrans htotal l)
    (m.sorted.imp fun hlt => ?_)
  -- two entries of one key are one entry
  · simp only [Bool.not_eq_true', decide_eq_false_iff_not] at hab hba
    exact List.inj_on_of_nodup_map m.nodup_keys (hperm.subset ha) hb (KeyOrder.eq_of_not_lt hba hab)
  · rw [Bool.not_eq_true', decide_eq_false_iff_not]
    exact fun hgt => KeyOrder.irrefl _ (KeyOrder.trans hlt hgt)

end FleetRouting.SortedMap
