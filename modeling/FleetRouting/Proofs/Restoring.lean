import FleetRouting.Proofs.HeadHistory
import FleetRouting.Proofs.Routing.Renumbering
import Mathlib.Data.List.Dedup
/-!
# FleetRouting.Proofs.Restoring

**Restored heads line up behind all others, and new heads behind them.** Numbers that stand in records count for
their order only: every restored head is given the number that is due next, and takes the last place. So whatever is
restored, and however often, the heads are listed by numbers that were given out once (`Registry.Numbered`). Of
several records of one identifier the last one stays (`Registry.Lasts`).
-/

namespace FleetRouting

/-- What moves a registry: a call, or the restoring of heads from their records. -/
inductive RegistryMove where
  | call (c : RegistryCall)
  | restore (records : List Head)
  deriving DecidableEq

/-- A record of an identifier is among those that are restored. -/
def RegistryMove.Restores (id : String) : RegistryMove → Prop
  | call _ => False
  | restore records => id ∈ records.map Head.id

namespace Registry

/-- The registry behind a move. -/
def afterMove (r : Registry) : RegistryMove → Registry
  | .call c => r.apply c
  | .restore records => r.restore records

/-- The registry behind a list of moves. -/
def afterMoves (r : Registry) (moves : List RegistryMove) : Registry := moves.foldl afterMove r

/-! ### Places -/

/-- Which head has which number, in the order of the listing. -/
def places (r : Registry) : List (String × Nat) := r.heads.map fun h => (h.id, h.sequence)

theorem mem_places {r : Registry} {p : String × Nat} :
    p ∈ r.places ↔ ∃ h ∈ r.heads, h.id = p.1 ∧ h.sequence = p.2 := by
  simp only [places, List.mem_map, Prod.ext_iff]

theorem ids_places (r : Registry) : r.places.map Prod.fst = r.heads.map Head.id := by
  simp [places, Function.comp_def]

/-- What becomes of the places: they stay, or a head takes the last one, under the next number. -/
inductive Shifts (r r' : Registry) : Option String → Prop where
  | stays (places : r'.places = r.places) (next : r'.nextSequence = r.nextSequence) : Shifts r r' none
  | last {id : String} (places : r'.places = r.places.filter (fun p => p.1 ≠ id) ++ [(id, r.nextSequence)])
      (next : r'.nextSequence = r.nextSequence + 1) : Shifts r r' (some id)

theorem shifts_restoreOne (r : Registry) (h : Head) : Shifts r (r.restoreOne h) (some h.id) := by
  refine .last ?_ rfl
  simp only [places, restoreOne, List.map_append, List.map_cons, List.map_nil, List.filter_map, Function.comp_def]

/-- A head that is registered for the first time takes the last place, and with any other call the places stay. -/
theorem shifts_apply {r : Registry} (hr : Distinct r.heads) (c : RegistryCall) :
    Shifts r (r.apply c) none ∨ ∃ id ∉ r.heads.map Head.id, Shifts r (r.apply c) (some id) := by
  rcases apply_cases r c with ⟨q, now, rfl⟩ | ⟨now, timeout, order, rfl⟩ | ⟨-, ⟨hsame, -⟩ | ⟨id, f, change, hchange, -, hf⟩⟩
  · obtain ⟨-, -, -, ⟨known, hknown, hnext, hsequence, -⟩ | ⟨hnew, hnext, hsequence, -⟩⟩ := register_spec r q now
    · refine .inl (.stays ?_ hnext)
      simp only [places, apply, heads_register_of_known now hknown]
      refine map_replace hr ((register_id r q now).symm ▸ hknown) ?_
      rw [hsequence, register_id, (get?_eq_some hknown).2]
    · have hunknown := get?_eq_none hnew
      refine .inr ⟨q.headId, ?_, .last ?_ hnext⟩
      · simpa using hunknown
      · have hkept : r.places.filter (fun p => p.1 ≠ q.headId) = r.places := by
          simpa [places, List.filter_eq_self] using hunknown
        rw [hkept]
        simp [places, apply, heads_register_of_new now hnew, register_id, hsequence]
  · exact .inl (.stays (map_retire _ _ _ (fun _ _ => rfl) r.heads) rfl)
  · rw [hsame]
    exact .inl (.stays rfl rfl)
  · obtain ⟨hget, hcurrent, hafter⟩ := change?_eq_some hchange
    obtain ⟨hid, hsequence, -⟩ := hf change.previous
    have hcurrentId : change.current.id = change.previous.id := by rw [hcurrent, ← hid]
    rw [hafter]
    refine .inl (.stays ?_ rfl)
    have hold : r.get? change.current.id = some change.previous := by
      rw [hcurrentId, (get?_eq_some hget).2, hget]
    refine map_replace hr hold ?_
    rw [hcurrentId, hcurrent, hsequence]

/-- A head that does not take the last place keeps its own. -/
theorem Shifts.mem_places {r r' : Registry} {id? : Option String} (h : Shifts r r' id?) {p : String × Nat}
    (hp : p ∈ r.places) (hother : id? ≠ some p.1) : p ∈ r'.places := by
  cases h with
  | stays places _ => rwa [places]
  | @last id places _ =>
      have hne : p.1 ≠ id := by
        intro heq
        exact hother (congrArg some heq.symm)
      rw [places]
      exact List.mem_append_left _ (List.mem_filter.2 ⟨hp, decide_eq_true hne⟩)

/-! ### Numbers that are given out once -/

/-- The heads are listed by their numbers, all of which were given out, and no two have one identifier. -/
structure Numbered (r : Registry) : Prop where
  distinct : Distinct r.heads
  increasing : (r.places.map Prod.snd).Pairwise (· < ·)
  below : ∀ p ∈ r.places, p.2 < r.nextSequence

theorem numbered_empty : Numbered {} := ⟨List.nodup_nil, .nil, nofun⟩

theorem Numbered.shifts {r r' : Registry} (hr : r.Numbered) {id? : Option String} (h : Shifts r r' id?) :
    r'.Numbered := by
  cases h with
  | stays places next =>
      refine ⟨?_, ?_, ?_⟩
      · rw [Distinct, ← ids_places, places, ids_places]
        exact hr.distinct
      · rw [places]
        exact hr.increasing
      · rw [places, next]
        exact hr.below
  | @last id places next =>
      have hkept : ∀ p ∈ r.places.filter (fun p => p.1 ≠ id), p ∈ r.places ∧ p.1 ≠ id := by
        intro p hp
        simpa using hp
      refine ⟨?_, ?_, ?_⟩
      · have hdistinct : (r.places.map Prod.fst).Nodup := by
          rw [ids_places]
          exact hr.distinct
        rw [Distinct, ← ids_places, places, List.map_append, List.nodup_append]
        refine ⟨hdistinct.sublist (List.filter_sublist.map _), List.nodup_singleton _, ?_⟩
        intro i hi j hj
        obtain ⟨p, hp, rfl⟩ := List.mem_map.1 hi
        rw [List.mem_singleton.1 hj]
        exact (hkept p hp).2
      · rw [places, List.map_append, List.pairwise_append]
        refine ⟨hr.increasing.sublist (List.filter_sublist.map _), List.pairwise_singleton _ _, ?_⟩
        intro n hn m hm
        obtain ⟨p, hp, rfl⟩ := List.mem_map.1 hn
        rw [List.mem_singleton.1 hm]
        exact hr.below p (hkept p hp).1
      · rw [places, next]
        intro p hp
        rcases List.mem_append.1 hp with hp | hp
        · exact Nat.lt_succ_of_lt (hr.below p (hkept p hp).1)
        · rw [List.mem_singleton.1 hp]
          exact Nat.lt_succ_self _

theorem Numbered.afterMove {r : Registry} (hr : r.Numbered) (m : RegistryMove) : (r.afterMove m).Numbered := by
  cases m with
  | call c =>
      rcases shifts_apply hr.distinct c with h | ⟨id, -, h⟩
      · exact hr.shifts h
      · exact hr.shifts h
  | restore records => exact restore_induction hr fun s hs h _ => hs.shifts (shifts_restoreOne s h)

theorem Numbered.afterMoves {r : Registry} (hr : r.Numbered) (moves : List RegistryMove) :
    (r.afterMoves moves).Numbered := by
  induction moves generalizing r with
  | nil => exact hr
  | cons m moves ih => exact ih (hr.afterMove m)

/-- A head that is not restored keeps its place. -/
theorem mem_places_afterMoves {r : Registry} (hr : r.Numbered) {p : String × Nat} (hp : p ∈ r.places)
    {moves : List RegistryMove} (hkept : ∀ m ∈ moves, ¬m.Restores p.1) : p ∈ (r.afterMoves moves).places := by
  induction moves generalizing r with
  | nil => exact hp
  | cons m moves ih =>
      obtain ⟨hm, hmoves⟩ := List.forall_mem_cons.1 hkept
      refine ih (hr.afterMove m) ?_ hmoves
      cases m with
      | call c =>
          rcases shifts_apply hr.distinct c with h | ⟨id, hnew, h⟩
          · exact h.mem_places hp nofun
          · refine h.mem_places hp ?_
            rintro ⟨rfl⟩
            exact hnew (ids_places r ▸ List.mem_map_of_mem hp)
      | restore records =>
          refine restore_induction (P := fun s => p ∈ s.places) hp ?_
          intro s hs h hh
          refine (shifts_restoreOne s h).mem_places hs ?_
          intro heq
          exact hm (Option.some.inj heq ▸ List.mem_map_of_mem hh)

/-- Heads that a registry does not know come after it: their numbers are none of those that it has given out. -/
structure Precedes (r r' : Registry) : Prop where
  next : r.nextSequence ≤ r'.nextSequence
  later : ∀ p ∈ r'.places, p.1 ∈ r.heads.map Head.id ∨ r.nextSequence ≤ p.2

theorem Precedes.refl (r : Registry) : r.Precedes r where
  next := Nat.le_refl _
  later _ hp := .inl (ids_places r ▸ List.mem_map_of_mem hp)

theorem Precedes.shifts {r s s' : Registry} (h : r.Precedes s) {id? : Option String} (hshifts : Shifts s s' id?) :
    r.Precedes s' := by
  cases hshifts with
  | stays places next => exact ⟨next ▸ h.next, places ▸ h.later⟩
  | @last id places next =>
      refine ⟨Nat.le_trans h.next (next ▸ Nat.le_succ _), ?_⟩
      rw [places]
      intro p hp
      rcases List.mem_append.1 hp with hp | hp
      · exact h.later p (List.mem_filter.1 hp).1
      · rw [List.mem_singleton.1 hp]
        exact .inr h.next

theorem Precedes.afterMoves {r s : Registry} (h : r.Precedes s) (hs : s.Numbered) (moves : List RegistryMove) :
    r.Precedes (s.afterMoves moves) := by
  induction moves generalizing s with
  | nil => exact h
  | cons m moves ih =>
      refine ih ?_ (hs.afterMove m)
      cases m with
      | call c =>
          rcases shifts_apply hs.distinct c with hshifts | ⟨id, -, hshifts⟩
          · exact h.shifts hshifts
          · exact h.shifts hshifts
      | restore records => exact restore_induction h fun s hs h _ => hs.shifts (shifts_restoreOne s h)

/-- In a list by numbers the smaller one of two stands in front of the larger one. -/
theorem exists_split_of_lt {heads : List Head} (h : heads.Pairwise fun a b => a.sequence < b.sequence) {a b : Head}
    (ha : a ∈ heads) (hb : b ∈ heads) (hlt : a.sequence < b.sequence) :
    ∃ front back, heads = front ++ back ∧ a ∈ front ∧ b ∈ back := by
  obtain ⟨before, after, rfl⟩ := List.append_of_mem ha
  obtain ⟨-, hafter, hbefore⟩ := List.pairwise_append.1 h
  refine ⟨before ++ [a], after, by simp, by simp, ?_⟩
  rcases List.mem_append.1 hb with hb | hb
  · have hgt := hbefore b hb a (List.mem_cons_self ..)
    omega
  · rcases List.mem_cons.1 hb with rfl | hb
    · omega
    · exact hb

/-! ### Records that count -/

/-- Of some records those that no later one has the identifier of. -/
def lastOfEach (records : List Head) : List Head := records.pwFilter fun a b => a.id ≠ b.id

theorem mem_ids_lastOfEach {records : List Head} {id : String} :
    id ∈ (lastOfEach records).map Head.id ↔ id ∈ records.map Head.id := by
  have hids : (records.map Head.id).dedup = (lastOfEach records).map Head.id := List.pwFilter_map Head.id records
  rw [← hids, List.mem_dedup]

/-- A restored head differs from its record by its numbers alone. -/
theorem heads_restoreOne (r : Registry) (h : Head) :
    ∃ restored : Head, restored.id = h.id ∧ restored.unnumbered = h.unnumbered ∧
      (r.restoreOne h).heads = r.heads.filter (fun k => k.id ≠ h.id) ++ [restored] :=
  ⟨{ h with sequence := r.nextSequence, revision := r.lastRevision + 1 }, rfl, rfl, rfl⟩

/-- Restored one after another, the heads whose identifiers come again leave their places, as those do that were there
before. -/
theorem heads_foldl_restoreOne (records : List Head) (r : Registry) :
    ∃ restored, (records.foldl restoreOne r).heads =
        r.heads.filter (fun h => h.id ∉ records.map Head.id) ++ restored ∧
      restored.map Head.unnumbered = (lastOfEach records).map Head.unnumbered := by
  induction records generalizing r with
  | nil => exact ⟨[], by simp, rfl⟩
  | cons h records ih =>
      obtain ⟨first, hid, hfirst, hheads⟩ := heads_restoreOne r h
      obtain ⟨restored, hrest, hrestored⟩ := ih (r.restoreOne h)
      have hstay : (r.heads.filter fun k => k.id ≠ h.id).filter (fun k => k.id ∉ records.map Head.id) =
          r.heads.filter fun k => k.id ∉ (h :: records).map Head.id := by
        rw [List.filter_filter]
        refine List.filter_congr fun k _ => ?_
        simp only [List.map_cons, List.mem_cons, not_or, Bool.decide_and, Bool.and_comm]
      refine ⟨[first].filter (fun k => k.id ∉ records.map Head.id) ++ restored, ?_, ?_⟩
      · rw [List.foldl_cons, hrest, hheads, List.filter_append, hstay, List.append_assoc]
      · have hcounts : (∀ b ∈ lastOfEach records, h.id ≠ b.id) ↔ h.id ∉ records.map Head.id := by
          rw [← mem_ids_lastOfEach, List.mem_map]
          grind
        rw [List.map_append, hrestored, List.filter_singleton, hid]
        by_cases hagain : h.id ∈ records.map Head.id
        · have hlast : lastOfEach (h :: records) = lastOfEach records :=
            List.pwFilter_cons_of_neg fun hnone => hcounts.1 hnone hagain
          rw [hlast, decide_eq_false (not_not_intro hagain)]
          rfl
        · have hlast : lastOfEach (h :: records) = h :: lastOfEach records :=
            List.pwFilter_cons_of_pos (hcounts.2 hagain)
          rw [hlast, decide_eq_true hagain, List.map_cons, ← hfirst]
          rfl

/-- The records that count, in the order of their first registrations: of each identifier the last one. -/
structure Lasts (records lasts : List Head) : Prop where
  mem : ∀ h ∈ lasts, h ∈ records
  ids : ∀ id, id ∈ lasts.map Head.id ↔ id ∈ records.map Head.id
  distinct : Distinct lasts
  ordered : lasts.Pairwise fun a b => registeredBefore a b = true
  last : ∀ h ∈ lasts, ∀ k ∈ records, k.id = h.id → registeredBefore k h = true

theorem registeredBefore_refl (h : Head) : registeredBefore h h = true := by
  simpa using registeredBefore_total h h

/-- The last one in a sorted list is the last one by first registration. -/
theorem last_lastOfEach {records : List Head} (hsorted : records.Pairwise fun a b => registeredBefore a b = true)
    {h k : Head} (hh : h ∈ lastOfEach records) (hk : k ∈ records) (hid : k.id = h.id) : registeredBefore k h = true := by
  induction records with
  | nil => cases hk
  | cons a records ih =>
      obtain ⟨hfirst, hrest⟩ := List.pairwise_cons.1 hsorted
      by_cases hcounts : ∀ b ∈ lastOfEach records, a.id ≠ b.id
      · have hlast : lastOfEach (a :: records) = a :: lastOfEach records := List.pwFilter_cons_of_pos hcounts
        rw [hlast, List.mem_cons] at hh
        rw [List.mem_cons] at hk
        rcases hk with rfl | hk
        · rcases hh with rfl | hh
          · exact registeredBefore_refl _
          · exact absurd hid (hcounts h hh)
        · rcases hh with rfl | hh
          · -- a later record of the identifier would count in its place
            have hagain : k.id ∈ (lastOfEach records).map Head.id := mem_ids_lastOfEach.2 (List.mem_map_of_mem hk)
            obtain ⟨b, hb, hbid⟩ := List.mem_map.1 hagain
            exact absurd (hid.symm.trans hbid.symm) (hcounts b hb)
          · exact ih hrest hh hk
      · have hlast : lastOfEach (a :: records) = lastOfEach records := List.pwFilter_cons_of_neg hcounts
        rw [hlast] at hh
        rcases List.mem_cons.1 hk with rfl | hk
        · exact hfirst h (List.pwFilter_subset records hh)
        · exact ih hrest hh hk

theorem lasts_lastOfEach {records sorted : List Head} (hperm : sorted.Perm records)
    (hsorted : sorted.Pairwise fun a b => registeredBefore a b = true) : Lasts records (lastOfEach sorted) where
  mem _ hh := hperm.subset (List.pwFilter_subset sorted hh)
  ids id := by rw [mem_ids_lastOfEach, (hperm.map Head.id).mem_iff]
  distinct := List.pairwise_map.2 (List.pairwise_pwFilter sorted)
  ordered := hsorted.sublist (List.pwFilter_sublist sorted)
  last _ hh _ hk hid := last_lastOfEach hsorted hh (hperm.mem_iff.2 hk) hid

/-- **A restore keeps the heads that are not among the records in front, and lines up the records that count.** -/
theorem heads_restore (r : Registry) (records : List Head) :
    ∃ lasts restored, Lasts records lasts ∧ restored.map Head.unnumbered = lasts.map Head.unnumbered ∧
      (r.restore records).heads = r.heads.filter (fun h => h.id ∉ records.map Head.id) ++ restored := by
  have hperm := List.mergeSort_perm records registeredBefore
  have hsorted := List.pairwise_mergeSort registeredBefore_trans registeredBefore_total records
  obtain ⟨restored, hheads, hrestored⟩ := heads_foldl_restoreOne (records.mergeSort registeredBefore) r
  refine ⟨_, restored, lasts_lastOfEach hperm hsorted, hrestored, ?_⟩
  rw [restore, hheads]
  simp only [(hperm.map Head.id).mem_iff]

/-- Registered earlier, or at the same time and under a smaller number. -/
def RegisteredEarlier (a b : Head) : Prop :=
  a.registeredAt.before b.registeredAt = true ∨ a.registeredAt = b.registeredAt ∧ a.sequence < b.sequence

/-- Records that differ by their identifiers all count. -/
theorem Lasts.perm {records lasts : List Head} (h : Lasts records lasts) (hdistinct : Distinct records) :
    lasts.Perm records := by
  refine (List.perm_ext_iff_of_nodup h.distinct.of_map hdistinct.of_map).2 fun a => ⟨h.mem a, ?_⟩
  intro ha
  obtain ⟨b, hb, hid⟩ := List.mem_map.1 ((h.ids a.id).2 (List.mem_map_of_mem ha))
  rwa [← hdistinct.eq_of_id_eq (h.mem b hb) ha hid]

/-- Records that differ by their first registrations stand in one order. -/
theorem Lasts.registeredEarlier {records lasts : List Head} (h : Lasts records lasts)
    (hpairs : (records.map fun h => (h.registeredAt, h.sequence)).Nodup) : lasts.Pairwise RegisteredEarlier := by
  refine (h.ordered.and (List.pairwise_map.1 h.distinct)).imp_of_mem ?_
  rintro a b ha hb ⟨hbefore, hid⟩
  have hne : ¬(a.registeredAt = b.registeredAt ∧ a.sequence = b.sequence) := by
    rintro ⟨htime, hsequence⟩
    have hab := List.inj_on_of_nodup_map hpairs (h.mem a ha) (h.mem b hb) (by rw [htime, hsequence])
    exact hid (congrArg Head.id hab)
  simp only [registeredBefore, Bool.or_eq_true, Bool.and_eq_true, beq_iff_eq, decide_eq_true_eq] at hbefore
  refine hbefore.imp_right ?_
  rintro ⟨htime, hle⟩
  exact ⟨htime, Nat.lt_of_le_of_ne hle fun hsequence => hne ⟨htime, hsequence⟩⟩

/-! ### The registry behind a restore -/

namespace Numbered

variable {r : Registry} (hr : r.Numbered)

include hr

theorem pairwise_sequence : r.heads.Pairwise fun a b => a.sequence < b.sequence := by
  have h := hr.increasing
  simp only [places, List.map_map, List.pairwise_map] at h
  exact h

theorem sequence_lt {h : Head} (hh : h ∈ r.heads) : h.sequence < r.nextSequence :=
  hr.below (h.id, h.sequence) (List.mem_map_of_mem hh)

/-- A head is found under its identifier, and no other. -/
theorem get?_eq_some_iff {id : String} {h : Head} : r.get? id = some h ↔ h ∈ r.heads ∧ h.id = id := by
  constructor
  · exact get?_eq_some
  · rintro ⟨hh, rfl⟩
    exact get?_of_mem hr.distinct hh

/-- Sorting the heads by their numbers gives the listing, in whatever order they come. -/
theorem mergeSort_eq {heads : List Head} (hperm : heads.Perm r.heads) :
    heads.mergeSort (fun a b => decide (a.sequence ≤ b.sequence)) = r.heads := by
  have hsequences : (r.heads.map Head.sequence).Nodup :=
    List.pairwise_map.2 (hr.pairwise_sequence.imp Nat.ne_of_lt)
  have htrans : ∀ a b c : Head, decide (a.sequence ≤ b.sequence) = true → decide (b.sequence ≤ c.sequence) = true →
      decide (a.sequence ≤ c.sequence) = true := by
    simpa using fun a b c => Nat.le_trans
  have htotal : ∀ a b : Head, (decide (a.sequence ≤ b.sequence) || decide (b.sequence ≤ a.sequence)) = true := by
    simpa using fun a b => Nat.le_total _ _
  have hperm' := (List.mergeSort_perm heads fun a b => decide (a.sequence ≤ b.sequence)).trans hperm
  refine hperm'.eq_of_pairwise ?_ (List.pairwise_mergeSort htrans htotal heads)
    (hr.pairwise_sequence.imp fun hlt => decide_eq_true (Nat.le_of_lt hlt))
  intro a b ha hb hab hba
  rw [decide_eq_true_eq] at hab hba
  exact List.inj_on_of_nodup_map hsequences (hperm'.subset ha) hb (Nat.le_antisymm hab hba)

/-- A head that was known before and is not restored stands in front of every head that was not. -/
theorem split_afterMoves {moves : List RegistryMove} {a b : Head} (ha : a ∈ r.heads)
    (hkept : ∀ m ∈ moves, ¬m.Restores a.id) (hb : b ∈ (r.afterMoves moves).heads) (hnew : b.id ∉ r.heads.map Head.id) :
    ∃ front back, (r.afterMoves moves).heads = front ++ back ∧ a.id ∈ front.map Head.id ∧ b ∈ back := by
  have hplace : (a.id, a.sequence) ∈ (r.afterMoves moves).places :=
    mem_places_afterMoves hr (List.mem_map_of_mem ha) hkept
  obtain ⟨a', ha', hid, hsequence⟩ := mem_places.1 hplace
  have hlater := ((Precedes.refl r).afterMoves hr moves).later (b.id, b.sequence) (List.mem_map_of_mem hb)
  have hlt : a'.sequence < b.sequence := by
    rw [hsequence]
    exact Nat.lt_of_lt_of_le (hr.sequence_lt ha) (hlater.resolve_left hnew)
  obtain ⟨front, back, hheads, hfront, hback⟩ :=
    exists_split_of_lt (hr.afterMoves moves).pairwise_sequence ha' hb hlt
  exact ⟨front, back, hheads, List.mem_map.2 ⟨a', hfront, hid⟩, hback⟩

end Numbered

/-- **A restore keeps the registry well formed, and lines up what it restores.** Take a registry behind any moves, and
any records. Behind the restore every head is found under its identifier and no other, and has a number of its own that
was given out; sorting the heads by their numbers gives the listing. The heads that are not among the records are as
they were, in front of the restored ones. Of these there is one for each identifier, made from its last record; they
are listed by their first registrations, and this is the one order of the records if no two agree in their identifier or
in time and number. Whatever follows, a head that is registered first after the restore is listed behind all that were
there and are not restored again. -/
theorem restore_lines_up (before after : List RegistryMove) (records : List Head) :
    let r := afterMoves {} before
    let r' := r.restore records
    (∀ id h, r'.get? id = some h ↔ h ∈ r'.heads ∧ h.id = id) ∧
      (r'.heads.map Head.sequence).Nodup ∧ (∀ h ∈ r'.heads, h.sequence < r'.nextSequence) ∧
      (∀ heads : List Head, heads.Perm r'.heads →
        heads.mergeSort (fun a b => decide (a.sequence ≤ b.sequence)) = r'.heads) ∧
      (∃ restored lasts : List Head,
        r'.heads = r.heads.filter (fun h => h.id ∉ records.map Head.id) ++ restored ∧
        restored.map Head.unnumbered = lasts.map Head.unnumbered ∧ Lasts records lasts ∧
        (Distinct records → (records.map fun h => (h.registeredAt, h.sequence)).Nodup →
          lasts.Perm records ∧ lasts.Pairwise RegisteredEarlier)) ∧
      ∀ a ∈ r'.heads, (∀ m ∈ after, ¬m.Restores a.id) →
        ∀ b ∈ (r'.afterMoves after).heads, b.id ∉ r'.heads.map Head.id →
          ∃ front back, (r'.afterMoves after).heads = front ++ back ∧ a.id ∈ front.map Head.id ∧ b ∈ back := by
  intro r r'
  have hr' : r'.Numbered := (numbered_empty.afterMoves before).afterMove (.restore records)
  refine ⟨fun _ _ => hr'.get?_eq_some_iff, ?_, fun _ => hr'.sequence_lt, fun _ => hr'.mergeSort_eq, ?_, ?_⟩
  · exact List.pairwise_map.2 (hr'.pairwise_sequence.imp Nat.ne_of_lt)
  · obtain ⟨lasts, restored, hlasts, hrestored, hheads⟩ := heads_restore r records
    refine ⟨restored, lasts, hheads, hrestored, hlasts, ?_⟩
    intro hdistinct hpairs
    exact ⟨hlasts.perm hdistinct, hlasts.registeredEarlier hpairs⟩
  · intro a ha hkept b hb hnew
    exact hr'.split_afterMoves ha hkept hb hnew

/-- Of two records of one head the later one stays, though the head comes third among the restored ones. -/
example :
    let head (id : String) (seconds : Int) (sequence : Nat) : Head :=
      ⟨id, "", .active, 0, [], "", "m", "", .empty, ⟨0, 0⟩, ⟨seconds, 0⟩, sequence, 0⟩
    let r : Registry := { heads := [head "x" 0 0, head "z" 9 1], nextSequence := 2 }
    (r.restore [head "x" 5 1, head "y" 3 7, head "x" 3 8]).heads.map (fun h => (h.id, h.registeredAt.seconds, h.sequence)) =
      [("z", 9, 1), ("y", 3, 2), ("x", 5, 4)] := by
  cbv

end Registry

end FleetRouting
