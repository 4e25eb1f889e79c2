import FleetRouting.Proofs.Numbering
/-!
# FleetRouting.Proofs.Lineup

**Heads stand in the order of their first registration, and are restored in it.** As long as the wall clock does not go
back, the heads of a registry are numbered one after another and registered one after another (`Registry.Lined`): every
command keeps the numbers and times of first registration as they are, or adds one more at the end
(`Router.numbers_outcome`). Sorting such heads from any order and numbering them anew gives each its old number, so
nothing but revisions tells a restored registry from the one that was stored (`Registry.unrevised_restore`).
-/

namespace FleetRouting

/-! ### The order of times -/

theorem Timestamp.not_before_self (a : Timestamp) : a.before a = false := by
  simp [before]

/-- Not to be earlier is passed on. -/
theorem Timestamp.not_before_trans {a b c : Timestamp} (hab : b.before a = false) (hbc : c.before b = false) :
    c.before a = false := by
  simp only [before, Bool.or_eq_false_iff, Bool.and_eq_false_imp, decide_eq_false_iff_not, beq_iff_eq] at hab hbc ⊢
  omega

/-- A head under another revision. -/
def Head.revised (h : Head) (revision : Nat) : Head := { h with revision := revision }

/-- A head without its revision. -/
def Head.unrevised (h : Head) : Head := h.revised 0

theorem Head.revised_eq_of_unrevised {h h' : Head} (hlike : h.unrevised = h'.unrevised) (revision : Nat) :
    h.revised revision = h'.revised revision := by
  have hrevised := congrArg (fun h : Head => h.revised revision) hlike
  exact hrevised

theorem Head.id_eq_of_unrevised {h h' : Head} (hlike : h.unrevised = h'.unrevised) : h.id = h'.id := by
  have hid := congrArg Head.id hlike
  exact hid

/-- What does not read revisions is alike for heads that are alike but for them. -/
theorem map_eq_of_unrevised {β : Type} {f : Head → β} (hf : ∀ h : Head, f h.unrevised = f h) {heads heads' : List Head}
    (h : heads.map Head.unrevised = heads'.map Head.unrevised) : heads.map f = heads'.map f := by
  have hmap := congrArg (List.map f) h
  have hforget : f ∘ Head.unrevised = f := funext hf
  rwa [List.map_map, List.map_map, hforget] at hmap

namespace Registry

/-- Heads are compared by the second, the nanosecond and the number of their first registration. -/
theorem registeredBefore_iff {a b : Head} :
    registeredBefore a b = true ↔
      a.registeredAt.seconds < b.registeredAt.seconds ∨ a.registeredAt.seconds = b.registeredAt.seconds ∧
        (a.registeredAt.nanos < b.registeredAt.nanos ∨
          a.registeredAt.nanos = b.registeredAt.nanos ∧ a.sequence ≤ b.sequence) := by
  have heq : a.registeredAt = b.registeredAt ↔
      a.registeredAt.seconds = b.registeredAt.seconds ∧ a.registeredAt.nanos = b.registeredAt.nanos := by
    rw [← Timestamp.mk.injEq]
  simp only [registeredBefore, Timestamp.before, Bool.or_eq_true, Bool.and_eq_true, decide_eq_true_eq, beq_iff_eq, heq]
  omega

theorem registeredBefore_trans (a b c : Head) (hab : registeredBefore a b = true) (hbc : registeredBefore b c = true) :
    registeredBefore a c = true := by
  rw [registeredBefore_iff] at hab hbc ⊢
  omega

theorem registeredBefore_total (a b : Head) : (registeredBefore a b || registeredBefore b a) = true := by
  rw [Bool.or_eq_true, registeredBefore_iff, registeredBefore_iff]
  omega

/-! ### Heads in line -/

/-- The numbers and times of first registration, in order. -/
def numbers (r : Registry) : List (Nat × Timestamp) := r.heads.map fun h => (h.sequence, h.registeredAt)

/-- The heads are numbered one after another, and were registered one after another, none of them after `now`. -/
structure Lined (r : Registry) (now : Timestamp) : Prop where
  sequences : r.numbers.map Prod.fst = List.range r.nextSequence
  ordered : r.numbers.Pairwise fun a b => b.2.before a.2 = false
  past : ∀ n ∈ r.numbers, now.before n.2 = false

theorem lined_empty (now : Timestamp) : Lined {} now := ⟨rfl, .nil, nofun⟩

theorem Lined.later {r : Registry} {now later : Timestamp} (h : r.Lined now) (hlater : later.before now = false) :
    r.Lined later where
  sequences := h.sequences
  ordered := h.ordered
  past n hn := Timestamp.not_before_trans (h.past n hn) hlater

theorem Lined.of_numbers_eq {r r' : Registry} {now : Timestamp} (h : r.Lined now) (hnumbers : r'.numbers = r.numbers)
    (hnext : r'.nextSequence = r.nextSequence) : r'.Lined now where
  sequences := by rw [hnumbers, hnext, h.sequences]
  ordered := hnumbers ▸ h.ordered
  past := hnumbers ▸ h.past

/-- One more head may be registered at the end. -/
theorem Lined.of_numbers_append {r r' : Registry} {now : Timestamp} (h : r.Lined now)
    (hnumbers : r'.numbers = r.numbers ++ [(r.nextSequence, now)]) (hnext : r'.nextSequence = r.nextSequence + 1) :
    r'.Lined now where
  sequences := by rw [hnumbers, hnext, List.map_append, h.sequences, List.range_succ]; rfl
  ordered := by
    rw [hnumbers, List.pairwise_append]
    refine ⟨h.ordered, List.pairwise_singleton _ _, fun a ha b hb => ?_⟩
    rw [List.mem_singleton.1 hb]
    exact h.past a ha
  past := by
    rw [hnumbers]
    intro n hn
    rcases List.mem_append.1 hn with hn | hn
    · exact h.past n hn
    · rw [List.mem_singleton.1 hn]
      exact now.not_before_self

/-! ### Commands -/

/-- A head takes the place of one with its numbers. -/
theorem numbers_replace {r : Registry} (hr : Distinct r.heads) {new old : Head} (hold : r.get? new.id = some old)
    (hsequence : new.sequence = old.sequence) (hregistered : new.registeredAt = old.registeredAt) :
    (r.replace new).numbers = r.numbers :=
  map_replace hr hold (by rw [hsequence, hregistered])

theorem numbers_register {r : Registry} (hr : Distinct r.heads) (q : Registration) (now : Timestamp) :
    (r.register q now).2.numbers = r.numbers ∧ (r.register q now).2.nextSequence = r.nextSequence ∨
      (r.register q now).2.numbers = r.numbers ++ [(r.nextSequence, now)] ∧
        (r.register q now).2.nextSequence = r.nextSequence + 1 := by
  obtain ⟨-, -, -, ⟨known, hknown, hnext, hsequence, hregistered⟩ | ⟨hnew, hnext, hsequence, hregistered⟩⟩ :=
    register_spec r q now
  · refine .inl ⟨?_, hnext⟩
    rw [numbers, heads_register_of_known now hknown]
    exact numbers_replace hr ((register_id r q now).symm ▸ hknown) hsequence hregistered
  · refine .inr ⟨?_, hnext⟩
    rw [numbers, heads_register_of_new now hnew, List.map_append, List.map_singleton, hsequence, hregistered]
    rfl

theorem numbers_change? {r r' : Registry} (hr : Distinct r.heads) {id : String} {f : Head → Head} {change : StatusChange}
    (hchange : r.change? id f = some (change, r'))
    (hf : ∀ h : Head, (f h).id = h.id ∧ (f h).sequence = h.sequence ∧ (f h).registeredAt = h.registeredAt) :
    r'.numbers = r.numbers ∧ r'.nextSequence = r.nextSequence := by
  obtain ⟨hget, hcurrent, rfl⟩ := change?_eq_some hchange
  obtain ⟨hid, hsequence, hregistered⟩ := hf change.previous
  refine ⟨?_, rfl⟩
  rw [hcurrent]
  refine numbers_replace hr ?_ hsequence hregistered
  show r.get? (f change.previous).id = some change.previous
  rw [hid, (get?_eq_some hget).2, hget]

theorem numbers_markStale (r : Registry) (now : Timestamp) (timeout : Int) (order : List String) :
    (r.markStale now timeout order).2.numbers = r.numbers :=
  map_retire _ _ _ (fun _ _ => rfl) r.heads

end Registry

/-- A command keeps the numbers of all heads, or registers one more. -/
theorem Router.numbers_outcome {r : Router} (hr : Distinct r.registry.heads) (now : Moment) (c : Command) :
    (r.outcome now c).router.registry.numbers = r.registry.numbers ∧
        (r.outcome now c).router.registry.nextSequence = r.registry.nextSequence ∨
      (r.outcome now c).router.registry.numbers = r.registry.numbers ++ [(r.registry.nextSequence, now.wall)] ∧
        (r.outcome now c).router.registry.nextSequence = r.registry.nextSequence + 1 := by
  have hmoves := r.moves_outcome now c
  generalize (r.outcome now c).router = r' at hmoves ⊢
  cases hmoves with
  | stays => exact .inl ⟨rfl, rfl⟩
  | @registered q => exact Registry.numbers_register hr q now.wall
  | reported hreport => exact .inl (Registry.numbers_change? hr hreport fun _ => ⟨rfl, rfl, rfl⟩)
  | deregistered hchange => exact .inl (Registry.numbers_change? hr hchange fun _ => ⟨rfl, rfl, rfl⟩)
  | swept timeout order => exact .inl ⟨Registry.numbers_markStale _ _ _ _, rfl⟩
  | policySet => exact .inl ⟨rfl, rfl⟩
  | decided decisionId c =>
      rw [decide_registry]
      exact .inl ⟨rfl, rfl⟩

theorem Router.lined_outcome {r : Router} {now : Moment} (hlined : r.registry.Lined now.wall)
    (hr : Distinct r.registry.heads) (c : Command) : (r.outcome now c).router.registry.Lined now.wall := by
  rcases numbers_outcome hr now c with ⟨hnumbers, hnext⟩ | ⟨hnumbers, hnext⟩
  · exact hlined.of_numbers_eq hnumbers hnext
  · exact hlined.of_numbers_append hnumbers hnext

/-! ### Restoring -/

namespace Registry

/-- Heads in line are in the order in which they are restored. -/
theorem Lined.pairwise_registeredBefore {r : Registry} {now : Timestamp} (h : r.Lined now) :
    r.heads.Pairwise fun a b => registeredBefore a b = true ∧ a.sequence < b.sequence := by
  have hsequences : r.heads.Pairwise fun a b => a.sequence < b.sequence := by
    have hrange : (r.numbers.map Prod.fst).Pairwise (· < ·) := h.sequences ▸ List.pairwise_lt_range
    rwa [numbers, List.map_map, List.pairwise_map] at hrange
  have hordered := h.ordered
  rw [numbers, List.pairwise_map] at hordered
  refine (hordered.and hsequences).imp fun {a b} hab => ⟨?_, hab.2⟩
  obtain ⟨htime, hsequence⟩ := hab
  simp only [Timestamp.before, Bool.or_eq_false_iff, Bool.and_eq_false_imp, decide_eq_false_iff_not, beq_iff_eq] at htime
  rw [registeredBefore_iff]
  omega

/-- Sorting puts heads that were in line back in line, whatever their revisions. -/
theorem Lined.unrevised_mergeSort {r : Registry} {now : Timestamp} (h : r.Lined now) {records : List Head}
    (hperm : (records.map Head.unrevised).Perm (r.heads.map Head.unrevised)) :
    (records.mergeSort registeredBefore).map Head.unrevised = r.heads.map Head.unrevised := by
  have hlined : (r.heads.map Head.unrevised).Pairwise fun a b => registeredBefore a b = true ∧ a.sequence < b.sequence :=
    List.pairwise_map.2 (h.pairwise_registeredBefore.imp id)
  have hsequences : ((r.heads.map Head.unrevised).map Head.sequence).Nodup :=
    List.pairwise_map.2 (hlined.imp fun hab => Nat.ne_of_lt hab.2)
  have hmap : (records.mergeSort registeredBefore).map Head.unrevised =
      (records.map Head.unrevised).mergeSort registeredBefore :=
    List.map_mergeSort fun _ _ _ _ => rfl
  have hsorted := List.pairwise_mergeSort registeredBefore_trans registeredBefore_total (records.map Head.unrevised)
  have hperm' := (List.mergeSort_perm (records.map Head.unrevised) registeredBefore).trans hperm
  rw [hmap]
  refine hperm'.eq_of_pairwise ?_ hsorted (hlined.imp And.left)
  -- two heads that are each before the other have one number, and so are one
  intro a b ha hb hab hba
  rw [registeredBefore_iff] at hab hba
  exact List.inj_on_of_nodup_map hsequences (hperm'.subset ha) hb (by omega)

/-- Heads that are restored one after another keep the numbers that are due to them. -/
theorem unrevised_foldl_restoreOne (records : List Head) {r : Registry} (hdistinct : Distinct (r.heads ++ records))
    (hsequences : records.map Head.sequence = List.range' r.nextSequence records.length) :
    (records.foldl restoreOne r).heads.map Head.unrevised = (r.heads ++ records).map Head.unrevised ∧
      (records.foldl restoreOne r).nextSequence = r.nextSequence + records.length ∧
        (records.foldl restoreOne r).lastRevision = r.lastRevision + records.length := by
  induction records generalizing r with
  | nil => exact ⟨by rw [List.foldl_nil, List.append_nil], rfl, rfl⟩
  | cons h records ih =>
      rw [List.map_cons, List.length_cons, List.range'_succ] at hsequences
      obtain ⟨hsequence, hsequences⟩ := List.cons.inj hsequences
      have hnew : r.heads.filter (fun k => k.id ≠ h.id) = r.heads := by
        refine List.filter_eq_self.2 fun k hk => decide_eq_true ?_
        rw [Distinct, List.map_append, List.nodup_append] at hdistinct
        exact hdistinct.2.2 k.id (List.mem_map_of_mem hk) h.id (List.mem_cons_self ..)
      have hheads : (r.restoreOne h).heads = r.heads ++ [{ h with sequence := r.nextSequence, revision := r.lastRevision + 1 }] :=
        congrArg (· ++ _) hnew
      have hids : ((r.restoreOne h).heads ++ records).map Head.id = (r.heads ++ h :: records).map Head.id := by
        rw [hheads]
        simp
      obtain ⟨hrest, hnext, hlast⟩ := ih (r := r.restoreOne h) (by rw [Distinct, hids]; exact hdistinct) hsequences
      refine ⟨?_, hnext.trans (Nat.add_right_comm r.nextSequence 1 records.length),
        hlast.trans (Nat.add_right_comm r.lastRevision 1 records.length)⟩
      rw [List.foldl_cons, hrest, hheads, ← hsequence]
      simp [Head.unrevised, Head.revised]

/-- **A registry is restored from the records of its heads**, in whatever order and with whatever revisions they come.
-/
theorem Lined.unrevised_restore {r : Registry} {now : Timestamp} (h : r.Lined now) (hdistinct : Distinct r.heads)
    {records : List Head} (hperm : (records.map Head.unrevised).Perm (r.heads.map Head.unrevised)) :
    (restore {} records).heads.map Head.unrevised = r.heads.map Head.unrevised ∧
      (restore {} records).nextSequence = r.nextSequence ∧ (restore {} records).lastRevision = r.nextSequence := by
  have hsorted := h.unrevised_mergeSort hperm
  have hids : (records.mergeSort registeredBefore).map Head.id = r.heads.map Head.id :=
    map_eq_of_unrevised (fun _ => rfl) hsorted
  have hsequences : (records.mergeSort registeredBefore).map Head.sequence = List.range r.nextSequence := by
    have hnumbers := h.sequences
    rw [numbers, List.map_map] at hnumbers
    exact (map_eq_of_unrevised (fun _ => rfl) hsorted).trans hnumbers
  have hlength : (records.mergeSort registeredBefore).length = r.nextSequence := by
    rw [← List.length_map Head.sequence, hsequences, List.length_range]
  obtain ⟨hheads, hnext, hlast⟩ := unrevised_foldl_restoreOne (records.mergeSort registeredBefore) (r := {})
    (by rw [Distinct, List.nil_append, hids]; exact hdistinct) (by rw [hsequences, hlength, List.range_eq_range'])
  refine ⟨?_, ?_, ?_⟩
  · rw [restore, hheads, List.nil_append, hsorted]
  · rw [restore, hnext, hlength]
    exact Nat.zero_add _
  · rw [restore, hlast, hlength]
    exact Nat.zero_add _

/-- Heads that differ by nothing but their revisions stand in one line. -/
theorem Lined.of_unrevised_eq {r r' : Registry} {now : Timestamp} (h : r.Lined now)
    (hheads : r'.heads.map Head.unrevised = r.heads.map Head.unrevised) (hnext : r'.nextSequence = r.nextSequence) :
    r'.Lined now :=
  h.of_numbers_eq (map_eq_of_unrevised (fun _ => rfl) hheads) hnext

end Registry

end FleetRouting
