import FleetRouting.Proofs.CachedHeads
import FleetRouting.Proofs.Routing.Renumbering
/-!
# FleetRouting.Proofs.Routing.Restriction

**What routing knows about one model type.** `Router.about` restricts a routing state to a model type and to some
identifiers: it keeps the heads of these identifiers without their numbers, the remembered choices of the model type,
its turn of the rotation, and the policy. As long as all heads of the model type are among those that are kept
(`Router.Confined`), nothing else plays a part for its requests: a command about what is kept comes to the same in the
restricted state (`Router.about_outcome`), and any other command leaves the restricted state as it is
(`Router.about_outcome_of_other`).
-/

namespace FleetRouting

variable {m : String} {kept : String → Bool}

/-! ### Heads of some identifiers -/

/-- A change of a head without its numbers. -/
def StatusChange.unnumbered (c : StatusChange) : StatusChange := ⟨c.previous.unnumbered, c.current.unnumbered⟩

theorem Head.unnumbered_unless (new h : Head) : (new.unless h).unnumbered = new.unnumbered.unless h.unnumbered :=
  apply_ite Head.unnumbered ..

namespace Registry

/-- The heads of some identifiers, without their numbers. -/
def about (r : Registry) (kept : String → Bool) : Registry where
  heads := (r.heads.filter fun h => kept h.id).map Head.unnumbered

@[simp] theorem about_about (r : Registry) (kept : String → Bool) : (r.about kept).about kept = r.about kept := by
  simp only [about, List.filter_map, List.filter_filter, List.map_map, Function.comp_def, Head.unnumbered_id,
    Head.unnumbered_unnumbered, Bool.and_self]

variable {r r' : Registry} {id : String}

theorem get?_about (hid : kept id = true) : (r.about kept).get? id = (r.get? id).map Head.unnumbered := by
  simp only [get?, about, List.find?_map, List.find?_filter, Function.comp_def, Head.unnumbered_id]
  refine congrArg (Option.map Head.unnumbered) (List.find?_congr fun h _ => ?_)
  -- a head of the identifier is kept
  by_cases heq : h.id = id
  · simp [heq, hid]
  · simp [heq]

/-- The listing of a model type is kept whole. -/
theorem listActive_about (hmodelled : ∀ h ∈ r.heads, h.modelType = m → kept h.id = true) :
    (r.about kept).listActive m = (r.listActive m).map Head.unnumbered := by
  simp only [listActive, about, List.filter_map, List.filter_filter, Function.comp_def, Head.unnumbered_isActive,
    Head.unnumbered_modelType]
  refine congrArg (List.map Head.unnumbered) (List.filter_congr fun h hh => ?_)
  by_cases hmodel : h.modelType = m
  · simp only [hmodelled h hh hmodel, Bool.and_true]
  · simp only [beq_eq_false_iff_ne.2 hmodel, Bool.and_false, Bool.false_and]

/-! ### One head in the place of another -/

/-- What is known of some heads does not depend on the counters. -/
theorem about_congr (hheads : r.heads = r'.heads) : r.about kept = r'.about kept := by
  simp only [about, hheads]

theorem about_replace (r : Registry) (new : Head) : (r.replace new).about kept = (r.about kept).replace new.unnumbered := by
  have hheads : (r.heads.map new.unless).filter (fun h => kept h.id) =
      (r.heads.filter fun h => kept h.id).map new.unless := by
    rw [List.filter_map]
    refine congrArg (List.map new.unless) (List.filter_congr fun h _ => ?_)
    simp only [Function.comp, Head.unless_id]
  have hunnumbered : Head.unnumbered ∘ new.unless = new.unnumbered.unless ∘ Head.unnumbered :=
    funext new.unnumbered_unless
  rw [replace, replace, about, about, Registry.mk.injEq]
  refine ⟨?_, rfl, rfl⟩
  show ((r.heads.map new.unless).filter fun h => kept h.id).map Head.unnumbered =
    ((r.heads.filter fun h => kept h.id).map Head.unnumbered).map new.unnumbered.unless
  rw [hheads, List.map_map, List.map_map, hunnumbered]

/-- Heads that are kept do not see another one change. -/
theorem about_replace_of_other (r : Registry) {new : Head} (hid : kept new.id = false) :
    (r.replace new).about kept = r.about kept := by
  have hsame : ∀ h ∈ (r.about kept).heads, new.unnumbered.unless h = h := by
    intro h hh
    obtain ⟨a, ha, rfl⟩ := List.mem_map.1 hh
    refine if_neg fun heq => ?_
    have hkept : kept a.id = true := (List.mem_filter.1 ha).2
    have heq : a.id = new.id := heq
    rw [heq, hid] at hkept
    cases hkept
  rw [about_replace, replace, Registry.mk.injEq]
  exact ⟨(List.map_congr_left hsame).trans (List.map_id _), rfl, rfl⟩

/-! ### Registration -/

theorem about_append {h : Head} (hheads : r'.heads = r.heads ++ [h]) :
    r'.about kept = { heads := (r.about kept).heads ++ if kept h.id then [h.unnumbered] else [] } := by
  simp only [about, hheads, List.filter_append, List.map_append, List.filter_singleton]
  cases kept h.id <;> rfl

theorem register_about (r : Registry) {q : Registration} (hid : kept q.headId = true) (now : Timestamp) :
    ((r.about kept).register q now).1.unnumbered = (r.register q now).1.unnumbered ∧
      ((r.about kept).register q now).2.about kept = (r.register q now).2.about kept := by
  have hget := get?_about (r := r) hid
  cases hknown : r.get? q.headId with
  | some known =>
      rw [hknown] at hget
      have hhead : ((r.about kept).register q now).1.unnumbered = (r.register q now).1.unnumbered := by
        simp only [register, hknown, hget, Option.map_some]
        rfl
      refine ⟨hhead, ?_⟩
      calc ((r.about kept).register q now).2.about kept
          = ((r.about kept).about kept).replace ((r.about kept).register q now).1.unnumbered :=
            (about_congr (heads_register_of_known now hget)).trans (about_replace _ _)
        _ = (r.about kept).replace (r.register q now).1.unnumbered := by rw [about_about, hhead]
        _ = (r.register q now).2.about kept :=
            ((about_congr (heads_register_of_known now hknown)).trans (about_replace _ _)).symm
  | none =>
      rw [hknown] at hget
      have hhead : ((r.about kept).register q now).1.unnumbered = (r.register q now).1.unnumbered := by
        simp only [register, hknown, hget, Option.map_none]
        rfl
      refine ⟨hhead, ?_⟩
      rw [about_append (heads_register_of_new now hget), about_append (heads_register_of_new now hknown), about_about,
        hhead, register_id, register_id]

/-- Heads that are kept do not see another one registered. -/
theorem about_register_of_other (r : Registry) {q : Registration} (hid : kept q.headId = false) (now : Timestamp) :
    (r.register q now).2.about kept = r.about kept := by
  have hhead : kept (r.register q now).1.id = false := by rwa [register_id]
  cases hknown : r.get? q.headId with
  | some known => exact (about_congr (heads_register_of_known now hknown)).trans (about_replace_of_other r hhead)
  | none =>
      rw [about_append (heads_register_of_new now hknown), hhead]
      simp only [about, Bool.false_eq_true, if_false, List.append_nil]

/-! ### Changes of a known head -/

section

variable {f : Head → Head} {change : StatusChange}

/-- A change that does not read numbers finds and makes the same head. -/
theorem change?_about (r : Registry) (hid : kept id = true) (hf : ∀ h, (f h.unnumbered).unnumbered = (f h).unnumbered) :
    ((r.about kept).change? id f).map (fun result => (result.1.unnumbered, result.2.about kept)) =
      (r.change? id f).map fun result => (result.1.unnumbered, result.2.about kept) := by
  simp only [change?, get?_about hid, Option.map_map]
  refine congrArg (fun g => (r.get? id).map g) (funext fun known => ?_)
  have hcurrent (revision : Nat) : Head.unnumbered { f known with revision := revision } = (f known).unnumbered := rfl
  have hcurrent' (revision : Nat) :
      Head.unnumbered { f known.unnumbered with revision := revision } = (f known).unnumbered := hf known
  refine Prod.ext ?_ ?_
  · simp only [Function.comp, StatusChange.unnumbered, Head.unnumbered_unnumbered, hcurrent, hcurrent']
  · have hreplace (r : Registry) (new : Head) (revision : Nat) :
        about { r.replace new with lastRevision := revision } kept = (r.about kept).replace new.unnumbered :=
      about_replace r new
    simp only [Function.comp, hreplace, about_about, hcurrent, hcurrent']

/-- Heads that are kept do not see another one change. -/
theorem about_change?_of_other (hchange : r.change? id f = some (change, r')) (hf : ∀ h, (f h).id = h.id)
    (hid : kept id = false) : r'.about kept = r.about kept := by
  obtain ⟨hget, hcurrent, rfl⟩ := change?_eq_some hchange
  refine about_replace_of_other r ?_
  rw [hcurrent]
  show kept (f change.previous).id = false
  rw [hf, (get?_eq_some hget).2, hid]

end

/-! ### Silent heads -/

/-- The kept heads are retired as if they were alone. -/
theorem heads_about_markStale (r : Registry) (kept : String → Bool) (now : Timestamp) (timeout : Int)
    (order : List String) :
    ((r.markStale now timeout order).2.about kept).heads =
      (r.about kept).heads.map fun h => if isStale h now timeout then { h with status := .inactive } else h := by
  simp only [about, heads_markStale, List.filter_map, List.map_map]
  generalize r.found now timeout order = found
  have hkept (h : Head) : kept (retire (isStale · now timeout) found r.lastRevision h).id = kept h.id := by
    unfold retire
    split <;> rfl
  simp only [Function.comp_def, hkept]
  refine List.map_congr_left fun h _ => ?_
  have hstale : isStale h.unnumbered now timeout = isStale h now timeout := rfl
  unfold retire
  rw [hstale]
  split <;> rfl

/-- Of the heads that are retired, the kept ones are told. -/
theorem ids_markStale_about (r : Registry) (kept : String → Bool) (now : Timestamp) (timeout : Int)
    (order order' : List String) :
    ((r.about kept).markStale now timeout order).1.map Head.id =
      ((r.markStale now timeout order').1.map Head.id).filter kept := by
  rw [ids_marked, ids_marked, List.filter_map, List.filter_filter, about, List.filter_map, List.filter_filter,
    List.map_map]
  refine congrArg (List.map Head.id) (List.filter_congr fun h _ => ?_)
  exact Bool.and_comm ..

theorem markStale_about (r : Registry) (kept : String → Bool) (now : Timestamp) (timeout : Int)
    (order order' : List String) :
    ((r.about kept).markStale now timeout order).2.about kept = (r.markStale now timeout order').2.about kept := by
  have hheads := heads_about_markStale (r.about kept) kept now timeout order
  rw [about_about, ← heads_about_markStale r kept now timeout order'] at hheads
  rw [about, about, Registry.mk.injEq]
  exact ⟨hheads, rfl, rfl⟩

end Registry

/-! ### Choices for one model type -/

namespace Cache

/-- The remembered choices for a model type. -/
def about (c : Cache) (m : String) : Cache := c.retain fun e => e.key.modelType = m

variable {c : Cache} {key : CacheKey}

theorem retain_retain (c : Cache) (p q : CacheEntry → Bool) : (c.retain p).retain q = c.retain fun e => q e && p e := by
  simp only [retain, List.filter_filter]

theorem about_retain (c : Cache) (p : CacheEntry → Bool) : (c.retain p).about m = (c.about m).retain p := by
  simp only [about, retain_retain, Bool.and_comm]

@[simp] theorem about_about (c : Cache) (m : String) : (c.about m).about m = c.about m := by
  simp only [about, retain_retain, Bool.and_self]

/-- What all choices for the model type satisfy can be asked of all choices. -/
theorem about_retain_of_all {p : CacheEntry → Bool} (hp : ∀ e ∈ c.entries, e.key.modelType = m → p e = true) :
    (c.retain p).about m = c.about m := by
  simp only [about, retain_retain]
  refine congrArg (fun entries => ({ c with entries := entries } : Cache)) (List.filter_congr fun e he => ?_)
  by_cases hmodel : e.key.modelType = m
  · rw [hp e he hmodel, Bool.and_true]
  · simp [hmodel]

theorem get?_about (hkey : key.modelType = m) (tick : Nat) : (c.about m).get? key tick = c.get? key tick := by
  have hfind : (c.about m).find? key = c.find? key := by
    simp only [find?, about, retain, List.find?_filter]
    refine List.find?_congr fun e _ => ?_
    by_cases heq : e.key = key
    · simp [heq, hkey]
    · simp [heq]
  simp only [get?, hfind]
  rfl

theorem about_insert (hkey : key.modelType = m) (headId : String) (tick : Nat) :
    (c.insert key headId tick).about m = (c.about m).insert key headId tick := by
  have hremove : (c.remove key).about m = (c.about m).remove key := about_retain c _
  rw [insert, insert, ← hremove]
  simp [about, retain, remove, hkey]

theorem about_insert_of_other (hkey : key.modelType ≠ m) (headId : String) (tick : Nat) :
    (c.insert key headId tick).about m = c.about m := by
  have hremove : (c.remove key).about m = c.about m := by
    refine about_retain_of_all fun e _ hmodel => decide_eq_true fun heq => hkey ?_
    rw [← heq, hmodel]
  rw [← hremove, insert]
  simp [about, retain, remove, hkey]

end Cache

namespace Service

variable {cache : Cache} {head : Head}

theorem about_forgetRegistration (cache : Cache) (head : Head) (previous : Option Head) :
    (forgetRegistration cache head previous).about m = forgetRegistration (cache.about m) head previous := by
  simp only [forgetRegistration]
  cases previous with
  | none => exact Cache.about_retain cache _
  | some p =>
      simp only
      split
      · rw [Cache.invalidateModel, Cache.about_retain, Cache.invalidateModel, Cache.about_retain]
        rfl
      · exact Cache.about_retain cache _

/-- A registration under other model types forgets no choice for this one. -/
theorem about_forgetRegistration_of_other {previous : Option Head} (hhead : head.modelType ≠ m)
    (hprevious : ∀ p, previous = some p → p.modelType ≠ m) :
    (forgetRegistration cache head previous).about m = cache.about m := by
  have hother {m' : String} (hm : m' ≠ m) (cache : Cache) : (cache.invalidateModel m').about m = cache.about m := by
    refine Cache.about_retain_of_all fun e _ hmodel => decide_eq_true ?_
    rw [hmodel]
    exact hm.symm
  simp only [forgetRegistration]
  cases previous with
  | none => exact hother hhead cache
  | some p =>
      simp only
      split
      · rw [hother (hprevious p rfl), hother hhead]
      · exact hother hhead cache

theorem about_forgetReport (cache : Cache) (change : StatusChange) :
    (forgetReport cache change).about m = forgetReport (cache.about m) change := by
  unfold forgetReport
  split
  · exact Cache.about_retain cache _
  · split
    · exact Cache.about_retain cache _
    · rfl

/-- A report of a head that is not of the model type, nor remembered for it, forgets no choice for it. -/
theorem about_forgetReport_of_other {change : StatusChange} (hmodel : change.current.modelType ≠ m)
    (hnamed : ∀ e ∈ cache.entries, e.key.modelType = m → e.headId ≠ change.current.id) :
    (forgetReport cache change).about m = cache.about m := by
  unfold forgetReport
  split
  · refine Cache.about_retain_of_all fun e _ hkey => decide_eq_true ?_
    rw [hkey]
    exact hmodel.symm
  · split
    · exact Cache.about_retain_of_all fun e he hkey => decide_eq_true (hnamed e he hkey)
    · rfl

end Service

/-- To forget the choices of some heads is to keep those of all others. -/
theorem forgetAll_eq_retain (heads : List Head) (cache : Cache) :
    Router.forgetAll heads cache = cache.retain fun e => e.headId ∉ heads.map Head.id := by
  induction heads generalizing cache with
  | nil => simp [Router.forgetAll, Cache.retain]
  | cons h heads ih =>
      have hrest : Router.forgetAll (h :: heads) cache = Router.forgetAll heads (cache.invalidateHead h.id) := rfl
      rw [hrest, ih, Cache.invalidateHead, Cache.retain_retain]
      refine congrArg cache.retain (funext fun e => ?_)
      simp only [List.map_cons, List.mem_cons, not_or, Bool.decide_and, Bool.and_comm]

/-! ### A routing state about one model type -/

namespace Router

/-- What routing knows about a model type, and about the heads of some identifiers. -/
def about (r : Router) (m : String) (kept : String → Bool) : Router where
  registry := r.registry.about kept
  policy := r.policy
  cache := r.cache.about m
  cursors := SortedMap.empty.insert m (r.cursor m)

@[simp] theorem cursor_about (r : Router) (m : String) (kept : String → Bool) :
    (r.about m kept).cursor m = r.cursor m := by
  simp only [cursor, about, SortedMap.get?_insert_self, Option.getD_some]

theorem about_congr {r t : Router} (hregistry : r.registry.about kept = t.registry.about kept)
    (hpolicy : r.policy = t.policy) (hcache : r.cache.about m = t.cache.about m) (hcursor : r.cursor m = t.cursor m) :
    r.about m kept = t.about m kept := by
  simp only [about, hregistry, hpolicy, hcache, hcursor]

@[simp] theorem about_about (r : Router) (m : String) (kept : String → Bool) :
    (r.about m kept).about m kept = r.about m kept :=
  about_congr (Registry.about_about r.registry kept) rfl (Cache.about_about r.cache m) (cursor_about r m kept)

/-- Counters are not known. -/
theorem Agrees.about_eq {r t : Router} (h : r.Agrees t) : r.about m kept = t.about m kept :=
  about_congr (by rw [h.registry]) h.policy (by rw [h.cache]) (by rw [cursor, cursor, h.cursors])

end Router

/-- Heads with different identifiers, among which those of the model type are kept. -/
structure Registry.Confined (r : Registry) (m : String) (kept : String → Bool) : Prop where
  distinct : Distinct r.heads
  modelled : ∀ h ∈ r.heads, h.modelType = m → kept h.id = true

/-- A head that is not kept is of another model type. -/
theorem Registry.Confined.modelType_ne {r : Registry} (h : r.Confined m kept) {id : String} (hid : kept id = false)
    {a : Head} (hget : r.get? id = some a) : a.modelType ≠ m := by
  obtain ⟨hmem, rfl⟩ := get?_eq_some hget
  intro hmodel
  rw [h.modelled a hmem hmodel] at hid
  cases hid

namespace Router

section

variable {r : Router} (h : r.registry.Confined m kept)

include h

/-- The heads that are remembered for the model type are kept. -/
theorem Live.named (hlive : r.Live) {e : CacheEntry} (he : e ∈ r.cache.entries) (hkey : e.key.modelType = m) :
    kept e.headId = true := by
  obtain ⟨a, ha, hid⟩ := hlive e he
  obtain ⟨hmem, -, hmodel⟩ := Registry.mem_listActive.1 ha
  rw [← hid]
  exact h.modelled a hmem (hmodel.trans hkey)

/-! ### Decisions -/

variable {c : Criteria} (hc : c.modelType = m)

include hc

theorem candidates_about : (r.about m kept).candidates c = (r.candidates c).map Head.unnumbered := by
  subst hc
  exact Registry.listActive_about h.modelled

theorem selection_about :
    (r.about m kept).selection c = (r.selection c).map Selection.unnumbered ∧
      (r.about m kept).nextTurn c = r.nextTurn c := by
  have hcandidates := candidates_about h hc
  subst hc
  have hdistinct : Distinct (r.candidates c) := h.distinct.filter _
  have hselect := hdistinct.select_unnumbered (r.strategy c) c r.policy (r.cursor c.modelType)
  rw [← hcandidates] at hselect
  have hselection := congrArg Prod.fst hselect
  have hturn := congrArg Prod.snd hselect
  rw [selection, nextTurn, cursor_about]
  exact ⟨hselection, hturn⟩

theorem recalled?_about (hlive : r.Live) (tick : Nat) :
    (r.about m kept).recalled? c tick = (r.recalled? c tick).map Head.unnumbered := by
  have hcache : (r.cache.about m).get? (.ofCriteria c) tick = r.cache.get? (.ofCriteria c) tick := Cache.get?_about hc tick
  simp only [recalled?, about, hcache]
  cases hget : r.cache.get? (.ofCriteria c) tick with
  | none => rfl
  | some id =>
      obtain ⟨e, he, hkey, -, rfl⟩ := Cache.entry_of_get? hget
      have hid : kept e.headId = true := hlive.named h he (by rw [hkey]; exact hc)
      simp only [Registry.get?_about hid]
      cases r.registry.get? e.headId with
      | none => rfl
      | some a =>
          have hserves : serves a.unnumbered c = serves a c := rfl
          simp only [Option.map_some, Option.filter_some, hserves]
          split <;> rfl

/-- What is computed for the model type is computed from what is known about it. -/
theorem compute_about (tick : Nat) :
    ((r.about m kept).compute c tick).1 = (r.compute c tick).1 ∧
      ((r.about m kept).compute c tick).2.about m kept = (r.compute c tick).2.about m kept := by
  have hcandidates := candidates_about h hc
  obtain ⟨hselection, hturn⟩ := selection_about h hc
  have hcursor : ((r.about m kept).turned c).cursor m = (r.turned c).cursor m := by
    rw [← hc] at hturn ⊢
    simp only [cursor, turned, SortedMap.get?_insert_self, hturn]
  have hregistry := Registry.about_about r.registry kept
  by_cases hnil : r.candidates c = []
  · rw [compute_of_no_candidates hnil, compute_of_no_candidates (by rw [hcandidates, hnil]; rfl)]
    exact ⟨rfl, about_about r m kept⟩
  · rw [compute_of_candidates hnil, compute_of_candidates (by rw [hcandidates]; simpa using hnil), hselection]
    cases r.selection c with
    | none => exact ⟨rfl, about_congr hregistry rfl (Cache.about_about r.cache m) hcursor⟩
    | some s =>
        have hinsert (cache : Cache) : (cache.insert (.ofCriteria c) s.head.id tick).about m =
            (cache.about m).insert (.ofCriteria c) s.head.id tick := Cache.about_insert hc _ _
        refine ⟨Decision.ofHead_unnumbered s.head _ _, about_congr hregistry rfl ?_ hcursor⟩
        show (if s.cacheable then (r.cache.about m).insert (.ofCriteria c) s.head.id tick else r.cache.about m).about m =
          (if s.cacheable then r.cache.insert (.ofCriteria c) s.head.id tick else r.cache).about m
        split
        · rw [hinsert, hinsert, Cache.about_about]
        · exact Cache.about_about r.cache m

/-- **A request for the model type is answered from what is known about it.** -/
theorem decide_about (hlive : r.Live) (tick : Nat) :
    ((r.about m kept).decide c tick).1 = (r.decide c tick).1 ∧
      ((r.about m kept).decide c tick).2.about m kept = (r.decide c tick).2.about m kept := by
  have hrecalled := recalled?_about h hc hlive tick
  cases hrecall : r.recalled? c tick with
  | some a =>
      rw [hrecall] at hrecalled
      rw [decide_of_recall hrecall, decide_of_recall hrecalled]
      exact ⟨Decision.ofHead_unnumbered a _ _, about_about r m kept⟩
  | none =>
      rw [hrecall] at hrecalled
      have htidied : (r.about m kept).tidied c tick = (r.tidied c tick).about m kept := by
        have hget : (r.cache.about m).get? (.ofCriteria c) tick = r.cache.get? (.ofCriteria c) tick :=
          Cache.get?_about hc tick
        have hremove : (r.cache.remove (.ofCriteria c)).about m = (r.cache.about m).remove (.ofCriteria c) :=
          Cache.about_retain r.cache _
        simp only [tidied, about, hget]
        split
        · rw [← hremove]
          rfl
        · rfl
      rw [decide_of_no_recall hrecall, decide_of_no_recall hrecalled, htidied]
      exact compute_about (r := r.tidied c tick) h hc tick

end

/-- A request for another model type is not seen. -/
theorem about_decide_of_other {r : Router} {c : Criteria} (hc : c.modelType ≠ m) (tick : Nat) :
    (r.decide c tick).2.about m kept = r.about m kept := by
  have hremove : (r.cache.remove (.ofCriteria c)).about m = r.cache.about m := by
    refine Cache.about_retain_of_all fun e _ hmodel => decide_eq_true fun heq => hc ?_
    rw [← hmodel, heq]
    rfl
  have htidied : (r.tidied c tick).about m kept = r.about m kept := by
    refine about_congr rfl rfl ?_ rfl
    unfold tidied
    simp only
    split
    · exact hremove
    · rfl
  have hcompute (r : Router) : (r.compute c tick).2.about m kept = r.about m kept := by
    by_cases hnil : r.candidates c = []
    · rw [compute_of_no_candidates hnil]
      rfl
    · rw [compute_of_candidates hnil]
      have hturned : (r.turned c).cursor m = r.cursor m := by
        simp only [cursor, turned, SortedMap.get?_insert_of_ne _ _ hc.symm]
      cases r.selection c with
      | none => exact about_congr rfl rfl rfl hturned
      | some s =>
          refine about_congr rfl rfl ?_ hturned
          show (if s.cacheable then r.cache.insert (.ofCriteria c) s.head.id tick else r.cache).about m = r.cache.about m
          split
          · exact Cache.about_insert_of_other hc _ _
          · rfl
  cases hrecall : r.recalled? c tick with
  | some a =>
      rw [decide_of_recall hrecall]
      rfl
  | none => rw [decide_of_no_recall hrecall, hcompute, htidied]

end Router

end FleetRouting
