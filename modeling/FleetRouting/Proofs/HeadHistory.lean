import FleetRouting.Proofs.Lineup
import Mathlib.Data.List.Induction
/-!
# FleetRouting.Proofs.HeadHistory

**The registry is its history.** The history of a head is the list of what calls to the registry did to it, newest
first; `Head.Recalls` says how each field of the head is read off that list. A call that touches a head puts one more
note on its history and leaves all other heads alone, so a registry that began empty holds of every head what the whole
history tells, in the order of first registrations (`Registry.eq_history`).
-/

namespace FleetRouting

/-! ### Calls and notes -/

/-- A call to a registry. -/
inductive RegistryCall where
  | register (q : Registration) (now : Timestamp)
  | update (id : String) (status : HeadStatus) (load : UInt32) (at_ : Timestamp)
  | deactivate (id : String)
  /-- A look for silent heads; it comes by them in the order that `order` begins. -/
  | markStale (now : Timestamp) (timeout : Int) (order : List String)
  deriving DecidableEq

/-- What a call did to a head. -/
inductive HeadNote where
  | registered (q : Registration) (now : Timestamp)
  | reported (status : HeadStatus) (load : UInt32) (at_ : Timestamp)
  /-- The head was taken out of routing. -/
  | retired
  deriving DecidableEq

namespace RegistryCall

/-- What the call does to a head that it touches. -/
def note : RegistryCall → HeadNote
  | register q now => .registered q now
  | update _ status load at_ => .reported status load at_
  | deactivate _ => .retired
  | markStale _ _ _ => .retired

/-- The identifier that a call registers. -/
def registered? : RegistryCall → Option String
  | register q _ => some q.headId
  | _ => none

end RegistryCall

namespace HeadNote

def registration? : HeadNote → Option Registration
  | registered q _ => some q
  | _ => none

def registeredAt? : HeadNote → Option Timestamp
  | registered _ now => some now
  | _ => none

/-- The load that a report brought. -/
def reportedLoad? : HeadNote → Option UInt32
  | reported _ load _ => some load
  | _ => none

/-- The load that a head showed when it was registered or reported. -/
def load? : HeadNote → Option UInt32
  | registered q _ => some q.currentLoad
  | reported _ load _ => some load
  | retired => none

/-- When a head was heard. -/
def heartbeat? : HeadNote → Option Timestamp
  | registered _ now => some now
  | reported _ _ at_ => some at_
  | retired => none

/-- The status that a head was given. -/
def status : HeadNote → HeadStatus
  | registered _ _ => .active
  | reported status _ _ => status
  | retired => .inactive

end HeadNote

open HeadNote

/-- How a head is read off its history, which has the newest note first. -/
structure Head.Recalls (a : Head) (h : List HeadNote) : Prop where
  /-- The last registration describes the head. -/
  described : ∃ q, h.findSome? registration? = some q ∧ a.id = q.headId ∧ a.endpoint = q.endpoint ∧
    a.region = q.region ∧ a.modelType = q.modelType ∧ a.version = q.version ∧ a.metadata = q.metadata
  currentLoad : h.findSome? load? = some a.currentLoad
  status : h.head?.map HeadNote.status = some a.status
  lastHeartbeat : h.findSome? heartbeat? = some a.lastHeartbeat
  /-- The first registration is remembered. -/
  registeredAt : h.reverse.findSome? registeredAt? = some a.registeredAt
  /-- The last five reported loads are kept, the oldest of them first. -/
  loadHistory : a.loadHistory = ((h.filterMap reportedLoad?).take 5).reverse

/-! ### Reading a history with one more note -/

/-- One more load in a history of the last five. -/
theorem Head.keepRecent_reverse (loads : List UInt32) (load : UInt32) :
    keepRecent (loads.take 5).reverse load = ((load :: loads).take 5).reverse := by
  have hall : (loads.take 5).reverse ++ [load] = (load :: loads.take 5).reverse := (List.reverse_cons ..).symm
  have htake : ((load :: loads.take 5).take 5) = (load :: loads).take 5 := by
    rw [List.take_succ_cons, List.take_take, List.take_succ_cons]
    rfl
  simp only [keepRecent, historyWindow, hall, List.drop_reverse, List.length_reverse]
  rw [← htake]
  refine congrArg List.reverse (List.take_eq_take_iff.2 ?_)
  omega

namespace Head.Recalls

variable {a known : Head} {h : List HeadNote}

/-- A head that is registered for the first time. -/
theorem registered_new {q : Registration} {now : Timestamp} {sequence revision : Nat} :
    Recalls ⟨q.headId, q.endpoint, .active, q.currentLoad, [], q.region, q.modelType, q.version, q.metadata, now, now,
      sequence, revision⟩ [.registered q now] where
  described := ⟨q, rfl, rfl, rfl, rfl, rfl, rfl, rfl⟩
  currentLoad := rfl
  status := rfl
  lastHeartbeat := rfl
  registeredAt := rfl
  loadHistory := rfl

/-- A head that is registered anew keeps its first registration and its loads. -/
theorem registered_anew (hknown : known.Recalls h) {q : Registration} {now : Timestamp} {sequence revision : Nat} :
    Recalls ⟨q.headId, q.endpoint, .active, q.currentLoad, known.loadHistory, q.region, q.modelType, q.version,
      q.metadata, now, known.registeredAt, sequence, revision⟩ (.registered q now :: h) where
  described := ⟨q, rfl, rfl, rfl, rfl, rfl, rfl, rfl⟩
  currentLoad := rfl
  status := rfl
  lastHeartbeat := rfl
  registeredAt := by
    rw [List.reverse_cons, List.findSome?_append, hknown.registeredAt]
    rfl
  loadHistory := hknown.loadHistory

theorem reported (hknown : known.Recalls h) (status : HeadStatus) (load : UInt32) (at_ : Timestamp) (revision : Nat) :
    Recalls
      { known.recordLoad load with
        status := status, currentLoad := load, lastHeartbeat := at_, revision := revision }
      (.reported status load at_ :: h) where
  described := hknown.described
  currentLoad := rfl
  status := rfl
  lastHeartbeat := rfl
  registeredAt := by
    rw [List.reverse_cons, List.findSome?_append, hknown.registeredAt]
    rfl
  loadHistory := by
    simp only [recordLoad, hknown.loadHistory]
    exact keepRecent_reverse _ load

theorem retired (hknown : known.Recalls h) (revision : Nat) :
    Recalls { known with status := .inactive, revision := revision } (.retired :: h) where
  described := hknown.described
  currentLoad := hknown.currentLoad
  status := rfl
  lastHeartbeat := hknown.lastHeartbeat
  registeredAt := by
    rw [List.reverse_cons, List.findSome?_append, hknown.registeredAt]
    rfl
  loadHistory := hknown.loadHistory

end Head.Recalls

/-! ### One call -/

namespace Registry

/-- The registry behind a call. A call about a head that is not known changes nothing. -/
def apply (r : Registry) : RegistryCall → Registry
  | .register q now => (r.register q now).2
  | .update id status load at_ => ((r.update? id status load at_).map Prod.snd).getD r
  | .deactivate id => ((r.deactivate? id).map Prod.snd).getD r
  | .markStale now timeout order => (r.markStale now timeout order).2

/-- The registry behind a list of calls. -/
def run (r : Registry) (calls : List RegistryCall) : Registry := calls.foldl apply r

/-- Whether a call touches the head of an identifier: it registers the head, is about the known head, or finds it
silent. -/
def touches (r : Registry) (id : String) : RegistryCall → Bool
  | .register q _ => q.headId == id
  | .update id' _ _ _ => id' == id && (r.get? id').isSome
  | .deactivate id' => id' == id && (r.get? id').isSome
  | .markStale now timeout order => (r.markStale now timeout order).1.any fun a => a.id == id

/-- The history of an identifier in a list of calls, the newest note first. What is said about a head before it is
registered is refused, and leaves no note. -/
def notes (r : Registry) (id : String) : List RegistryCall → List HeadNote
  | [] => []
  | c :: calls => (r.apply c).notes id calls ++ if r.touches id c then [c.note] else []

/-- The heads that a call touches, as they are behind it. -/
def touched (r : Registry) : RegistryCall → List Head
  | .register q now => [(r.register q now).1]
  | .update id status load at_ => ((r.update? id status load at_).map fun result => result.1.current).toList
  | .deactivate id => ((r.deactivate? id).map fun result => result.1.current).toList
  | .markStale now timeout order => (r.markStale now timeout order).1

/-- What a call can do: it registers a head, looks for silent ones, or is about one head. Then it does nothing, or changes
the known head and keeps its identifier and its place. -/
theorem apply_cases (r : Registry) (c : RegistryCall) :
    (∃ q now, c = .register q now) ∨ (∃ now timeout order, c = .markStale now timeout order) ∨
      c.registered? = none ∧ (r.apply c = r ∧ r.touched c = [] ∨
        ∃ id f change, r.change? id f = some (change, r.apply c) ∧ r.touched c = [change.current] ∧
          ∀ h : Head, (f h).id = h.id ∧ (f h).sequence = h.sequence ∧ (f h).registeredAt = h.registeredAt) := by
  cases c with
  | register q now => exact .inl ⟨q, now, rfl⟩
  | update id status load at_ =>
      simp only [apply, touched]
      refine .inr (.inr ⟨rfl, ?_⟩)
      cases hreport : r.update? id status load at_ with
      | none => exact .inl ⟨rfl, rfl⟩
      | some result => exact .inr ⟨id, _, result.1, hreport, rfl, fun _ => ⟨rfl, rfl, rfl⟩⟩
  | deactivate id =>
      simp only [apply, touched]
      refine .inr (.inr ⟨rfl, ?_⟩)
      cases hchange : r.deactivate? id with
      | none => exact .inl ⟨rfl, rfl⟩
      | some result => exact .inr ⟨id, _, result.1, hchange, rfl, fun _ => ⟨rfl, rfl, rfl⟩⟩
  | markStale now timeout order => exact .inr (.inl ⟨now, timeout, order, rfl⟩)

theorem makes_apply {r : Registry} (hr : Distinct r.heads) (c : RegistryCall) : r.Makes (r.apply c) (r.touched c) := by
  rcases apply_cases r c with
    ⟨q, now, rfl⟩ | ⟨now, timeout, order, rfl⟩ | ⟨-, ⟨hsame, htouched⟩ | ⟨id, f, change, hchange, htouched, hf⟩⟩
  · exact makes_register r q now
  · exact makes_markStale hr now timeout order
  · rw [hsame, htouched]
    exact .refl r
  · rw [htouched]
    exact makes_change? hchange fun h => (hf h).1

theorem distinct_apply {r : Registry} (hr : Distinct r.heads) (c : RegistryCall) : Distinct (r.apply c).heads := by
  rcases apply_cases r c with ⟨q, now, rfl⟩ | ⟨now, timeout, order, rfl⟩ | ⟨-, ⟨hsame, -⟩ | ⟨id, f, change, hchange, -, -⟩⟩
  · exact distinct_register hr q now
  · exact distinct_markStale now timeout order hr
  · rw [hsame]
    exact hr
  · exact distinct_change? hr hchange

/-- What a change touches is the head that it finds. -/
theorem exists_of_mem_change? {r : Registry} {id : String} {f : Head → Head} {a : Head}
    (ha : a ∈ ((r.change? id f).map fun result => result.1.current).toList) (hf : ∀ h, (f h).id = h.id) :
    ∃ known, r.get? a.id = some known ∧ a.id = id ∧ a = { f known with revision := r.lastRevision + 1 } := by
  simp only [change?, Option.mem_toList, Option.map_map, Option.map_eq_some_iff, Function.comp] at ha
  obtain ⟨known, hget, rfl⟩ := ha
  have hid : (f known).id = id := (hf known).trans (get?_eq_some hget).2
  exact ⟨known, hid.symm ▸ hget, hid, rfl⟩

theorem touches_change? (r : Registry) (id id' : String) {f : Head → Head} (hf : ∀ h, (f h).id = h.id) :
    (id' == id && (r.get? id').isSome) = true ↔
      ∃ a ∈ ((r.change? id' f).map fun result => result.1.current).toList, a.id = id := by
  rw [Bool.and_eq_true, beq_iff_eq, Option.isSome_iff_exists]
  constructor
  · rintro ⟨rfl, known, hget⟩
    refine ⟨{ f known with revision := r.lastRevision + 1 }, ?_, (hf known).trans (get?_eq_some hget).2⟩
    simp [change?, hget]
  · rintro ⟨a, ha, rfl⟩
    obtain ⟨known, hget, hid, -⟩ := exists_of_mem_change? ha hf
    exact ⟨hid.symm, known, hid ▸ hget⟩

theorem touches_iff (r : Registry) (id : String) (c : RegistryCall) :
    r.touches id c = true ↔ ∃ a ∈ r.touched c, a.id = id := by
  cases c with
  | register q now => simp [touches, touched, register_id]
  | update id' status load at_ => exact touches_change? r id id' fun _ => rfl
  | deactivate id' => exact touches_change? r id id' fun _ => rfl
  | markStale now timeout order => simp [touches, touched]

/-- **A call leaves every head alone that it does not touch.** -/
theorem get?_apply_of_untouched {r : Registry} (hr : Distinct r.heads) {c : RegistryCall} {id : String}
    (huntouched : r.touches id c = false) : (r.apply c).get? id = r.get? id := by
  have hmakes := makes_apply hr c
  have hothers : ∀ a ∈ (r.apply c).heads, a.id = id → a ∈ r.heads := by
    intro a ha hid
    refine (hmakes.others a ha).resolve_left fun htouched => ?_
    rw [(touches_iff r id c).2 ⟨a, htouched, hid⟩] at huntouched
    cases huntouched
  cases hget : (r.apply c).get? id with
  | some a =>
      obtain ⟨ha, rfl⟩ := get?_eq_some hget
      exact (get?_of_mem hr (hothers a ha rfl)).symm
  | none =>
      cases hknown : r.get? id with
      | none => rfl
      | some known =>
          obtain ⟨hmem, rfl⟩ := get?_eq_some hknown
          obtain ⟨a, ha, hid⟩ := hmakes.stays known hmem
          exact absurd hid (get?_eq_none hget a ha)

/-- A touched head is the one that is known from then on. -/
theorem get?_apply_of_touched {r : Registry} (hr : Distinct r.heads) {c : RegistryCall} {id : String}
    (htouches : r.touches id c = true) : ∃ a ∈ r.touched c, (r.apply c).get? id = some a := by
  obtain ⟨a, ha, rfl⟩ := (touches_iff r id c).1 htouches
  exact ⟨a, ha, get?_of_mem (distinct_apply hr c) ((makes_apply hr c).listed a ha)⟩

/-- A touched head recalls one more note. -/
theorem recalls_touched {r : Registry} (hr : Distinct r.heads) {c : RegistryCall} {a : Head} (ha : a ∈ r.touched c)
    {h : List HeadNote} (hknown : ∀ known, r.get? a.id = some known → known.Recalls h)
    (hnew : r.get? a.id = none → h = []) : a.Recalls (c.note :: h) := by
  cases c with
  | register q now =>
      obtain rfl := List.mem_singleton.1 ha
      rw [register_id] at hknown hnew
      unfold register
      cases hget : r.get? q.headId with
      | none =>
          rw [hnew hget]
          exact .registered_new
      | some known => exact (hknown known hget).registered_anew
  | update id status load at_ =>
      obtain ⟨known, hget, -, hform⟩ := exists_of_mem_change? ha fun _ => rfl
      rw [hform]
      exact (hknown known hget).reported status load at_ _
  | deactivate id =>
      obtain ⟨known, hget, -, hform⟩ := exists_of_mem_change? ha fun _ => rfl
      rw [hform]
      exact (hknown known hget).retired _
  | markStale now timeout order =>
      obtain ⟨-, hmarked, -⟩ := r.markStale_spec now timeout order
      obtain ⟨-, -, -, known, hmem, hform⟩ := hmarked a ha
      have hid : known.id = a.id := by rw [hform]
      rw [hform]
      exact (hknown known (hid ▸ get?_of_mem hr hmem)).retired _

/-- The heads that are found silent are told apart by their places among each other, and so by their revisions. -/
theorem revisions_markStale {r : Registry} (hr : Distinct r.heads) (now : Timestamp) (timeout : Int) (order : List String) :
    ((r.markStale now timeout order).1.map Head.revision).Nodup := by
  rw [markStale, List.map_map]
  refine List.Nodup.map_on ?_ ((List.Nodup.of_map Head.id hr).filter _)
  intro a ha b hb heq
  obtain ⟨hknown, hstale⟩ := List.mem_filter.1 ha
  obtain ⟨hknown', hstale'⟩ := List.mem_filter.1 hb
  have hplace : (r.found now timeout order).idxOf a.id = (r.found now timeout order).idxOf b.id := by
    simp only [Function.comp, retire_of_stale (isStale · now timeout) _ _ hstale,
      retire_of_stale (isStale · now timeout) _ _ hstale'] at heq
    omega
  have hfound := List.idxOf_lt_length_iff.1 (idxOf_found_lt now timeout order hknown hstale)
  exact hr.eq_of_id_eq hknown hknown' ((List.idxOf_inj hfound).1 hplace)

theorem revisions_touched {r : Registry} (hr : Distinct r.heads) (c : RegistryCall) :
    ((r.touched c).map Head.revision).Nodup := by
  rcases apply_cases r c with ⟨q, now, rfl⟩ | ⟨now, timeout, order, rfl⟩ | ⟨-, ⟨-, htouched⟩ | ⟨id, f, change, -, htouched, -⟩⟩
  · exact List.nodup_singleton _
  · exact revisions_markStale hr now timeout order
  · rw [htouched]
    exact List.nodup_nil
  · rw [htouched]
    exact List.nodup_singleton _

/-- **A touched head gets a revision of its own**, which is larger than all that were given before. -/
theorem revision_touched {r : Registry} (hr : Distinct r.heads) (hrevisions : ∀ b ∈ r.heads, b.revision ≤ r.lastRevision)
    {c : RegistryCall} {a : Head} (ha : a ∈ r.touched c) :
    (∀ b ∈ r.heads, b.revision < a.revision) ∧ ∀ b ∈ (r.apply c).heads, b.revision = a.revision → b = a := by
  have hmakes := makes_apply hr c
  have hlater : ∀ b ∈ r.heads, b.revision < a.revision := fun b hb => (hrevisions b hb).trans_lt (hmakes.fresh a ha).1
  refine ⟨hlater, fun b hb hrevision => ?_⟩
  rcases hmakes.others b hb with htouched | hold
  · exact List.inj_on_of_nodup_map (revisions_touched hr c) htouched ha hrevision
  · exact absurd hrevision (Nat.ne_of_lt (hlater b hold))

/-! ### The order of the heads -/

theorem ids_replace (r : Registry) (new : Head) : (r.replace new).heads.map Head.id = r.heads.map Head.id := by
  rw [heads_replace, List.map_map]
  exact List.map_congr_left fun a _ => new.unless_id a

theorem ids_change?_eq {r r' : Registry} {id : String} {f : Head → Head} {change : StatusChange}
    (hchange : r.change? id f = some (change, r')) : r'.heads.map Head.id = r.heads.map Head.id := by
  obtain ⟨-, -, rfl⟩ := change?_eq_some hchange
  exact ids_replace r change.current

/-- One more entry is kept if it is new. -/
theorem eraseDups_append_toList (ids : List String) (new : Option String) :
    (ids ++ new.toList).eraseDups = ids.eraseDups ++ new.toList.filter fun id => !ids.eraseDups.elem id := by
  rw [List.eraseDups_append, List.removeAll]
  cases new with
  | none => rfl
  | some id =>
      have helem : ids.eraseDups.elem id = ids.elem id := by
        rw [Bool.eq_iff_iff, List.elem_iff, List.elem_iff, List.mem_eraseDups]
      rw [Option.toList_some, List.filter_singleton, List.filter_singleton, helem]
      cases ids.elem id <;> rfl

theorem isSome_get?_iff (r : Registry) (id : String) : (r.get? id).isSome = true ↔ id ∈ r.heads.map Head.id := by
  rw [get?, List.find?_isSome, List.mem_map]
  simp only [beq_iff_eq]

/-- Only a registration lists an identifier that was not listed. -/
theorem ids_apply (r : Registry) (c : RegistryCall) :
    (r.apply c).heads.map Head.id =
      r.heads.map Head.id ++ c.registered?.toList.filter fun id => (r.get? id).isNone := by
  rcases apply_cases r c with ⟨q, now, rfl⟩ | ⟨now, timeout, order, rfl⟩ | ⟨hnone, ⟨hsame, -⟩ | ⟨id, f, change, hchange, -, -⟩⟩
  · simp only [apply, RegistryCall.registered?, Option.toList_some, List.filter_singleton]
    cases hget : r.get? q.headId with
    | some known =>
        rw [heads_register_of_known now hget, ← heads_replace, ids_replace]
        exact (List.append_nil _).symm
    | none =>
        rw [heads_register_of_new now hget, List.map_append, List.map_singleton, register_id]
        rfl
  · simp only [apply, RegistryCall.registered?, Option.toList_none, List.filter_nil, List.append_nil]
    exact ids_retire _ _ _ r.heads
  · rw [hnone, hsame, Option.toList_none, List.filter_nil, List.append_nil]
  · rw [hnone, ids_change?_eq hchange, Option.toList_none, List.filter_nil, List.append_nil]

/-- A call keeps the numbers of all heads, or registers one more. -/
theorem sequences_apply {r : Registry} (hr : Distinct r.heads)
    (hsequences : r.numbers.map Prod.fst = List.range r.nextSequence) (c : RegistryCall) :
    (r.apply c).numbers.map Prod.fst = List.range (r.apply c).nextSequence := by
  rcases apply_cases r c with ⟨q, now, rfl⟩ | ⟨now, timeout, order, rfl⟩ | ⟨-, ⟨hsame, -⟩ | ⟨id, f, change, hchange, -, hf⟩⟩
  · rcases numbers_register hr q now with ⟨hnumbers, hnext⟩ | ⟨hnumbers, hnext⟩
    · rw [apply, hnumbers, hnext, hsequences]
    · rw [apply, hnumbers, hnext, List.map_append, hsequences, List.range_succ]
      rfl
  · rw [apply, numbers_markStale]
    exact hsequences
  · rw [hsame]
    exact hsequences
  · obtain ⟨hnumbers, hnext⟩ := numbers_change? hr hchange hf
    rw [hnumbers, hnext, hsequences]

/-! ### A whole run -/

theorem run_concat (r : Registry) (calls : List RegistryCall) (c : RegistryCall) :
    r.run (calls ++ [c]) = (r.run calls).apply c := List.foldl_concat ..

theorem notes_concat (r : Registry) (id : String) (calls : List RegistryCall) (c : RegistryCall) :
    r.notes id (calls ++ [c]) = (if (r.run calls).touches id c then [c.note] else []) ++ r.notes id calls := by
  induction calls generalizing r with
  | nil => exact (List.append_nil _).symm
  | cons c' calls ih =>
      rw [List.cons_append, notes, notes, ih, List.append_assoc]
      rfl

/-- A registry and the calls that it has seen: each head recalls its history, and the heads are numbered in the order in
which their identifiers were registered first. -/
structure Follows (r : Registry) (calls : List RegistryCall) : Prop where
  distinct : Distinct r.heads
  recalls : ∀ id a, r.get? id = some a → a.Recalls (notes {} id calls)
  unheard : ∀ id, r.get? id = none → notes {} id calls = []
  ids : r.heads.map Head.id = (calls.filterMap RegistryCall.registered?).eraseDups
  sequences : r.numbers.map Prod.fst = List.range r.nextSequence
  revisions : ∀ a ∈ r.heads, a.revision ≤ r.lastRevision

theorem follows_run (calls : List RegistryCall) : (run {} calls).Follows calls := by
  induction calls using List.reverseRecOn with
  | nil => exact ⟨List.nodup_nil, nofun, fun _ _ => rfl, rfl, rfl, nofun⟩
  | append_singleton calls c ih =>
      have hnotes (id : String) := notes_concat {} id calls c
      simp only [run_concat] at hnotes ⊢
      generalize run {} calls = r at ih hnotes
      have hdistinct := ih.distinct
      refine ⟨distinct_apply hdistinct c, ?_, ?_, ?_, sequences_apply hdistinct ih.sequences c, ?_⟩
      · intro id a hget
        rw [hnotes]
        cases htouches : r.touches id c with
        | false =>
            rw [get?_apply_of_untouched hdistinct htouches] at hget
            exact ih.recalls id a hget
        | true =>
            obtain ⟨a', ha, hget'⟩ := get?_apply_of_touched hdistinct htouches
            obtain rfl := Option.some.inj (hget.symm.trans hget')
            obtain rfl := (get?_eq_some hget).2
            exact recalls_touched hdistinct ha (ih.recalls a.id) (ih.unheard a.id)
      · intro id hget
        rw [hnotes]
        cases htouches : r.touches id c with
        | false =>
            rw [get?_apply_of_untouched hdistinct htouches] at hget
            exact ih.unheard id hget
        | true =>
            obtain ⟨a, -, hget'⟩ := get?_apply_of_touched hdistinct htouches
            cases hget.symm.trans hget'
      · have hcalls : (calls ++ [c]).filterMap RegistryCall.registered? =
            calls.filterMap RegistryCall.registered? ++ c.registered?.toList := by
          rw [List.filterMap_append]
          cases hregistered : c.registered? <;> simp [hregistered]
        rw [ids_apply, hcalls, eraseDups_append_toList, ← ih.ids]
        refine congrArg (_ ++ ·) (List.filter_congr fun id _ => ?_)
        rw [← Option.not_isSome, Bool.eq_iff_iff.2 ((isSome_get?_iff r id).trans List.elem_iff.symm)]
      · intro a ha
        have hmakes := makes_apply hdistinct c
        rcases hmakes.others a ha with htouched | hold
        · exact (hmakes.fresh a htouched).2
        · exact (ih.revisions a hold).trans hmakes.lastRevision

/-- Heads are numbered in the order in which they are listed. -/
theorem Follows.numbered {r : Registry} {calls : List RegistryCall} (hr : r.Follows calls) :
    r.heads.Pairwise fun a b => a.sequence < b.sequence := by
  have hrange : (r.numbers.map Prod.fst).Pairwise (· < ·) := hr.sequences ▸ List.pairwise_lt_range
  rwa [numbers, List.map_map, List.pairwise_map] at hrange

/-- A head is known once it was registered. -/
theorem Follows.known_iff {r : Registry} {calls : List RegistryCall} (hr : r.Follows calls) (id : String) :
    (r.get? id).isSome = true ↔ ∃ q now, .register q now ∈ calls ∧ q.headId = id := by
  rw [isSome_get?_iff, hr.ids, List.mem_eraseDups, List.mem_filterMap]
  constructor
  · rintro ⟨c, hc, hregistered⟩
    cases c with
    | register q now => exact ⟨q, now, hc, Option.some.inj hregistered⟩
    | _ => cases hregistered
  · rintro ⟨q, now, hc, rfl⟩
    exact ⟨_, hc, rfl⟩

/-- **The registry is its history.** Behind any calls the known heads are those that were registered; every head is what
its history tells; the heads are listed, and numbered, in the order of their first registrations, and the active ones
of a model type are picked from that list. One more call changes the heads that it touches and no others, and each of
these gets a revision that is larger than all before and its own. -/
theorem eq_history (calls : List RegistryCall) :
    let r := run {} calls
    (∀ id, (r.get? id).isSome = true ↔ ∃ q now, .register q now ∈ calls ∧ q.headId = id) ∧
      (∀ id a, r.get? id = some a → a.Recalls (notes {} id calls)) ∧
      r.heads.map Head.id = (calls.filterMap RegistryCall.registered?).eraseDups ∧
      (r.heads.Pairwise fun a b => a.sequence < b.sequence) ∧
      (∀ m, r.listActive m = r.heads.filter fun a => a.status = .active ∧ a.modelType = m) ∧
      ∀ c id,
        (r.touches id c = false → (r.apply c).get? id = r.get? id) ∧
          (r.touches id c = true → ∃ a, (r.apply c).get? id = some a ∧
            (∀ b ∈ r.heads, b.revision < a.revision) ∧ ∀ b ∈ (r.apply c).heads, b.revision = a.revision → b = a) := by
  intro r
  have hr : r.Follows calls := follows_run calls
  refine ⟨hr.known_iff, hr.recalls, hr.ids, hr.numbered, ?_, ?_⟩
  · intro m
    refine List.filter_congr fun a _ => ?_
    rw [Bool.eq_iff_iff]
    simp only [Head.isActive, Bool.and_eq_true, beq_iff_eq, decide_eq_true_eq]
  · intro c id
    refine ⟨get?_apply_of_untouched hr.distinct, fun htouches => ?_⟩
    obtain ⟨a, ha, hget⟩ := get?_apply_of_touched hr.distinct htouches
    exact ⟨a, hget, revision_touched hr.distinct hr.revisions ha⟩

/-- Of six reports the last five are kept, also when the head is registered anew. -/
example :
    let q : Registration := ⟨"a", "http://a", "m", "eu", "1", .empty, 9⟩
    let reports := [1, 2, 3, 4, 5, 6].map fun load => RegistryCall.update "a" .active load ⟨load.toNat, 0⟩
    ((run {} (.update "a" .active 8 ⟨0, 0⟩ :: .register q ⟨0, 0⟩ :: reports ++ [.deactivate "a", .register q ⟨7, 0⟩])).get?
      "a").map Head.loadHistory = some [2, 3, 4, 5, 6] := by
  decide

end Registry

end FleetRouting
