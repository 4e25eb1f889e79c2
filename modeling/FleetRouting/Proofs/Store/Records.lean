import FleetRouting.Proofs.Store.Fleet
import FleetRouting.Proofs.Wire.Routing
/-!
# FleetRouting.Proofs.Store.Records

**What is written under the keys of the store.** Of all that saving a head does, only one call changes a text: it puts
the head's own text under the head's own key. So wherever a save stops, the texts are those before it, or those with
the new one (`Store.Put`); and over a store that works a save is done (`Store.answers_saveHead`).
-/

namespace FleetRouting

/-- The text that a head is stored as. -/
def Head.text (h : Head) : String := h.toJson.toText

namespace Store

open Contents

/-- The texts by key. -/
abbrev Texts := SortedMap String String

/-- A put that is done has taken effect; one that is not done may have taken effect or not. -/
def Put (key value : String) (before : Texts) (done : Prop) (after : Texts) : Prop :=
  after = before.insert key value ∨ after = before ∧ ¬ done

theorem Put.of_done {key value : String} {before after : Texts} {done : Prop} (h : Put key value before done after)
    (hdone : done) : after = before.insert key value :=
  h.resolve_right fun hnot => hnot.2 hdone

theorem Put.mono {key value : String} {before after : Texts} {done done' : Prop} (h : Put key value before done after)
    (himp : done' → done) : Put key value before done' after :=
  h.imp_right fun hnot => ⟨hnot.1, fun hdone => hnot.2 (himp hdone)⟩

/-- Puts one after another. -/
def Puts : List (String × String) → (before : Texts) → (done : Prop) → (after : Texts) → Prop
  | [], before, _, after => after = before
  | w :: writes, before, done, after => ∃ middle, Put w.1 w.2 before done middle ∧ Puts writes middle done after

theorem Put.puts {key value : String} {before after : Texts} {done : Prop} (h : Put key value before done after) :
    Puts [(key, value)] before done after :=
  ⟨after, h, rfl⟩

theorem Puts.cons {key value : String} {writes : List (String × String)} {before middle after : Texts} {done : Prop}
    (h : Put key value before done middle) (hrest : Puts writes middle done after) :
    Puts ((key, value) :: writes) before done after :=
  ⟨middle, h, hrest⟩

/-- Behind some puts there stands under a key what one of them put there, or what was there before. -/
theorem Puts.get? {writes : List (String × String)} {before after : Texts} {done : Prop}
    (h : Puts writes before done after) (key : String) :
    (∃ value, (key, value) ∈ writes ∧ after.get? key = some value) ∨
      after.get? key = before.get? key ∧ (done → ∀ value, (key, value) ∉ writes) := by
  induction writes generalizing before with
  | nil =>
      obtain rfl : after = before := h
      exact .inr ⟨rfl, fun _ _ => List.not_mem_nil⟩
  | cons w writes ih =>
      obtain ⟨middle, hput, hrest⟩ := h
      rcases ih hrest with ⟨value, hmem, hafter⟩ | ⟨hafter, hothers⟩
      · exact .inl ⟨value, List.mem_cons_of_mem _ hmem, hafter⟩
      · rcases hput with rfl | ⟨rfl, hnot⟩
        · by_cases hkey : key = w.1
          · subst hkey
            exact .inl ⟨w.2, List.mem_cons_self .., hafter.trans (SortedMap.get?_insert_self ..)⟩
          · refine .inr ⟨hafter.trans (SortedMap.get?_insert_of_ne _ _ hkey), fun hdone value hmem => ?_⟩
            rcases List.mem_cons.1 hmem with rfl | hmem
            · exact hkey rfl
            · exact hothers hdone value hmem
        · exact .inr ⟨hafter, fun hdone => absurd hdone hnot⟩

/-- What a computation of one put ensures is a put, done if the computation answers. -/
theorem put_of_ensures {key value : String} {action : StoreM Unit} {s : Store}
    (h : Ensures (fun c => c.values = s.contents.values) action
      (fun _ c => c.values = s.contents.values.insert key value)
      fun c => c.values = s.contents.values ∨ c.values = s.contents.values.insert key value) :
    Put key value s.contents.values ((action.run s).1 = .ok ()) (action.run s).2.contents.values := by
  have hrun := h s rfl
  generalize action.run s = result at hrun ⊢
  rcases result with ⟨e | _, t⟩
  · rcases hrun with hrun | hrun
    · exact .inr ⟨hrun, nofun⟩
    · exact .inl hrun
  · exact .inl hrun

/-! ### Saving a head -/

section

variable {texts : Texts} {E : Contents → Prop} (hfailed : ∀ c : Contents, c.values = texts → E c)

include hfailed

/-- Calls that touch no text leave the texts as they are. -/
theorem ensures_keep {α : Type} {call : Call} {effect : Contents → α × Contents}
    (hkeep : ∀ c, (effect c).2.values = c.values) :
    Ensures (fun c => c.values = texts) (perform call effect) (fun _ c => c.values = texts) E :=
  ensures_perform (fun c hc => (hkeep c).trans hc) hfailed

theorem ensures_loadHead_keep (id : String) :
    Ensures (fun c => c.values = texts) (loadHead id) (fun _ c => c.values = texts) E := by
  have hget : Ensures (fun c => c.values = texts) (get (headKey id)) (fun _ c => c.values = texts) E :=
    ensures_keep hfailed fun _ => rfl
  refine hget.bind fun found => ?_
  cases found with
  | none => exact ensures_pure fun _ hc => hc
  | some text =>
      show Ensures _ (decodeStored Head.ofJson text >>= fun head => pure (some head)) _ _
      refine Ensures.bind (Q := fun _ c => c.values = texts) ?_ fun _ => ensures_pure fun _ hc => hc
      unfold decodeStored
      split
      · exact ensures_pure fun _ hc => hc
      · exact ensures_throw hfailed

theorem ensures_leaveIndexes_keep (stored head : Head) :
    Ensures (fun c => c.values = texts) (leaveIndexes stored head) (fun _ c => c.values = texts) E := by
  have hremove (key : String) :
      Ensures (fun c => c.values = texts) (removeMember key head.id) (fun _ c => c.values = texts) E :=
    ensures_keep hfailed fun _ => rfl
  rw [leaveIndexes_eq]
  refine Ensures.bind (Q := fun _ c => c.values = texts) ?_ fun _ => ?_
  · split
    · exact hremove _
    · exact ensures_pure fun _ hc => hc
  · split
    · exact hremove _
    · exact ensures_pure fun _ hc => hc

end

/-- The part of a save that writes. -/
theorem ensures_enter_put (head : Head) (texts : Texts) :
    Ensures (fun c => c.values = texts)
      (do
        set (headKey head.id) head.toJson.toText
        addMember (modelIndexKey head.modelType) head.id
        if !head.region.isEmpty then addMember (regionIndexKey head.region) head.id)
      (fun _ c => c.values = texts.insert (headKey head.id) head.text)
      fun c => c.values = texts ∨ c.values = texts.insert (headKey head.id) head.text := by
  have hset : Ensures (fun c => c.values = texts) (set (headKey head.id) head.toJson.toText)
      (fun _ c => c.values = texts.insert (headKey head.id) head.text)
      fun c => c.values = texts ∨ c.values = texts.insert (headKey head.id) head.text :=
    ensures_perform (fun _ hc => congrArg (fun texts : Texts => texts.insert (headKey head.id) head.text) hc)
      fun _ hc => .inl hc
  have hadd (key : String) : Ensures (fun c => c.values = texts.insert (headKey head.id) head.text)
      (addMember key head.id) (fun _ c => c.values = texts.insert (headKey head.id) head.text)
      fun c => c.values = texts ∨ c.values = texts.insert (headKey head.id) head.text :=
    ensures_keep (fun _ hc => .inr hc) fun _ => rfl
  refine hset.bind fun _ => (hadd _).bind fun _ => ?_
  split
  · exact hadd _
  · exact ensures_pure fun _ hc => hc

/-- **Saving a head puts its text under its key**, and changes no other text. -/
theorem put_saveHead (s : Store) (head : Head) :
    Put (headKey head.id) head.text s.contents.values (((saveHead head).run s).1 = .ok ())
      ((saveHead head).run s).2.contents.values := by
  refine put_of_ensures ?_
  have hfailed : ∀ c : Contents, c.values = s.contents.values →
      c.values = s.contents.values ∨ c.values = s.contents.values.insert (headKey head.id) head.text :=
    fun _ hc => .inl hc
  unfold saveHead
  refine (ensures_loadHead_keep hfailed head.id).bind fun found => ?_
  cases found with
  | none => exact ensures_enter_put head _
  | some stored =>
      exact (ensures_leaveIndexes_keep hfailed stored head).bind fun _ => ensures_enter_put head _

/-- Saving a policy puts its text under its key. -/
theorem put_savePolicy (s : Store) (policy : Policy) :
    Put policyKey policy.toJson.toText s.contents.values (((savePolicy policy).run s).1 = .ok ())
      ((savePolicy policy).run s).2.contents.values := by
  refine put_of_ensures ?_
  unfold savePolicy set
  exact ensures_perform
    (fun _ hc => congrArg (fun texts : Texts => texts.insert policyKey policy.toJson.toText) hc) fun _ hc => .inl hc

/-! ### Calls that are made -/

theorem costs_loadHead (id : String) : Costs 1 (loadHead id) := by
  have hget : Costs 1 (get (headKey id)) := costs_perform _ _
  refine hget.bind fun found => ?_
  cases found with
  | none => exact costs_pure _
  | some text =>
      show Costs 0 (decodeStored Head.ofJson text >>= fun head => pure (some head))
      refine Costs.bind ?_ fun _ => costs_pure _
      unfold decodeStored
      split
      · exact costs_pure _
      · exact costs_throw _

theorem costs_leaveIndexes (stored head : Head) : Costs 0 (leaveIndexes stored head) := by
  have hremove (key : String) : Costs 0 (removeMember key head.id) := (costs_perform _ _).mono (Nat.zero_le 1)
  rw [leaveIndexes_eq]
  refine Costs.bind ?_ fun _ => ?_
  · split
    · exact hremove _
    · exact costs_pure _
  · split
    · exact hremove _
    · exact costs_pure _

/-- Saving a head calls the store, at the least for the record that is stored. -/
theorem costs_saveHead (head : Head) : Costs 1 (saveHead head) := by
  have hset : Costs 0 (set (headKey head.id) head.toJson.toText) := (costs_perform _ _).mono (Nat.zero_le 1)
  have hadd (key : String) : Costs 0 (addMember key head.id) := (costs_perform _ _).mono (Nat.zero_le 1)
  have henter : Costs 0 (do
      set (headKey head.id) head.toJson.toText
      addMember (modelIndexKey head.modelType) head.id
      if !head.region.isEmpty then addMember (regionIndexKey head.region) head.id) := by
    refine hset.bind fun _ => (hadd _).bind fun _ => ?_
    split
    · exact hadd _
    · exact costs_pure _
  unfold saveHead
  refine (costs_loadHead head.id).bind fun found => ?_
  cases found with
  | none => exact henter
  | some stored => exact (costs_leaveIndexes stored head).bind fun _ => henter

theorem costs_savePolicy (policy : Policy) : Costs 1 (savePolicy policy) := costs_perform _ _

/-! ### Stores that work -/

/-- What stands under the key of an identifier, if anything does, decodes to a head. -/
def Readable (c : Contents) (id : String) : Prop :=
  ∀ text, c.values.get? (headKey id) = some text → ∃ head, Json.decodeText Head.ofJson text = .ok head

theorem answers_loadHead (id : String) : Answers (Readable · id) (loadHead id) fun _ _ => True := by
  have hget : Answers (Readable · id) (get (headKey id))
      fun found _ => ∀ text, found = some text → ∃ head, Json.decodeText Head.ofJson text = .ok head :=
    answers_perform fun _ hc => hc
  refine hget.bind fun found => ?_
  cases found with
  | none => exact answers_pure fun _ _ => trivial
  | some text =>
      show Answers _ (decodeStored Head.ofJson text >>= fun head => pure (some head)) _
      intro s hworks hs
      obtain ⟨head, hhead⟩ := hs text rfl
      have hdecode : decodeStored Head.ofJson text = pure head := by rw [decodeStored, hhead]
      rw [hdecode]
      exact answers_pure (P := fun _ => True) (Q := fun _ _ => True) (fun _ _ => trivial) s hworks trivial

/-- Over a store that works a save is done, as long as it can read the record that it replaces. -/
theorem answers_saveHead (head : Head) : Answers (Readable · head.id) (saveHead head) fun _ _ => True := by
  have hremove (key : String) : Answers (fun _ => True) (removeMember key head.id) fun _ _ => True :=
    answers_perform fun _ _ => trivial
  have hadd (key : String) : Answers (fun _ => True) (addMember key head.id) fun _ _ => True :=
    answers_perform fun _ _ => trivial
  have hset : Answers (fun _ => True) (set (headKey head.id) head.toJson.toText) fun _ _ => True :=
    answers_perform fun _ _ => trivial
  have hnothing : Answers (fun _ => True) (pure () : StoreM Unit) fun _ _ => True := answers_pure fun _ _ => trivial
  have henter : Answers (fun _ => True)
      (do
        set (headKey head.id) head.toJson.toText
        addMember (modelIndexKey head.modelType) head.id
        if !head.region.isEmpty then addMember (regionIndexKey head.region) head.id)
      fun _ _ => True := by
    refine hset.bind fun _ => (hadd _).bind fun _ => ?_
    split
    · exact hadd _
    · exact hnothing
  unfold saveHead
  refine (answers_loadHead head.id).bind fun found => ?_
  cases found with
  | none => exact henter
  | some stored =>
      refine Answers.bind (Q := fun _ _ => True) ?_ fun _ => henter
      rw [leaveIndexes_eq]
      refine Answers.bind (Q := fun _ _ => True) ?_ fun _ => ?_
      · split
        · exact hremove _
        · exact hnothing
      · split
        · exact hremove _
        · exact hnothing

/-- Over a store that works a policy is saved. -/
theorem answers_savePolicy (policy : Policy) : Answers (fun _ => True) (savePolicy policy) fun _ _ => True := by
  unfold savePolicy set
  exact answers_perform fun _ _ => trivial

/-! ### Readable stores -/

theorem policyKey_ne_headKey (id : String) : policyKey ≠ headKey id := by
  intro h
  have hchars := congrArg (fun key : String => key.toList.head?) h
  simp [policyKey, headKey, headKeyStart] at hchars

/-- Putting the text of a head under its key leaves a store readable. -/
theorem readable_put_head {c c' : Contents} {head : Head} (hhead : head.Storable) (h : ∀ id, Readable c id)
    (hput : c'.values = c.values.insert (headKey head.id) head.text) (id : String) : Readable c' id := by
  intro text htext
  rw [hput] at htext
  by_cases hid : id = head.id
  · subst hid
    rw [SortedMap.get?_insert_self] at htext
    obtain rfl := Option.some.inj htext
    exact ⟨head, Head.decodeText_toText hhead⟩
  · rw [SortedMap.get?_insert_of_ne _ _ fun hkey => hid (headKey_inj.1 hkey)] at htext
    exact h id text htext

theorem readable_put_policy {c c' : Contents} {text : String} (h : ∀ id, Readable c id)
    (hput : c'.values = c.values.insert policyKey text) (id : String) : Readable c' id := by
  intro text htext
  rw [hput, SortedMap.get?_insert_of_ne _ _ (policyKey_ne_headKey id).symm] at htext
  exact h id text htext

/-! ### Loading heads -/

/-- Every head that is loaded decodes from a text. -/
theorem ensures_loadKeys (keys : List String) :
    Ensures (fun _ => True) (loadKeys keys)
      (fun heads _ => ∀ h ∈ heads, ∃ text, Json.decodeText Head.ofJson text = .ok h) fun _ => True := by
  induction keys with
  | nil => exact ensures_pure fun _ _ => nofun
  | cons key keys ih =>
      have hget : Ensures (fun _ => True) (get key) (fun _ _ => True) fun _ => True :=
        ensures_perform (fun _ _ => trivial) fun _ _ => trivial
      unfold loadKeys
      refine hget.bind fun text => ih.bind fun heads => ?_
      split
      · next head hdecode =>
          obtain ⟨text, -, hdecode⟩ := Option.map_eq_some_iff.1 hdecode
          refine ensures_pure fun _ hheads => ?_
          exact List.forall_mem_cons.2 ⟨⟨text, hdecode⟩, hheads⟩
      · exact ensures_pure fun _ hheads => hheads

theorem ensures_loadHeads :
    Ensures (fun _ => True) loadHeads
      (fun heads _ => ∀ h ∈ heads, h.lastHeartbeat.Valid ∧ h.registeredAt.Valid) fun _ => True := by
  have hkeys : Ensures (fun _ => True) (keys headKeyStart) (fun _ _ => True) fun _ => True := by
    have hget : Ensures (fun _ => True) (MonadState.get : StoreM Store) (fun _ _ => True) fun _ => True :=
      fun _ _ => trivial
    exact hget.bind fun _ => ensures_perform (fun _ _ => trivial) fun _ _ => trivial
  refine hkeys.bind fun keys => (ensures_loadKeys keys).mono (fun _ h => h) ?_ fun _ h => h
  intro heads _ hheads h hh
  obtain ⟨text, hdecode⟩ := hheads h hh
  exact Head.valid_of_ofJson hdecode

/-! ### Loading from a store that works -/

/-- The texts under some keys decode to heads of which these are the keys. -/
def Decodable (texts : Texts) (keys : List String) : Prop :=
  ∀ key ∈ keys, ∃ text head, texts.get? key = some text ∧ Json.decodeText Head.ofJson text = .ok head ∧ headKey head.id = key

/-- The heads that the texts under some keys decode to, in order. -/
structure Decoded (texts : Texts) (keys : List String) (heads : List Head) : Prop where
  keys : heads.map (fun h => headKey h.id) = keys
  decode : ∀ h ∈ heads, ∃ text, texts.get? (headKey h.id) = some text ∧ Json.decodeText Head.ofJson text = .ok h

section

variable {texts : Texts}

theorem answers_loadKeys {keys : List String} (hkeys : Decodable texts keys) :
    Answers (fun c => c.values = texts) (loadKeys keys) fun heads c => c.values = texts ∧ Decoded texts keys heads := by
  induction keys with
  | nil => exact answers_pure fun _ hc => ⟨hc, rfl, nofun⟩
  | cons key keys ih =>
      obtain ⟨⟨text, head, htext, hdecode, rfl⟩, hrest⟩ := List.forall_mem_cons.1 hkeys
      have hget : Answers (fun c => c.values = texts) (get (headKey head.id))
          fun found c => found = some text ∧ c.values = texts :=
        answers_perform fun c hc => ⟨by rw [hc, htext], hc⟩
      refine hget.bind fun found => Answers.of_fact fun hfound => (ih hrest).bind fun heads => ?_
      subst hfound
      rw [Option.map_some, hdecode]
      refine answers_pure fun _ hc => ⟨hc.1, congrArg (headKey head.id :: ·) hc.2.keys, ?_⟩
      exact List.forall_mem_cons.2 ⟨⟨text, htext, hdecode⟩, hc.2.decode⟩

/-- All heads are loaded if every text under the key of a head decodes to the head. -/
theorem answers_loadHeads (hkeys : Decodable texts (texts.keys.filter fun key => key.startsWith headKeyStart)) :
    Answers (fun c => c.values = texts) loadHeads fun heads c =>
      c.values = texts ∧ Decoded texts (texts.keys.filter fun key => key.startsWith headKeyStart) heads := by
  have hkeysFrom : Answers (fun c => c.values = texts) (keys headKeyStart)
      fun found c => found = texts.keys.filter (fun key => key.startsWith headKeyStart) ∧ c.values = texts := by
    have hget : Answers (fun c => c.values = texts) (MonadState.get : StoreM Store) fun _ c => c.values = texts :=
      fun s hworks hs => ⟨s, s, rfl, hworks, hs⟩
    refine hget.bind fun s => answers_perform fun c hc => ⟨?_, hc⟩
    have hzero : headKeyStart.toList.contains '\x00' = false := by decide
    have hdatabase : c.keysInDatabase headKeyStart = c.keysFrom headKeyStart := by
      rw [Contents.keysInDatabase, hzero]
      rfl
    show (if s.isDatabase then c.keysInDatabase headKeyStart else c.keysFrom headKeyStart) = _
    rw [hdatabase, ite_self, Contents.keysFrom, hc]
  refine hkeysFrom.bind fun found => Answers.of_fact fun hfound => ?_
  subst hfound
  exact answers_loadKeys hkeys

theorem answers_loadPolicy {policy : Option Policy} (hpolicy : texts.get? policyKey = policy.map fun p => p.toJson.toText) :
    Answers (fun c => c.values = texts) loadPolicy fun found c => found = policy ∧ c.values = texts := by
  have hget : Answers (fun c => c.values = texts) (get policyKey)
      fun found c => found = policy.map (fun p => p.toJson.toText) ∧ c.values = texts :=
    answers_perform fun c hc => ⟨by rw [hc, hpolicy], hc⟩
  refine hget.bind fun found => Answers.of_fact fun hfound => ?_
  subst hfound
  cases policy with
  | none => exact answers_pure fun _ hc => ⟨rfl, hc⟩
  | some policy =>
      show Answers _ (decodeStored Policy.ofJson policy.toJson.toText >>= fun policy => pure (some policy)) _
      rw [decodeStored, policy.decodeText_toText]
      exact answers_pure (P := fun c => c.values = texts) fun _ hc => ⟨rfl, hc⟩

end

end Store

end FleetRouting
