import FleetRouting.Proofs.Store.Basic
import FleetRouting.Proofs.Wire.Head
import FleetRouting.Store.Fleet
/-!
# FleetRouting.Proofs.Store.Fleet

**No index names a head that its record does not, wherever saving a head stops.** Saving is followed from call to
call. Between the calls the contents are those before it but for the record and the memberships of the saved head
(`Contents.SameBut`), and these fit together (`Contents.StoredAs`): a head leaves the indexes that the new record does
not ask for before that record is written, and enters those that it asks for after.
-/

namespace FleetRouting

open Store

/-! ### Keys -/

namespace Store

theorem headKey_inj {id id' : String} : headKey id = headKey id' ↔ id = id' := String.append_right_inj headKeyStart

theorem modelIndexKey_inj {modelType modelType' : String} :
    modelIndexKey modelType = modelIndexKey modelType' ↔ modelType = modelType' :=
  (String.append_left_inj ":heads").trans (String.append_right_inj "model:")

theorem regionIndexKey_inj {region region' : String} :
    regionIndexKey region = regionIndexKey region' ↔ region = region' :=
  (String.append_left_inj ":heads").trans (String.append_right_inj "region:")

/-- Whatever follows, one of the keys begins with an `m` and the other with an `r`. -/
theorem modelIndexKey_ne_regionIndexKey (modelType region : String) : modelIndexKey modelType ≠ regionIndexKey region := by
  intro h
  have hchars := congrArg (fun key : String => key.toList.head?) h
  simp [modelIndexKey, regionIndexKey] at hchars

end Store

/-! ### What is stored for a head -/

namespace Contents

/-- The index of a model type names an identifier. -/
def InModelIndex (c : Contents) (modelType id : String) : Prop := c.HasMember (modelIndexKey modelType) id

/-- The index of a region names an identifier. -/
def InRegionIndex (c : Contents) (region id : String) : Prop := c.HasMember (regionIndexKey region) id

/-- What stands under the key of an identifier decodes to a head. -/
def Record (c : Contents) (id : String) (head : Head) : Prop :=
  ∃ text, c.values.get? (headKey id) = some text ∧ Json.decodeText Head.ofJson text = .ok head

/-- Under the key of an identifier stands the text of a head, or nothing, and no index names the identifier that this
head is not in. -/
structure StoredAs (c : Contents) (id : String) (found : Option Head) : Prop where
  value : c.values.get? (headKey id) = found.map fun head => head.toJson.toText
  head : ∀ head ∈ found, head.Storable ∧ head.id = id
  model : ∀ modelType, c.InModelIndex modelType id → ∃ head ∈ found, head.modelType = modelType
  region : ∀ region, c.InRegionIndex region id → region ≠ "" ∧ ∃ head ∈ found, head.region = region

/-- **Records and indexes fit together**, for every identifier. -/
def Consistent (c : Contents) : Prop := ∀ id, ∃ found, c.StoredAs id found

/-- A store that holds nothing is consistent. -/
theorem consistent_empty : Consistent {} := by
  intro id
  exact ⟨none, rfl, nofun, fun _ h => absurd h List.not_mem_nil, fun _ h => absurd h List.not_mem_nil⟩

theorem StoredAs.record {c : Contents} {id : String} {head : Head} (h : c.StoredAs id (some head)) : c.Record id head :=
  ⟨_, h.value, Head.decodeText_toText (h.head head rfl).1⟩

theorem StoredAs.modelType_eq {c : Contents} {id modelType : String} {head : Head} (h : c.StoredAs id (some head))
    (hmember : c.InModelIndex modelType id) : modelType = head.modelType := by
  obtain ⟨_, hhead, rfl⟩ := h.model modelType hmember
  rw [Option.mem_some.1 hhead]

theorem StoredAs.region_eq {c : Contents} {id region : String} {head : Head} (h : c.StoredAs id (some head))
    (hmember : c.InRegionIndex region id) : region ≠ "" ∧ region = head.region := by
  obtain ⟨hempty, _, hhead, rfl⟩ := h.region region hmember
  exact ⟨hempty, by rw [Option.mem_some.1 hhead]⟩

/-- Two contents differ at most in the record of an identifier and in the sets that it is a member of. -/
structure SameBut (id : String) (c d : Contents) : Prop where
  value : ∀ key ≠ headKey id, d.values.get? key = c.values.get? key
  member : ∀ key, ∀ member ≠ id, d.HasMember key member ↔ c.HasMember key member

namespace SameBut

variable {id : String} {c d : Contents}

theorem refl (id : String) (c : Contents) : c.SameBut id c := ⟨fun _ _ => rfl, fun _ _ _ => Iff.rfl⟩

theorem addMember (h : c.SameBut id d) (key : String) : c.SameBut id (d.addMember key id) where
  value := h.value
  member key' member hmember := by
    rw [hasMember_addMember, or_iff_right fun heq => hmember heq.2]
    exact h.member key' member hmember

theorem removeMember (h : c.SameBut id d) (key : String) : c.SameBut id (d.removeMember key id) where
  value := h.value
  member key' member hmember := by
    rw [hasMember_removeMember, and_iff_left fun heq => hmember heq.2]
    exact h.member key' member hmember

theorem setRecord (h : c.SameBut id d) (text : String) :
    c.SameBut id { d with values := d.values.insert (headKey id) text } where
  value key hkey := by
    rw [← h.value key hkey]
    exact SortedMap.get?_insert_of_ne _ _ hkey
  member := h.member

/-- What is stored for another identifier is what was stored for it. -/
theorem storedAs (h : c.SameBut id d) {id' : String} (hid : id' ≠ id) {found : Option Head} (hc : c.StoredAs id' found) :
    d.StoredAs id' found where
  value := (h.value _ fun heq => hid (headKey_inj.1 heq)).trans hc.value
  head := hc.head
  model modelType hmember := hc.model modelType ((h.member _ id' hid).1 hmember)
  region region hmember := hc.region region ((h.member _ id' hid).1 hmember)

theorem consistent (h : c.SameBut id d) (hc : c.Consistent) (hd : ∃ found, d.StoredAs id found) : d.Consistent := by
  intro id'
  by_cases hid : id' = id
  · exact hid ▸ hd
  · obtain ⟨found, hfound⟩ := hc id'
    exact ⟨found, h.storedAs hid hfound⟩

end SameBut

/-! ### What the calls of a save do to it -/

namespace StoredAs

variable {c : Contents} {id : String} {found : Option Head}

/-- A head may leave any index. -/
theorem removeMember (h : c.StoredAs id found) (key : String) : (c.removeMember key id).StoredAs id found where
  value := h.value
  head := h.head
  model modelType hmember := h.model modelType (hasMember_removeMember.1 hmember).1
  region region hmember := h.region region (hasMember_removeMember.1 hmember).1

/-- A new record may be written when no index that it does not ask for names its head. -/
theorem setRecord (h : c.StoredAs id found) {head : Head} (hhead : head.Storable) (hid : head.id = id)
    (hmodel : ∀ modelType, c.InModelIndex modelType id → modelType = head.modelType)
    (hregion : ∀ region, c.InRegionIndex region id → region = head.region) :
    { c with values := c.values.insert (headKey id) head.toJson.toText : Contents }.StoredAs id (some head) where
  value := SortedMap.get?_insert_self ..
  head _ hfound := Option.mem_some.1 hfound ▸ ⟨hhead, hid⟩
  model modelType hmember := ⟨head, rfl, (hmodel modelType hmember).symm⟩
  region region hmember := ⟨(h.region region hmember).1, head, rfl, (hregion region hmember).symm⟩

/-- The head of a record may enter the index of its model type. -/
theorem addToModel {head : Head} (h : c.StoredAs id (some head)) :
    (c.addMember (modelIndexKey head.modelType) id).StoredAs id (some head) where
  value := h.value
  head := h.head
  model modelType hmember := by
    rcases hasMember_addMember.1 hmember with ⟨hkey, -⟩ | hmember
    · exact ⟨head, rfl, (modelIndexKey_inj.1 hkey).symm⟩
    · exact h.model modelType hmember
  region region hmember := by
    rcases hasMember_addMember.1 hmember with ⟨hkey, -⟩ | hmember
    · exact absurd hkey.symm (modelIndexKey_ne_regionIndexKey _ _)
    · exact h.region region hmember

/-- The head of a record may enter the index of its region, if it has one. -/
theorem addToRegion {head : Head} (h : c.StoredAs id (some head)) (hregion : head.region ≠ "") :
    (c.addMember (regionIndexKey head.region) id).StoredAs id (some head) where
  value := h.value
  head := h.head
  model modelType hmember := by
    rcases hasMember_addMember.1 hmember with ⟨hkey, -⟩ | hmember
    · exact absurd hkey (modelIndexKey_ne_regionIndexKey _ _)
    · exact h.model modelType hmember
  region region hmember := by
    rcases hasMember_addMember.1 hmember with ⟨hkey, -⟩ | hmember
    · have heq := regionIndexKey_inj.1 hkey
      exact ⟨heq ▸ hregion, head, rfl, heq.symm⟩
    · exact h.region region hmember

end StoredAs

/-- A head whose save has begun: all else is as before, and what is stored for it fits together. -/
structure Saving (head : Head) (before c : Contents) : Prop where
  same : before.SameBut head.id c
  stored : ∃ found, c.StoredAs head.id found

/-- A head that only the indexes name that its new record asks for. -/
structure Cleared (head : Head) (found : Option Head) (before c : Contents) : Prop where
  same : before.SameBut head.id c
  stored : c.StoredAs head.id found
  model : ∀ modelType, c.InModelIndex modelType head.id → modelType = head.modelType
  region : ∀ region, c.InRegionIndex region head.id → region = head.region

theorem Cleared.saving {head : Head} {found : Option Head} {before c : Contents} (h : Cleared head found before c) :
    Saving head before c :=
  ⟨h.same, found, h.stored⟩

end Contents

/-! ### Saving a head -/

/-- A head that was saved: its record is written, and it is in the indexes that the record asks for. -/
structure Contents.Saved (head : Head) (before c : Contents) : Prop where
  same : before.SameBut head.id c
  stored : c.StoredAs head.id (some head)
  model : c.InModelIndex head.modelType head.id
  region : head.region ≠ "" → c.InRegionIndex head.region head.id

namespace Store

open Contents

variable {head : Head} {before : Contents}

/-- Loading a head finds what is stored as it, or fails. -/
theorem ensures_loadHead {id : String} {found : Option Head} (h : before.StoredAs id found) :
    Ensures (· = before) (loadHead id) (fun answer c => answer = found ∧ c = before) (· = before) := by
  have hget : Ensures (· = before) (get (headKey id))
      (fun text c => text = found.map (fun head => head.toJson.toText) ∧ c = before) (· = before) :=
    ensures_perform (fun c hc => ⟨hc ▸ h.value, hc⟩) fun _ hc => hc
  refine hget.bind fun text => .of_fact fun htext => ?_
  subst htext
  cases found with
  | none => exact ensures_pure fun c hc => ⟨rfl, hc⟩
  | some head =>
      -- the text was written for a head, so it decodes
      have hdecode : decodeStored Head.ofJson head.toJson.toText = pure head := by
        rw [decodeStored, Head.decodeText_toText (h.head head rfl).1]
      show Ensures _ (decodeStored Head.ofJson head.toJson.toText >>= fun head => pure (some head)) _ _
      rw [hdecode]
      exact ensures_pure fun c hc => ⟨rfl, hc⟩

/-- The two steps of leaving. -/
theorem leaveIndexes_eq (stored head : Head) :
    leaveIndexes stored head =
      (if stored.modelType ≠ head.modelType then removeMember (modelIndexKey stored.modelType) head.id
        else pure ()) >>= fun _ =>
      if stored.region ≠ head.region ∧ !stored.region.isEmpty then
        removeMember (regionIndexKey stored.region) head.id
      else pure () := by
  by_cases hmodel : stored.modelType ≠ head.modelType
  · simp only [leaveIndexes, if_pos hmodel]
  · simp only [leaveIndexes, if_neg hmodel]
    rfl

/-- A head leaves the index of a model type that is no longer its own. -/
theorem ensures_leaveModel {stored : Head} (h : before.StoredAs head.id (some stored)) :
    Ensures (· = before)
      (if stored.modelType ≠ head.modelType then removeMember (modelIndexKey stored.modelType) head.id else pure ())
      (fun _ c => before.SameBut head.id c ∧ c.StoredAs head.id (some stored) ∧
        ∀ modelType, c.InModelIndex modelType head.id → modelType = head.modelType)
      (Saving head before) := by
  split
  · refine ensures_perform ?_ ?_
    · rintro c rfl
      refine ⟨(SameBut.refl _ _).removeMember _, h.removeMember _, fun modelType hmember => ?_⟩
      -- the only model type that an index may name the head for is the one that was left
      obtain ⟨hbefore, hleft⟩ := hasMember_removeMember.1 hmember
      exact absurd ⟨congrArg modelIndexKey (h.modelType_eq hbefore), rfl⟩ hleft
    · rintro c rfl
      exact ⟨.refl _ _, _, h⟩
  · next hstay =>
      refine ensures_pure ?_
      rintro c rfl
      refine ⟨.refl _ _, h, fun modelType hmember => ?_⟩
      exact (h.modelType_eq hmember).trans (Decidable.not_not.1 hstay)

/-- A head leaves the indexes that its new record does not ask for. -/
theorem ensures_leaveIndexes {stored : Head} (h : before.StoredAs head.id (some stored)) :
    Ensures (· = before) (leaveIndexes stored head) (fun _ c => Cleared head (some stored) before c)
      (Saving head before) := by
  rw [leaveIndexes_eq]
  refine (ensures_leaveModel h).bind fun _ => ?_
  split
  · refine ensures_perform ?_ fun c ⟨hsame, hstored, _⟩ => ⟨hsame, _, hstored⟩
    rintro c ⟨hsame, hstored, hmodel⟩
    refine ⟨hsame.removeMember _, hstored.removeMember _, fun modelType hmember => ?_, fun region hmember => ?_⟩
    · exact hmodel modelType (hasMember_removeMember.1 hmember).1
    · obtain ⟨hbefore, hleft⟩ := hasMember_removeMember.1 hmember
      exact absurd ⟨congrArg regionIndexKey (hstored.region_eq hbefore).2, rfl⟩ hleft
  · next hstay =>
      refine ensures_pure ?_
      rintro c ⟨hsame, hstored, hmodel⟩
      refine ⟨hsame, hstored, hmodel, fun region hmember => ?_⟩
      obtain ⟨hempty, rfl⟩ := hstored.region_eq hmember
      by_contra hne
      exact hstay ⟨hne, by simpa using hempty⟩

/-- After the old indexes are left, a save writes the record and enters the new ones. -/
theorem ensures_enter {found : Option Head} (hhead : head.Storable) :
    Ensures (Cleared head found before)
      (do
        set (headKey head.id) head.toJson.toText
        addMember (modelIndexKey head.modelType) head.id
        if !head.region.isEmpty then addMember (regionIndexKey head.region) head.id)
      (fun _ c => Saved head before c) (Saving head before) := by
  have hset : Ensures (Cleared head found before) (set (headKey head.id) head.toJson.toText)
      (fun _ c => before.SameBut head.id c ∧ c.StoredAs head.id (some head)) (Saving head before) :=
    ensures_perform (fun c hc => ⟨hc.same.setRecord _, hc.stored.setRecord hhead rfl hc.model hc.region⟩)
      fun c hc => hc.saving
  have hmodel : Ensures (fun c => before.SameBut head.id c ∧ c.StoredAs head.id (some head))
      (addMember (modelIndexKey head.modelType) head.id)
      (fun _ c => before.SameBut head.id c ∧ c.StoredAs head.id (some head) ∧ c.InModelIndex head.modelType head.id)
      (Saving head before) :=
    ensures_perform (fun c hc => ⟨hc.1.addMember _, hc.2.addToModel, hasMember_addMember.2 (.inl ⟨rfl, rfl⟩)⟩)
      fun c hc => ⟨hc.1, _, hc.2⟩
  -- a head without a region is done after that
  refine hset.bind fun _ => hmodel.bind fun _ => ?_
  split
  · next hregion =>
      have hne : head.region ≠ "" := by simpa using hregion
      refine ensures_perform ?_ fun c ⟨hsame, hstored, _⟩ => ⟨hsame, _, hstored⟩
      rintro c ⟨hsame, hstored, hmember⟩
      exact ⟨hsame.addMember _, hstored.addToRegion hne, hasMember_addMember.2 (.inr hmember),
        fun _ => hasMember_addMember.2 (.inl ⟨rfl, rfl⟩)⟩
  · next hregion =>
      refine ensures_pure ?_
      rintro c ⟨hsame, hstored, hmember⟩
      exact ⟨hsame, hstored, hmember, fun hne => absurd (by simpa using hne) hregion⟩

/-- **Saving a head writes it everywhere, or stops where everything stored still fits together.** -/
theorem ensures_saveHead {found : Option Head} (hhead : head.Storable) (h : before.StoredAs head.id found) :
    Ensures (· = before) (saveHead head) (fun _ c => Saved head before c) (Saving head before) := by
  have hload : Ensures (· = before) (loadHead head.id) (fun answer c => answer = found ∧ c = before)
      (Saving head before) :=
    (ensures_loadHead h).mono (fun _ hc => hc) (fun _ _ hc => hc) (by
      rintro c rfl
      exact ⟨.refl _ _, found, h⟩)
  unfold saveHead
  refine hload.bind fun answer => .of_fact fun hanswer => ?_
  subst hanswer
  cases answer with
  | none =>
      -- without a record no index names the head
      have hcleared : ∀ c, c = before → Cleared head none before c := by
        rintro c rfl
        refine ⟨.refl _ _, h, fun modelType hmember => ?_, fun region hmember => ?_⟩
        · obtain ⟨_, hnone, -⟩ := h.model modelType hmember
          cases hnone
        · obtain ⟨-, _, hnone, -⟩ := h.region region hmember
          cases hnone
      exact (ensures_enter hhead).mono hcleared (fun _ _ hc => hc) fun _ hc => hc
  | some stored => exact (ensures_leaveIndexes h).bind fun _ => ensures_enter hhead

/-! ### A sequence of saves -/

/-- The store after some heads were saved in turn, each save as far as it came. -/
def afterSaves (s : Store) (heads : List Head) : Store := heads.foldl (fun s head => ((saveHead head).run s).2) s

theorem consistent_saveHead {s : Store} (hs : s.contents.Consistent) (hhead : head.Storable) :
    ((saveHead head).run s).2.contents.Consistent := by
  obtain ⟨found, hfound⟩ := hs head.id
  have hsave := ensures_saveHead hhead hfound s rfl
  generalize (saveHead head).run s = result at hsave ⊢
  rcases result with ⟨_ | _, t⟩
  · exact hsave.same.consistent hs hsave.stored
  · exact hsave.same.consistent hs ⟨_, hsave.stored⟩

/-- Saves keep a store consistent, whichever of their calls fail. -/
theorem consistent_afterSaves {s : Store} (hs : s.contents.Consistent) {heads : List Head}
    (hheads : ∀ head ∈ heads, head.Storable) : (s.afterSaves heads).contents.Consistent := by
  induction heads generalizing s with
  | nil => exact hs
  | cons head heads ih =>
      obtain ⟨hhead, hheads⟩ := List.forall_mem_cons.1 hheads
      -- the next save starts from what this one left, however far it came
      exact ih (consistent_saveHead hs hhead) hheads

/-- What a save leaves, by its result. -/
structure SaveOutcome (head : Head) (before : Contents) (result : Except StoreError Unit) (after : Contents) : Prop where
  /-- The index of a model type names heads of that type alone. -/
  model : ∀ modelType id, after.InModelIndex modelType id →
    ∃ stored, after.Record id stored ∧ stored.modelType = modelType
  /-- The index of a region names heads of that region alone, and there is none for no region. -/
  region : ∀ region id, after.InRegionIndex region id →
    region ≠ "" ∧ ∃ stored, after.Record id stored ∧ stored.region = region
  /-- A save that is done has stored the head, and put it into the indexes of its record and no others. -/
  done : result = .ok () →
    after.Record head.id head ∧ (∀ modelType, after.InModelIndex modelType head.id ↔ modelType = head.modelType) ∧
      ∀ region, after.InRegionIndex region head.id ↔ region = head.region ∧ region ≠ ""
  /-- Records and memberships of other heads stay. -/
  others : ∀ id ≠ head.id, after.values.get? (headKey id) = before.values.get? (headKey id) ∧
    (∀ modelType, after.InModelIndex modelType id ↔ before.InModelIndex modelType id) ∧
    ∀ region, after.InRegionIndex region id ↔ before.InRegionIndex region id

theorem SaveOutcome.of_same {result : Except StoreError Unit} {after : Contents} (hbefore : before.Consistent)
    (hsame : before.SameBut head.id after) (hstored : ∃ found, after.StoredAs head.id found)
    (hdone : result = .ok () → Saved head before after) : SaveOutcome head before result after where
  model modelType id hmember := by
    obtain ⟨found, hfound⟩ := hsame.consistent hbefore hstored id
    obtain ⟨stored, rfl, hmodel⟩ := hfound.model modelType hmember
    exact ⟨stored, hfound.record, hmodel⟩
  region region id hmember := by
    obtain ⟨found, hfound⟩ := hsame.consistent hbefore hstored id
    obtain ⟨hempty, stored, rfl, hregion⟩ := hfound.region region hmember
    exact ⟨hempty, stored, hfound.record, hregion⟩
  done hok := by
    obtain ⟨-, hstored, hmodel, hregion⟩ := hdone hok
    refine ⟨hstored.record, fun modelType => ⟨hstored.modelType_eq, fun heq => heq ▸ hmodel⟩, fun region => ⟨?_, ?_⟩⟩
    · exact fun hmember => (hstored.region_eq hmember).symm
    · rintro ⟨rfl, hne⟩
      exact hregion hne
  others id hid :=
    ⟨hsame.value _ fun heq => hid (headKey_inj.1 heq), fun modelType => hsame.member _ id hid,
      fun region => hsame.member _ id hid⟩

/-- **Index consistency under partial failure.** After every save of a sequence that an empty store goes through,
whichever of its calls fail, the indexes name no head against its record, a save that is done is found everywhere, and
other heads are left alone. -/
theorem saveHead_outcome {s : Store} (hs : s.contents = {}) {heads : List Head} (hheads : ∀ head ∈ heads, head.Storable)
    (hhead : head.Storable) :
    let before := s.afterSaves heads
    let (result, after) := (saveHead head).run before
    SaveOutcome head before.contents result after.contents := by
  have hbefore : (s.afterSaves heads).contents.Consistent :=
    consistent_afterSaves (hs ▸ consistent_empty) hheads
  obtain ⟨found, hfound⟩ := hbefore head.id
  have hsave := ensures_saveHead hhead hfound (s.afterSaves heads) rfl
  show SaveOutcome head _ ((saveHead head).run (s.afterSaves heads)).1
    ((saveHead head).run (s.afterSaves heads)).2.contents
  generalize (saveHead head).run (s.afterSaves heads) = result at hsave ⊢
  rcases result with ⟨_ | _, t⟩
  · exact .of_same hbefore hsave.same hsave.stored nofun
  · exact .of_same hbefore hsave.same ⟨_, hsave.stored⟩ fun _ => hsave

/-- A head that serves a model type in a region since the start of the clock. -/
def startedHead (modelType region : String) : Head where
  id := "alpha"
  endpoint := "http://alpha"
  status := .active
  currentLoad := 3
  loadHistory := [1, 3]
  region := region
  modelType := modelType
  version := "1"
  metadata := .empty
  lastHeartbeat := ⟨0, 0⟩
  registeredAt := ⟨0, 0⟩
  sequence := 0
  revision := 1

theorem storable_startedHead (modelType region : String) : (startedHead modelType region).Storable := by
  have hstart : (⟨0, 0⟩ : Timestamp).Valid := ⟨by decide, by decide, by decide⟩
  have hzero : 0 < bitSpan 64 := by decide
  have hone : 1 < bitSpan 64 := by decide
  exact ⟨hstart, hstart, hzero, hone⟩

/-- A head moves to another model type and out of its region while members cannot be removed. -/
theorem saveHead_outcome_of_moved :
    let before := Store.afterSaves { outage := .ofKinds [.removeMember] } [startedHead "llama" "eu"]
    let (result, after) := (saveHead (startedHead "mistral" "")).run before
    SaveOutcome (startedHead "mistral" "") before.contents result after.contents :=
  saveHead_outcome rfl (by simpa using storable_startedHead "llama" "eu") (storable_startedHead "mistral" "")

end Store

end FleetRouting
