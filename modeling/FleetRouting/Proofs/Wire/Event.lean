import FleetRouting.Proofs.Binary64.Text
import FleetRouting.Proofs.Uuid
import FleetRouting.Proofs.Wire.Routing
import FleetRouting.Wire.Event
/-!
# FleetRouting.Proofs.Wire.Event

**An event decodes from what it is published as** (`FleetEvent.yields_toJson`), in whatever order its members stand: the
kind is the value of the one member `type` among them, and what is left are the fields of that kind. The values have no
parts, so an event is always sound enough to be held in memory before its kind is known.
-/

namespace FleetRouting

open Json

/-! ### Values that can be held -/

namespace Json

theorem numberOverflows_nat {n : Nat} (hn : n ≤ 2 ^ 53) : numberOverflows (toString n) = false := by
  rw [numberOverflows, Binary64.read?_nat hn, Binary64.ofNat_eq hn]

theorem isSound_word (depth : Nat) (n : UInt32) : (ofWord n).isSound depth = true := by
  have hn : n.toNat ≤ 2 ^ 53 := by
    have hlt := n.toNat_lt
    omega
  rw [ofWord, nat, isSound, numberOverflows_nat hn]
  rfl

theorem isSound_obj {depth : Nat} {members : List (String × Json)} (h : ∀ m ∈ members, m.2.isSound depth = true) :
    (obj members).isSound (depth + 1) = true := by
  show membersSound depth (members.map fun m => (some m.1, m.2)) = true
  induction members with
  | nil => rfl
  | cons m members ih =>
      obtain ⟨hfirst, hrest⟩ := List.forall_mem_cons.1 h
      rw [List.map_cons, membersSound, hfirst, ih hrest]
      rfl

end Json

/-! ### Values of fields -/

theorem Uuid.yields_toJson (u : Uuid) : Yields Uuid.ofJson u.toJson u := by
  refine yields_of_isScalar trivial ?_
  simp only [Uuid.ofJson, Uuid.toJson, text_str, bind, Except.bind, read?_toText]

theorem HeadStatus.yields_heldChoice (s : HeadStatus) : Yields (heldChoice HeadStatus.names) s.toJson s := by
  refine yields_of_isScalar trivial ?_
  cases s <;> rfl

/-! ### Events -/

namespace FleetEvent

/-- When an event happened. -/
def time : FleetEvent → Timestamp
  | headRegistered _ _ _ _ timestamp => timestamp
  | headStatusChanged _ _ _ timestamp => timestamp
  | routingDecided _ _ _ _ timestamp => timestamp
  | policyUpdated _ timestamp => timestamp

/-- The value of a field is a text or a number of 32 bits. -/
theorem value_cases (e : FleetEvent) : ∀ m ∈ e.members, (∃ s, m.2 = str s) ∨ ∃ n, m.2 = ofWord n := by
  intro m hm
  cases e with
  | headRegistered =>
      simp only [members, List.mem_cons, List.not_mem_nil, or_false] at hm
      rcases hm with rfl | rfl | rfl | rfl | rfl <;> exact .inl ⟨_, rfl⟩
  | headStatusChanged =>
      simp only [members, List.mem_cons, List.not_mem_nil, or_false] at hm
      rcases hm with rfl | rfl | rfl | rfl
      case inr.inr.inl => exact .inr ⟨_, rfl⟩
      all_goals exact .inl ⟨_, rfl⟩
  | routingDecided =>
      simp only [members, List.mem_cons, List.not_mem_nil, or_false] at hm
      rcases hm with rfl | rfl | rfl | rfl | rfl <;> exact .inl ⟨_, rfl⟩
  | policyUpdated =>
      simp only [members, List.mem_cons, List.not_mem_nil, or_false] at hm
      rcases hm with rfl | rfl <;> exact .inl ⟨_, rfl⟩

open Fields.Reads in
/-- The fields of its kind take back what an event is made of. -/
theorem reads_members {e : FleetEvent} (he : e.time.Valid) : ∃ fields, fields? e.kind = some fields ∧ fields.Reads e.members e := by
  cases e with
  | headRegistered headId endpoint modelType region timestamp =>
      exact ⟨_, rfl, ((((map headRegistered (required (yields_str headId))).seq
        (required (yields_str endpoint))).seq
        (required (yields_str modelType))).seq
        (required (yields_str region))).seq
        (required (yields_timestamp he))⟩
  | headStatusChanged headId status currentLoad timestamp =>
      exact ⟨_, rfl, (((map headStatusChanged (required (yields_str headId))).seq
        (required status.yields_heldChoice)).seq
        (required (yields_word currentLoad))).seq
        (required (yields_timestamp he))⟩
  | routingDecided decisionId modelType headId strategyUsed timestamp =>
      exact ⟨_, rfl, ((((map routingDecided (required decisionId.yields_toJson)).seq
        (required (yields_str modelType))).seq
        (required (yields_str headId))).seq
        (required (yields_str strategyUsed))).seq
        (required (yields_timestamp he))⟩
  | policyUpdated defaultStrategy timestamp =>
      exact ⟨_, rfl, (map policyUpdated (required defaultStrategy.yields_toJson)).seq (required (yields_timestamp he))⟩

/-- No two members of an event share a name. -/
theorem nodup_names (e : FleetEvent) : ("type" :: e.members.map Prod.fst).Nodup := by
  cases e with
  | headRegistered => exact (by decide : ["type", "head_id", "endpoint", "model_type", "region", "timestamp"].Nodup)
  | headStatusChanged => exact (by decide : ["type", "head_id", "status", "current_load", "timestamp"].Nodup)
  | routingDecided =>
      exact (by decide : ["type", "decision_id", "model_type", "head_id", "strategy_used", "timestamp"].Nodup)
  | policyUpdated => exact (by decide : ["type", "default_strategy", "timestamp"].Nodup)

/-- The members of an event as an object has them. -/
theorem members_toJson (e : FleetEvent) {k : Json} (h : e.toJson.Reorders k) :
    ∃ moved : List (String × Json), moved.Perm (("type", .str e.kind) :: e.members) ∧ k = obj moved := by
  refine reorders_obj_of_isScalar (fun m hm => ?_) h
  rcases List.mem_cons.1 hm with rfl | hm
  · trivial
  · rcases e.value_cases m hm with ⟨s, hs⟩ | ⟨n, hn⟩
    · exact hs ▸ trivial
    · exact hn ▸ trivial

/-- An event can be held in memory before its kind is known. -/
theorem isSound_of_perm {e : FleetEvent} {moved : List (String × Json)}
    (hmoved : moved.Perm (("type", .str e.kind) :: e.members)) : (obj moved).isSound maxDepth = true := by
  refine isSound_obj fun m hm => ?_
  rcases List.mem_cons.1 (hmoved.mem_iff.1 hm) with rfl | hm
  · rfl
  · rcases e.value_cases m hm with ⟨s, hs⟩ | ⟨n, hn⟩
    · rw [hs]
      rfl
    · rw [hn]
      exact isSound_word _ n

/-- **One member tells the kind of an event, and the others are its fields.** -/
theorem filter_isKind {e : FleetEvent} {moved : List (String × Json)}
    (hmoved : moved.Perm (("type", .str e.kind) :: e.members)) :
    (moved.map fun m => (some m.1, m.2)).filter isKind = [(some "type", .str e.kind)] ∧
      ∃ rest : List (String × Json), rest.Perm e.members ∧
        (moved.map fun m => (some m.1, m.2)).filter (fun m => !isKind m) = rest.map fun m => (some m.1, m.2) := by
  have hothers : ∀ m ∈ e.members, (m.1 == "type") = false := by
    intro m hm
    refine beq_eq_false_iff_ne.2 fun heq => (List.nodup_cons.1 e.nodup_names).1 ?_
    exact heq ▸ List.mem_map_of_mem hm
  have hkind : (moved.filter fun m => m.1 == "type").Perm [("type", .str e.kind)] := by
    refine (hmoved.filter _).trans (.of_eq ?_)
    rw [List.filter_cons, if_pos (beq_self_eq_true "type"), List.filter_eq_nil_iff.2 fun m hm => by simp [hothers m hm]]
  have hrest : (moved.filter fun m => !(m.1 == "type")).Perm e.members := by
    refine (hmoved.filter _).trans (.of_eq ?_)
    rw [List.filter_cons, if_neg (by simp), List.filter_eq_self.2 fun m hm => by simp [hothers m hm]]
  constructor
  · rw [List.filter_map]
    show (moved.filter fun m => m.1 == "type").map _ = _
    rw [List.perm_singleton.1 hkind]
    rfl
  · exact ⟨_, hrest, List.filter_map⟩

/-- **An event is what its JSON form yields,** in any order. -/
theorem yields_toJson {e : FleetEvent} (he : e.time.Valid) : Yields FleetEvent.ofJson e.toJson e := by
  intro k hk
  obtain ⟨moved, hmoved, rfl⟩ := e.members_toJson hk
  obtain ⟨hkind, rest, hrest, hfields⟩ := filter_isKind hmoved
  obtain ⟨fields, hknown, hreads⟩ := reads_members he
  have hrecord : record fields (obj rest) = .ok e :=
    hreads.record (List.nodup_cons.1 e.nodup_names).2 _ (reorders_of_perm hrest)
  have hbody : ofKind (.str e.kind) (obj rest) = .ok e := by
    simp only [ofKind, text_str, bind, Except.bind, hknown, hrecord]
  have hsound := isSound_of_perm hmoved
  rw [obj] at hsound ⊢
  rw [ofJson, if_pos hsound, hkind, hfields]
  exact hbody

/-- What is written for an event is a value without defects. -/
theorem plain_toJson (e : FleetEvent) : e.toJson.Plain := by
  refine plain_obj fun m hm => ?_
  rcases List.mem_cons.1 hm with rfl | hm
  · exact plain_str _
  · rcases e.value_cases m hm with ⟨s, hs⟩ | ⟨n, hn⟩
    · exact hs ▸ plain_str s
    · exact hn ▸ plain_nat _

end FleetEvent

end FleetRouting
