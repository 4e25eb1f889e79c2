import FleetRouting.Json.Printer
import FleetRouting.Proofs.Json.Record
import FleetRouting.Proofs.Time.Rfc3339
import FleetRouting.Wire.Head
/-!
# FleetRouting.Proofs.Wire.Head

**A head decodes from the text it is stored as** (`Head.decodeText_toText`), when its numbers and times are in the
ranges of their types. Field by field the decoder takes back what the encoder gave, whatever the order of the members
(`Head.yields_toJson`).
-/

namespace FleetRouting

open Json

/-! ### Values of fields -/

theorem Json.word_ofWord (n : UInt32) : word (ofWord n) = .ok n := by
  have hnat : natural (bitSpan 32) (nat n.toNat) = .ok n.toNat := natural_nat n.toNat_lt
  rw [word, ofWord, hnat]
  exact congrArg Except.ok UInt32.ofNat_toNat

theorem Json.timestamp_ofTimestamp {t : Timestamp} (ht : t.Valid) : timestamp (ofTimestamp t) = .ok t := by
  simp only [timestamp, ofTimestamp, text_str, bind, Except.bind, Timestamp.read?_toText ht]

theorem Json.valid_of_timestamp {j : Json} {t : Timestamp} (h : timestamp j = .ok t) : t.Valid := by
  unfold timestamp at h
  cases htext : text j with
  | error e =>
      rw [htext] at h
      cases h
  | ok s =>
      rw [htext] at h
      simp only [bind, Except.bind] at h
      split at h
      · next hread =>
          obtain rfl := Except.ok.inj h
          exact Timestamp.valid_of_read? hread
      · cases h

theorem HeadStatus.ofJson_toJson (s : HeadStatus) : HeadStatus.ofJson s.toJson = .ok s := by
  cases s <;> rfl

theorem Json.yields_str (s : String) : Yields text (str s) s := yields_of_isScalar trivial (text_str s)

theorem Json.yields_word (n : UInt32) : Yields word (ofWord n) n := yields_of_isScalar trivial (word_ofWord n)

theorem Json.yields_natural {bound n : Nat} (h : n < bound) : Yields (natural bound) (nat n) n :=
  yields_of_isScalar trivial (natural_nat h)

theorem Json.yields_timestamp {t : Timestamp} (ht : t.Valid) : Yields timestamp (ofTimestamp t) t :=
  yields_of_isScalar trivial (timestamp_ofTimestamp ht)

theorem Json.yields_metadata (m : Metadata) : Yields metadata (ofMetadata m) m := yields_dict m yields_str

theorem Json.plain_metadata (m : Metadata) : (ofMetadata m).Plain := by
  refine plain_obj fun m hm => ?_
  obtain ⟨e, -, rfl⟩ := List.mem_map.1 hm
  exact plain_str _

/-! ### The record -/

/-- A head whose numbers and times are in the ranges of their types. -/
structure Head.Storable (h : Head) : Prop where
  lastHeartbeat : h.lastHeartbeat.Valid
  registeredAt : h.registeredAt.Valid
  sequence : h.sequence < bitSpan 64
  revision : h.revision < bitSpan 64

namespace Head

open Fields.Reads in
/-- **The fields of a head take back its values,** in any order. -/
theorem yields_toJson {h : Head} (hh : h.Storable) : Yields Head.ofJson h.toJson h := by
  have hstatus : Yields HeadStatus.ofJson h.status.toJson h.status := yields_of_isScalar trivial h.status.ofJson_toJson
  have hreads : Head.fields.Reads _ h := ((((((((((((map Head.mk (required (yields_str h.id))).seq
    (required (yields_str h.endpoint))).seq
    (required hstatus)).seq
    (required (yields_word h.currentLoad))).seq
    (optional (yields_list fun n _ => yields_word n))).seq
    (required (yields_str h.region))).seq
    (required (yields_str h.modelType))).seq
    (required (yields_str h.version))).seq
    (optional (yields_metadata h.metadata))).seq
    (required (yields_timestamp hh.lastHeartbeat))).seq
    (required (yields_timestamp hh.registeredAt))).seq
    (optional (yields_natural hh.sequence))).seq
    (optional (yields_natural hh.revision))
  have hnames : ["head_id", "endpoint", "status", "current_load", "load_history", "region", "model_type", "version",
      "metadata", "last_heartbeat", "registered_at", "sequence", "revision"].Nodup := by decide
  exact hreads.record hnames

/-- What is written for a head is a value without defects. -/
theorem plain_toJson (h : Head) : h.toJson.Plain := by
  refine plain_obj fun m hm => ?_
  simp only [List.mem_cons, List.not_mem_nil, or_false] at hm
  rcases hm with rfl | rfl | rfl | rfl | rfl | rfl | rfl | rfl | rfl | rfl | rfl | rfl | rfl
  -- the loads and the metadata are made of parts, all else is text or a number
  case inr.inr.inr.inr.inl =>
      refine plain_array fun j hj => ?_
      obtain ⟨n, -, rfl⟩ := List.mem_map.1 hj
      exact plain_nat _
  case inr.inr.inr.inr.inr.inr.inr.inr.inl =>
      exact plain_metadata h.metadata
  all_goals first | exact plain_str _ | exact plain_nat _

/-- **A head decodes from its text,** in whatever order that was written. -/
theorem survives {h : Head} (hh : h.Storable) : h.toJson.Survives Head.ofJson h := (yields_toJson hh).survives h.plain_toJson

theorem decodeText_toText {h : Head} (hh : h.Storable) : decodeText Head.ofJson h.toJson.toText = .ok h :=
  (survives hh).decodeText_eq

open Fields Gives in
/-- The times of a head that is decoded are times that a clock can show. -/
theorem valid_of_ofJson {j : Json} {h : Head} (hdecode : Head.ofJson j = .ok h) :
    h.lastHeartbeat.Valid ∧ h.registeredAt.Valid := by
  have hgives : Head.fields.Gives fun h => h.lastHeartbeat.Valid ∧ h.registeredAt.Valid := by
    -- the fields are gone through from the first one on, and only the times matter
    iterate 12 apply seq
    apply map
    iterate 9 refine any fun _ => ?_
    refine required fun _ _ hheartbeat => required fun _ _ hregistered => ?_
    iterate 2 refine any fun _ => ?_
    exact ⟨valid_of_timestamp hheartbeat, valid_of_timestamp hregistered⟩
  exact hgives.record hdecode

end Head

end FleetRouting
