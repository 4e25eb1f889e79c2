import FleetRouting.Proofs.Store.Records
import FleetRouting.Proofs.Wire.Event
/-!
# FleetRouting.Proofs.RoundTrip

**What is stored and what is published survives its JSON form** (`json_survives`). Every text of it decodes to it, in
whatever order the members stand; and loading from the store is nothing but decoding the text under a key, so it gives
back what was saved there.
-/

namespace FleetRouting

/-! ### Saving and loading -/

namespace Store

variable {α : Type}

/-- The answer `a` to the next call, unless that call fails. -/
def reply (s : Store) (call : Call) (a : α) : Except StoreError α :=
  match s.outage s.calls call with
  | some e => .error e
  | none => .ok a

/-- The value of the text under a key. -/
def loadUnder (decode : Decoder Json α) (key : String) : StoreM (Option α) := do
  match ← get key with
  | some text => return some (← decodeStored decode text)
  | none => return none

theorem loadHead_eq (id : String) : loadHead id = loadUnder Head.ofJson (headKey id) := rfl

theorem loadPolicy_eq : loadPolicy = loadUnder Policy.ofJson policyKey := rfl

/-- A text that decodes is loaded as what it decodes to. -/
theorem loadUnder_of_text {decode : Decoder Json α} {key text : String} {a : α} {s : Store}
    (htext : s.contents.values.get? key = some text) (hdecode : Json.decodeText decode text = .ok a) :
    ((loadUnder decode key).run s).1 = s.reply (.get key) (some a) := by
  rw [loadUnder, get, reply]
  cases hcall : s.outage s.calls (.get key) with
  | some e => rw [run_bind_error (run_perform_error _ hcall)]
  | none =>
      have hstored : decodeStored decode text = (pure a : StoreM α) := by rw [decodeStored, hdecode]
      rw [run_bind_ok (run_perform_ok _ hcall)]
      simp only [htext, hstored]
      rfl

/-- What is saved is what is loaded. After a save that is done, `a` is loaded unless the call for it fails; so it is from
any text of `j` under the key, in whatever order that was written. Over a store that works, whose contents satisfy `P`, the
save is done. -/
structure Recalls (P : Contents → Prop) (save : StoreM Unit) (load : StoreM (Option α)) (key : String) (j : Json) (a : α) :
    Prop where
  reloaded : ∀ s : Store, (save.run s).1 = .ok () → (load.run (save.run s).2).1 = (save.run s).2.reply (.get key) (some a)
  loaded : ∀ (s : Store) (k : Json), j.Reorders k → s.contents.values.get? key = some k.toText →
    (load.run s).1 = s.reply (.get key) (some a)
  answered : ∀ s : Store, s.outage = .none → P s.contents → ((do save; load).run s).1 = .ok (some a)

/-- Saving puts the text of a value, and loading decodes it. -/
theorem recalls_of_survives {P : Contents → Prop} {save : StoreM Unit} {key : String} {decode : Decoder Json α} {j : Json}
    {a : α} (hput : ∀ s : Store, Put key j.toText s.contents.values ((save.run s).1 = .ok ()) (save.run s).2.contents.values)
    (hanswers : Answers P save fun _ _ => True) (hj : j.Survives decode a) :
    Recalls P save (loadUnder decode key) key j a := by
  have hloaded (s : Store) (k : Json) (hk : j.Reorders k) (htext : s.contents.values.get? key = some k.toText) :
      ((loadUnder decode key).run s).1 = s.reply (.get key) (some a) := loadUnder_of_text htext (hj k hk)
  have hreloaded (s : Store) (hdone : (save.run s).1 = .ok ()) :
      ((loadUnder decode key).run (save.run s).2).1 = (save.run s).2.reply (.get key) (some a) := by
    refine hloaded _ j j.reorders_refl ?_
    rw [(hput s).of_done hdone, SortedMap.get?_insert_self]
  refine ⟨hreloaded, hloaded, fun s hworks hs => ?_⟩
  obtain ⟨_, t, hrun, hworks', -⟩ := hanswers s hworks hs
  have hload := hreloaded s (by rw [hrun])
  rw [hrun, reply, hworks'] at hload
  rw [run_bind_ok hrun]
  exact hload

end Store

/-! ### What survives -/

open Store in
/-- **What is stored and published survives its JSON form.** Heads whose numbers and times are in the ranges of their
types, policies, decisions and events decode from every text of theirs; a saved head or policy is loaded again; and each
text of an event has one member `type`, which tells its kind. -/
theorem json_survives :
    (∀ h : Head, h.Storable → h.toJson.Survives Head.ofJson h ∧
      Recalls (Readable · h.id) (saveHead h) (loadHead h.id) (headKey h.id) h.toJson h) ∧
    (∀ p : Policy, p.toJson.Survives Policy.ofJson p ∧
      Recalls (fun _ => True) (savePolicy p) loadPolicy policyKey p.toJson p) ∧
    (∀ d : Decision, d.toJson.Survives Decision.ofJson d) ∧
    (∀ e : FleetEvent, e.time.Valid → e.toJson.Survives FleetEvent.ofJson e) ∧
    ∀ (e : FleetEvent) (k : Json), e.toJson.Reorders k →
      ∃ members, Json.read k.toText = .object members ∧ members.filter FleetEvent.isKind = [(some "type", .str e.kind)] := by
  refine ⟨fun h hh => ?_, fun p => ?_, fun d => d.yields_toJson.survives d.plain_toJson,
    fun e he => (FleetEvent.yields_toJson he).survives e.plain_toJson, fun e k hk => ?_⟩
  · rw [loadHead_eq]
    exact ⟨Head.survives hh, recalls_of_survives (put_saveHead · h) (answers_saveHead h) (Head.survives hh)⟩
  · rw [loadPolicy_eq]
    exact ⟨p.survives, recalls_of_survives (put_savePolicy · p) (answers_savePolicy p) p.survives⟩
  · have hread := Json.read_toText (Json.plain_of_reorders _ e.plain_toJson hk)
    obtain ⟨moved, hmoved, rfl⟩ := e.members_toJson hk
    exact ⟨_, hread, (FleetEvent.filter_isKind hmoved).1⟩

/-- A head at the ends of all ranges: its times lie in the last and in the first year that a timestamp has. -/
def distantHead : Head where
  id := "Ω \"1\"\n"
  endpoint := "http://omega"
  status := .inactive
  currentLoad := 4294967295
  loadHistory := [0, 4294967295]
  region := ""
  modelType := "llama"
  version := ""
  metadata := .ofList [("zone", "β"), ("owner", "")]
  lastHeartbeat := ⟨8210266876799, 999999999⟩
  registeredAt := ⟨-8334601228800, 1⟩
  sequence := 18446744073709551615
  revision := 18446744073709551615

theorem storable_distantHead : distantHead.Storable where
  lastHeartbeat := ⟨by decide, by decide, by decide⟩
  registeredAt := ⟨by decide, by decide, by decide⟩
  sequence := by decide
  revision := by decide

open Store in
/-- The distant head and its event survive, and a new store recalls the head. -/
theorem json_survives_distant :
    distantHead.toJson.Survives Head.ofJson distantHead ∧
      ((do saveHead distantHead; loadHead distantHead.id).run {}).1 = .ok (some distantHead) ∧
      (FleetEvent.statusChanged distantHead).toJson.Survives FleetEvent.ofJson (.statusChanged distantHead) := by
  obtain ⟨hheads, -, -, hevents, -⟩ := json_survives
  obtain ⟨hsurvives, hrecalls⟩ := hheads distantHead storable_distantHead
  have hreadable : Readable {} distantHead.id := nofun
  have hsaved := hrecalls.answered {} rfl hreadable
  exact ⟨hsurvives, hsaved, hevents (.statusChanged distantHead) storable_distantHead.lastHeartbeat⟩

end FleetRouting
