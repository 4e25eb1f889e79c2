import FleetRouting.Proofs.Lineup
import FleetRouting.Proofs.Persistence
/-!
# FleetRouting.Proofs.Restart

**A service that starts over its own store finds its state again.** Take services that follow one another over one
store that begins empty and never fails, each restoring what it finds, while the wall clock does not go back
(`Session.Unbroken`). Then at every point the store mirrors the service: it holds a record of each head that differs
from the head by its revision at most, and the policy (`Service.Mirrored`). So a new service over the store has the
same heads in the same order, and the same policy (`Session.Unbroken.resumes`).
-/

namespace FleetRouting

/-! ### A store that mirrors its service -/

namespace Service

/-- The store holds a record of each head of a service, which may have another revision, and its policy, unless that is
the one of the beginning, and no other texts. -/
structure Mirrored (s : Service) : Prop where
  record : ∀ h ∈ s.router.registry.heads, ∃ revision < bitSpan 64,
    s.texts.get? (Store.headKey h.id) = some (h.revised revision).text
  known : ∀ key text, s.texts.get? key = some text →
    key = Store.policyKey ∨ ∃ h ∈ s.router.registry.heads, Store.headKey h.id = key
  policy : ∃ found : Option Policy,
    s.texts.get? Store.policyKey = found.map (fun p => p.toJson.toText) ∧ s.router.policy = found.getD {}

/-- A service that knows nothing over a store that holds nothing. -/
theorem mirrored_start {store : Store} (hempty : store.contents = {}) (breaker : Breaker) (bus : Bus)
    (cacheTtl : Option Duration) : (start store breaker bus cacheTtl).Mirrored := by
  have htexts : (start store breaker bus cacheTtl).texts = .empty := congrArg Contents.values hempty
  refine ⟨nofun, fun key text htext => ?_, none, ?_, rfl⟩
  · rw [htexts] at htext
    cases htext
  · rw [htexts]
    rfl

/-- As long as the counters have not run through, any record of a head can be decoded. -/
theorem Mirrored.decode {s : Service} (hs : s.Mirrored) (hregistry : s.router.registry.Sound)
    (hlast : s.router.registry.lastRevision < bitSpan 64) {h : Head} (hh : h ∈ s.router.registry.heads) :
    ∃ (text : String) (record : Head), s.texts.get? (Store.headKey h.id) = some text ∧
      Json.decodeText Head.ofJson text = .ok record ∧ record.id = h.id ∧ record.unrevised = h.unrevised := by
  obtain ⟨revision, hrevision, htext⟩ := hs.record h hh
  have hstorable := hregistry.storable hlast (hregistry.fits h hh)
  have hdecode := Head.decodeText_toText (h := h.revised revision)
    ⟨hstorable.lastHeartbeat, hstorable.registeredAt, hstorable.sequence, hrevision⟩
  exact ⟨_, _, htext, hdecode, rfl, rfl⟩

section

variable {s : Service} (hs : s.Mirrored) (hregistry : s.router.registry.Sound)
  (hlast : s.router.registry.lastRevision < bitSpan 64)

include hs hregistry hlast

theorem Mirrored.decodable :
    Store.Decodable s.texts (s.texts.keys.filter fun key => key.startsWith Store.headKeyStart) := by
  intro key hkey
  obtain ⟨hmem, hstart⟩ := List.mem_filter.1 hkey
  obtain ⟨text, htext⟩ := SortedMap.mem_keys.1 hmem
  rcases hs.known key text htext with rfl | ⟨h, hh, rfl⟩
  · have hpolicy : Store.policyKey.startsWith Store.headKeyStart = false := by decide +kernel
    rw [hpolicy] at hstart
    cases hstart
  · obtain ⟨text, record, htext, hdecode, hid, -⟩ := hs.decode hregistry hlast hh
    exact ⟨text, record, htext, hdecode, congrArg Store.headKey hid⟩

/-- The heads that are loaded are the heads of the service, up to their order and their revisions. -/
theorem Mirrored.perm_of_decoded {records : List Head}
    (hrecords : Store.Decoded s.texts (s.texts.keys.filter fun key => key.startsWith Store.headKeyStart) records) :
    (records.map Head.unrevised).Perm (s.router.registry.heads.map Head.unrevised) := by
  have hkeys : (s.texts.keys.filter fun key => key.startsWith Store.headKeyStart).Nodup := s.texts.nodup_keys.filter _
  have hnodup : (records.map Head.unrevised).Nodup := by
    refine List.Nodup.of_map (fun h : Head => Store.headKey h.id) ?_
    rw [List.map_map]
    exact hrecords.keys ▸ hkeys
  have hnodup' : (s.router.registry.heads.map Head.unrevised).Nodup := by
    refine List.Nodup.of_map Head.id ?_
    rw [List.map_map]
    exact hregistry.distinct
  -- a record and the head of its identifier are alike
  have hlike {record h : Head} (hrecord : record ∈ records) (hh : h ∈ s.router.registry.heads) (hid : record.id = h.id) :
      record.unrevised = h.unrevised := by
    obtain ⟨text, htext, hdecode⟩ := hrecords.decode record hrecord
    obtain ⟨text', record', htext', hdecode', -, hlike⟩ := hs.decode hregistry hlast hh
    rw [hid] at htext
    obtain rfl := Option.some.inj (htext.symm.trans htext')
    obtain rfl := Except.ok.inj (hdecode.symm.trans hdecode')
    exact hlike
  refine (List.perm_ext_iff_of_nodup hnodup hnodup').2 fun h => ⟨fun hh => ?_, fun hh => ?_⟩
  · obtain ⟨record, hrecord, rfl⟩ := List.mem_map.1 hh
    obtain ⟨text, htext, hdecode⟩ := hrecords.decode record hrecord
    rcases hs.known _ text htext with hkey | ⟨h, hh, hkey⟩
    · exact absurd hkey.symm (Store.policyKey_ne_headKey record.id)
    · exact List.mem_map.2 ⟨h, hh, (hlike hrecord hh (Store.headKey_inj.1 hkey).symm).symm⟩
  · obtain ⟨h, hlisted, rfl⟩ := List.mem_map.1 hh
    obtain ⟨revision, -, htext⟩ := hs.record h hlisted
    have hkey : Store.headKey h.id ∈ s.texts.keys.filter fun key => key.startsWith Store.headKeyStart := by
      refine List.mem_filter.2 ⟨SortedMap.mem_keys.2 ⟨_, htext⟩, ?_⟩
      rw [String.startsWith_string_iff, Store.headKey, String.toList_append]
      exact List.prefix_append _ _
    rw [← hrecords.keys] at hkey
    obtain ⟨record, hrecord, hid⟩ := List.mem_map.1 hkey
    exact List.mem_map.2 ⟨record, hrecord, hlike hrecord hlisted (Store.headKey_inj.1 hid)⟩

end

/-- What a new service comes to that starts over a store which mirrors a service. -/
structure Resumes (s : Service) (report : BootstrapReport) (t : Service) : Prop where
  heads : t.router.registry.heads.map Head.unrevised = s.router.registry.heads.map Head.unrevised
  policy : t.router.policy = s.router.policy
  count : report.headsRestored = s.router.registry.heads.length

theorem Mirrored.of_resumes {s t : Service} {report : BootstrapReport} (hs : s.Mirrored) (hresumes : s.Resumes report t)
    (htexts : t.texts = s.texts) : t.Mirrored := by
  refine ⟨fun h hh => ?_, fun key text htext => ?_, ?_⟩
  · have hmem := hresumes.heads ▸ List.mem_map_of_mem (f := Head.unrevised) hh
    obtain ⟨h', hh', hlike⟩ := List.mem_map.1 hmem
    obtain ⟨revision, hrange, htext⟩ := hs.record h' hh'
    rw [Head.id_eq_of_unrevised hlike, Head.revised_eq_of_unrevised hlike, ← htexts] at htext
    exact ⟨revision, hrange, htext⟩
  · refine (hs.known key text (htexts ▸ htext)).imp_right ?_
    rintro ⟨h, hh, rfl⟩
    have hmem := hresumes.heads.symm ▸ List.mem_map_of_mem (f := Head.unrevised) hh
    obtain ⟨h', hh', hlike⟩ := List.mem_map.1 hmem
    exact ⟨h', hh', congrArg Store.headKey (Head.id_eq_of_unrevised hlike)⟩
  · rw [htexts, hresumes.policy]
    exact hs.policy

/-- **A new service over a store that mirrors a service resumes its state.** -/
theorem Mirrored.bootstrap {s : Service} (hs : s.Mirrored) (hregistry : s.router.registry.Sound)
    (hlast : s.router.registry.lastRevision < bitSpan 64) {now : Timestamp} (hlined : s.router.registry.Lined now)
    {store : Store} (hcontents : store.contents.values = s.texts) (houtage : store.outage = .none) (breaker : Breaker)
    (bus : Bus) (cacheTtl : Option Duration) :
    let result := (start store breaker bus cacheTtl).bootstrap
    s.Resumes result.1 result.2 ∧ result.2.router.registry.nextSequence = s.router.registry.nextSequence ∧
      result.2.router.registry.lastRevision = s.router.registry.nextSequence ∧ result.2.texts = s.texts ∧
        result.2.store.outage = .none ∧ result.2.breaker = breaker := by
  intro result
  obtain ⟨found, hfound, hpolicy⟩ := hs.policy
  obtain ⟨records, store', hload, hworks, htexts, hrecords⟩ :=
    Store.answers_loadHeads (hs.decodable hregistry hlast) store houtage hcontents
  obtain ⟨answer, store'', hload', hworks', hanswer, htexts'⟩ := Store.answers_loadPolicy hfound store' hworks htexts
  rw [hanswer] at hload'
  obtain ⟨hheads, hnext, hlastRevision⟩ :=
    hlined.unrevised_restore hregistry.distinct (hs.perm_of_decoded hregistry hlast hrecords)
  have hcount : records.length = s.router.registry.heads.length := by
    have hlength := (hs.perm_of_decoded hregistry hlast hrecords).length_eq
    rwa [List.length_map, List.length_map] at hlength
  have hresult : result = (⟨records.length, found.isSome⟩,
      { router := { registry := .restore {} records, policy := found.getD {}, cache := { ttl := cacheTtl } }
        store := store'', breaker := breaker, bus := bus }) := by
    simp only [result, Service.bootstrap, call, start, hload, withRegistry, hload']
    cases found with
    | none => rfl
    | some policy => rfl
  rw [hresult]
  exact ⟨⟨hheads, hpolicy.symm, hcount⟩, hnext, hlastRevision, htexts', hworks', rfl⟩

end Service

/-! ### Commands over a store that works -/

namespace Router

theorem mem_writes_of_mem_snapshots {r : Router} {now : Moment} {c : Command} {h : Head} (hh : h ∈ r.snapshots now c) :
    (Store.headKey h.id, h.text) ∈ r.writes now c := by
  cases c with
  | setPolicy policy => cases hh
  | _ => exact List.mem_map_of_mem hh

theorem key_of_mem_writes {r : Router} {now : Moment} {c : Command} {key text : String} (hw : (key, text) ∈ r.writes now c) :
    key = Store.policyKey ∨ ∃ h ∈ r.snapshots now c, Store.headKey h.id = key := by
  have hheads (hw : (key, text) ∈ (r.snapshots now c).map fun h => (Store.headKey h.id, h.text)) :
      ∃ h ∈ r.snapshots now c, Store.headKey h.id = key := by
    obtain ⟨h, hh, heq⟩ := List.mem_map.1 hw
    exact ⟨h, hh, congrArg Prod.fst heq⟩
  cases c with
  | setPolicy policy => exact .inl (congrArg Prod.fst (List.mem_singleton.1 hw))
  | _ => exact .inr (hheads hw)

/-- The policy in force is the one that is written, or none is written. -/
theorem policy_outcome (r : Router) (now : Moment) (c : Command) :
    (∃ policy, (r.outcome now c).router.policy = policy ∧ r.writes now c = [(Store.policyKey, policy.toJson.toText)]) ∨
      (r.outcome now c).router.policy = r.policy ∧ ∀ text, (Store.policyKey, text) ∉ r.writes now c := by
  have hheads (heads : List Head) (text : String) :
      (Store.policyKey, text) ∉ heads.map fun h => (Store.headKey h.id, h.text) := by
    intro hmem
    obtain ⟨h, -, heq⟩ := List.mem_map.1 hmem
    exact Store.policyKey_ne_headKey h.id (congrArg Prod.fst heq).symm
  cases c with
  | setPolicy policy => exact .inl ⟨policy, rfl, rfl⟩
  | _ => exact .inr ⟨(r.moves_outcome now _).policy_eq nofun, hheads _⟩

end Router

/-- Over a store that works, what is written of a head is the head, so the store goes on to mirror the service. -/
theorem Service.Mirrored.respond {s : Service} (hs : s.Mirrored) (hregistry : s.router.registry.Sound) (hgated : s.Gated)
    (hworks : s.Works) {now : Moment} {c : Command} (hafter : Distinct (s.respond now c).2.router.registry.heads)
    (hstorable : ∀ h ∈ s.router.snapshots now c, h.Storable) : (s.respond now c).2.Mirrored := by
  have hrouter := (respond_follows s now c).router
  have hmakes := Router.makes_outcome hregistry.distinct now c
  have hputs := (respond_puts now c hregistry.distinct hgated True fun _ => .inr ⟨hworks, hstorable⟩).1
  rw [← hrouter.registry] at hmakes
  refine ⟨?_, ?_, ?_⟩
  · intro h hh
    rcases hputs.get? (Store.headKey h.id) with ⟨text, hw, htext⟩ | ⟨htext, hnone⟩
    · obtain ⟨made, hmade, hid, rfl⟩ := Router.snapshot_of_mem_writes hw
      obtain rfl := hafter.eq_of_id_eq (hmakes.listed made hmade) hh hid
      exact ⟨made.revision, (hstorable made hmade).revision, htext⟩
    · rcases hmakes.others h hh with hmade | hold
      · exact absurd (Router.mem_writes_of_mem_snapshots hmade) (hnone trivial h.text)
      · obtain ⟨revision, hrevision, hrecord⟩ := hs.record h hold
        exact ⟨revision, hrevision, htext.trans hrecord⟩
  · intro key text htext
    rcases hputs.get? key with ⟨text', hw, -⟩ | ⟨hsame, -⟩
    · refine (Router.key_of_mem_writes hw).imp_right ?_
      rintro ⟨h, hh, rfl⟩
      exact ⟨h, hmakes.listed h hh, rfl⟩
    · rw [hsame] at htext
      refine (hs.known key text htext).imp_right ?_
      rintro ⟨h, hh, rfl⟩
      obtain ⟨h', hh', hid⟩ := hmakes.stays h hh
      exact ⟨h', hh', congrArg Store.headKey hid⟩
  · rw [hrouter.policy]
    rcases s.router.policy_outcome now c with ⟨policy, hpolicy, hwrites⟩ | ⟨hpolicy, hnone⟩
    · refine ⟨some policy, ?_, hpolicy⟩
      rcases hputs.get? Store.policyKey with ⟨text, hw, htext⟩ | ⟨-, hnone⟩
      · rw [hwrites, List.mem_singleton] at hw
        rw [htext, (Prod.mk.inj hw).2]
        rfl
      · exact absurd (hwrites ▸ List.mem_singleton_self _) (hnone trivial policy.toJson.toText)
    · obtain ⟨found, hfound, hforce⟩ := hs.policy
      refine ⟨found, ?_, hpolicy.trans hforce⟩
      rcases hputs.get? Store.policyKey with ⟨text, hw, -⟩ | ⟨htext, -⟩
      · exact absurd hw (hnone text)
      · exact htext.trans hfound

/-! ### Services that follow one another -/

namespace Session

/-- The sessions of services that follow one another over one store. It begins empty and never fails, every service
restores what it finds before anything else, and the wall clock never goes back. -/
inductive Unbroken : Session → Prop where
  | first {store : Store} {breaker : Breaker} (bus : Bus) (cacheTtl : Option Duration) {now : Moment}
      (hempty : store.contents = {}) (houtage : store.outage = .none) (hbreaker : breaker.circuits = .empty)
      (hnow : now.wall.Valid) : Unbroken (start store breaker bus cacheTtl now).bootstrapped
  | step {x : Session} (h : Unbroken x) {c : Command} (hshows : c.ShowsTime)
      (hforward : (x.now.afterCommand c).wall.before x.now.wall = false)
      (hlast : (x.step c).2.lastRevision < bitSpan 64) : Unbroken (x.step c).2
  | restart {x : Session} (h : Unbroken x) {store : Store} {breaker : Breaker} (bus : Bus) (cacheTtl : Option Duration)
      {now : Moment} (hcontents : store.contents = x.service.store.contents) (houtage : store.outage = .none)
      (hbreaker : breaker.circuits = .empty) (hnow : now.wall.Valid) (hforward : now.wall.before x.now.wall = false) :
      Unbroken (start store breaker bus cacheTtl now).bootstrapped

/-- A session with all its state in a store that works. -/
structure Intact (x : Session) : Prop where
  orderly : x.Orderly
  lined : x.service.router.registry.Lined x.now.wall
  works : x.service.Works
  mirrored : x.service.Mirrored
  last : x.lastRevision < bitSpan 64

theorem Intact.step {x : Session} (hx : x.Intact) {c : Command} (hshows : c.ShowsTime)
    (hforward : (x.now.afterCommand c).wall.before x.now.wall = false)
    (hlast : (x.step c).2.lastRevision < bitSpan 64) : (x.step c).2.Intact := by
  have horderly := hx.orderly.step hshows
  have hstorable : ∀ h ∈ x.service.router.snapshots x.now c, h.Storable :=
    fun h hh => hx.orderly.storable hshows hlast hh
  refine ⟨horderly, ?_, Service.works_respond x.now c hx.works hstorable, ?_, hlast⟩
  · have hlined := Router.lined_outcome hx.lined hx.orderly.registry.distinct c
    rw [← (Service.respond_follows x.service x.now c).router.registry] at hlined
    exact hlined.later hforward
  · exact hx.mirrored.respond hx.orderly.registry hx.orderly.gated hx.works horderly.registry.distinct hstorable

/-- A service that starts over a store which mirrors another one is intact. -/
theorem intact_bootstrapped {s : Service} (hs : s.Mirrored) (hregistry : s.router.registry.Sound)
    (hlast : s.router.registry.lastRevision < bitSpan 64) {earlier : Timestamp} (hlined : s.router.registry.Lined earlier)
    {store : Store} {breaker : Breaker} (bus : Bus) (cacheTtl : Option Duration) {now : Moment}
    (hcontents : store.contents.values = s.texts) (hreadable : ∀ id, Store.Readable store.contents id)
    (houtage : store.outage = .none) (hbreaker : breaker.circuits = .empty) (hnow : now.wall.Valid)
    (hforward : now.wall.before earlier = false) : (start store breaker bus cacheTtl now).bootstrapped.Intact := by
  obtain ⟨hresumes, hnext, hrevision, htexts, hworks, hfresh⟩ :=
    hs.bootstrap hregistry hlast hlined hcontents houtage breaker bus cacheTtl
  have hreadable' : ∀ id, Store.Readable (Service.start store breaker bus cacheTtl).bootstrap.2.store.contents id := by
    intro id text htext
    have hsame : (Service.start store breaker bus cacheTtl).bootstrap.2.store.contents.values = store.contents.values :=
      htexts.trans hcontents.symm
    exact hreadable id text (hsame ▸ htext)
  refine ⟨(Begun.restored store breaker bus cacheTtl hnow).orderly, ?_, ⟨hworks, ?_, hreadable'⟩,
    hs.of_resumes hresumes htexts, ?_⟩
  · exact (hlined.later hforward).of_unrevised_eq hresumes.heads hnext
  · show (Service.start store breaker bus cacheTtl).bootstrap.2.breaker.Unfailed Service.storeService
    rw [hfresh]
    exact Breaker.unfailed_of_empty hbreaker
  · show (Service.start store breaker bus cacheTtl).bootstrap.2.router.registry.lastRevision < bitSpan 64
    rw [hrevision]
    exact hregistry.counters.trans_lt hlast

theorem Unbroken.intact {x : Session} (hx : x.Unbroken) : x.Intact := by
  induction hx with
  | @first store breaker bus cacheTtl now hempty houtage hbreaker hnow =>
      have hreadable (id : String) : Store.Readable store.contents id := by
        intro text htext
        rw [hempty] at htext
        cases htext
      exact intact_bootstrapped (Service.mirrored_start hempty breaker bus cacheTtl) Registry.sound_empty (bitSpan_pos 64)
        (Registry.lined_empty now.wall) bus cacheTtl rfl hreadable houtage hbreaker hnow now.wall.not_before_self
  | step hx hshows hforward hlast ih => exact ih.step hshows hforward hlast
  | restart hx bus cacheTtl hcontents houtage hbreaker hnow hforward ih =>
      exact intact_bootstrapped ih.mirrored ih.orderly.registry ih.last ih.lined bus cacheTtl
        (congrArg Contents.values hcontents) (fun id => hcontents ▸ ih.works.readable id) houtage hbreaker hnow hforward

/-- **A restart changes nothing but revisions.** At every point of services that follow one another over one store, a
new service that restores what it finds there lists the same heads in the same order, has the same policy, and reports
as many heads as it restored. -/
theorem Unbroken.resumes {x : Session} (hx : x.Unbroken) {store : Store} (hcontents : store.contents = x.service.store.contents)
    (houtage : store.outage = .none) (breaker : Breaker) (bus : Bus) (cacheTtl : Option Duration) :
    let (report, s) := (Service.start store breaker bus cacheTtl).bootstrap
    s.router.registry.heads.map Head.unrevised = x.service.router.registry.heads.map Head.unrevised ∧
      s.router.policy = x.service.router.policy ∧
        report.headsRestored = x.service.router.registry.heads.length := by
  have hintact := hx.intact
  obtain ⟨hresumes, -⟩ := hintact.mirrored.bootstrap hintact.orderly.registry hintact.last hintact.lined
    (congrArg Contents.values hcontents) houtage breaker bus cacheTtl
  exact ⟨hresumes.heads, hresumes.policy, hresumes.count⟩

/-- Two heads register at one time, a second service takes over and is given another policy, and a third one starts. -/
theorem resumes_third_service :
    let register (id : String) : Command := .register ⟨id, "http://" ++ id, "m", "", "", .empty, 0⟩
    let x := (start {} {} {} none ⟨⟨0, 0⟩, 0⟩).bootstrapped.run [register "a", register "b"]
    let y := ((start x.service.store {} {} none ⟨⟨1, 0⟩, 0⟩).bootstrapped.step (.setPolicy { geoRouting := false })).2
    let (report, s) := (Service.start y.service.store {} {} none).bootstrap
    s.router.registry.heads.map Head.unrevised = y.service.router.registry.heads.map Head.unrevised ∧
      s.router.policy = y.service.router.policy ∧ report.headsRestored = y.service.router.registry.heads.length := by
  intro register x y
  have hfirst : (start {} {} {} none ⟨⟨0, 0⟩, 0⟩).bootstrapped.Unbroken :=
    .first {} none rfl rfl rfl ⟨by decide, by decide, .inl (by decide)⟩
  have hx : x.Unbroken :=
    (hfirst.step (c := register "a") trivial rfl (by decide +kernel)).step (c := register "b") trivial rfl
      (by decide +kernel)
  have hsecond : (start x.service.store {} {} none ⟨⟨1, 0⟩, 0⟩).bootstrapped.Unbroken :=
    hx.restart {} none rfl hx.intact.works.store rfl ⟨by decide, by decide, .inl (by decide)⟩ (by decide +kernel)
  have hpolicy {z : Session} (hz : z.Unbroken) (policy : Policy) : (z.step (.setPolicy policy)).2.Unbroken := by
    have hsame : (z.step (.setPolicy policy)).2.lastRevision = z.lastRevision :=
      congrArg Registry.lastRevision (Service.respond_follows z.service z.now (.setPolicy policy)).router.registry
    exact hz.step trivial z.now.wall.not_before_self (hsame.trans_lt hz.intact.last)
  have hy : y.Unbroken := hpolicy hsecond { geoRouting := false }
  exact hy.resumes rfl hy.intact.works.store {} {} none

end Session

end FleetRouting
