import FleetRouting.Proofs.Wire.Routing
import FleetRouting.Proofs.Writes
/-!
# FleetRouting.Proofs.Persistence

**What is answered as done is in the store, and the store never goes back.** In every run of a service over a store
whose calls may fail, a head that is answered to a change is the one in memory, and the stored record decodes to it;
the stored record of a head is one of the snapshots that were made of it, unless none was written; and a record that
was written is followed by later snapshots only (`Session.Begun.persistence`). The invariant of a run is that the
counters of the registry run ahead of its heads and of the gate (`Session.Orderly`).
-/

namespace FleetRouting

/-! ### What is stored -/

namespace Service

/-- What stands under the key of a head decodes to the head. -/
def Stores (s : Service) (h : Head) : Prop := s.store.contents.Record h.id h

/-- What stands under the key of the policy decodes to the policy. -/
def StoresPolicy (s : Service) (policy : Policy) : Prop :=
  ∃ text, s.texts.get? Store.policyKey = some text ∧ Json.decodeText Policy.ofJson text = .ok policy

theorem stores_of_text {s : Service} {h : Head} (hh : h.Storable)
    (htext : s.texts.get? (Store.headKey h.id) = some h.text) : s.Stores h :=
  ⟨h.text, htext, Head.decodeText_toText hh⟩

end Service

/-- Restoring fills the registry from records that were read, if it changes it at all. -/
theorem Service.bootstrap_spec (s : Service) :
    (s.bootstrap.2.router.registry = s.router.registry ∨
      ∃ records : List Head, (∀ h ∈ records, h.lastHeartbeat.Valid ∧ h.registeredAt.Valid) ∧
        s.bootstrap.2.router.registry = s.router.registry.restore records) ∧ s.bootstrap.2.written = s.written := by
  have hloaded := Store.ensures_loadHeads s.store trivial
  obtain ⟨registry, policy, store, hregistry, hservice⟩ := s.bootstrap_cases
  rw [hservice]
  refine ⟨hregistry.imp_right ?_, rfl⟩
  rintro ⟨records, hrun, hrestored⟩
  refine ⟨records, ?_, hrestored⟩
  rcases hresult : Store.loadHeads.run s.store with ⟨loaded, t⟩
  rw [hresult] at hloaded hrun
  obtain rfl : loaded = .ok records := hrun
  exact hloaded

/-- The head that a command changes. -/
def Command.headId? : Command → Option String
  | .register q => some q.headId
  | .update q => some q.headId
  | .deregister id => some id
  | _ => none

namespace Router

/-- A change that is answered with a head is one of the head that was asked for. -/
theorem headId_of_changed {r : Router} {id : String} {f : Head → Head} {forget : StatusChange → Cache → Cache} {h : Head}
    (hanswer : (r.changed id (r.registry.change? id f) forget).answer = .head (.ok h)) (hf : ∀ h, (f h).id = h.id) :
    some id = some h.id := by
  cases hchange : r.registry.change? id f with
  | none =>
      rw [hchange] at hanswer
      cases hanswer
  | some result =>
      obtain ⟨hget, hcurrent, -⟩ := Registry.change?_eq_some hchange
      rw [hchange] at hanswer
      injection hanswer with hanswer
      injection hanswer with hanswer
      rw [← hanswer, hcurrent]
      exact congrArg some ((hf _).trans (Registry.get?_eq_some hget).2).symm

variable {r : Router} {now : Moment} {c : Command}

/-- The head that a command answers with is its only snapshot, and of the identifier that was asked for. -/
theorem snapshots_of_answer {h : Head} (hanswer : (r.outcome now c).answer = .head (.ok h)) :
    r.snapshots now c = [h] ∧ c.headId? = some h.id := by
  cases c with
  | register q =>
      refine ⟨by simp only [snapshots, hanswer], ?_⟩
      simp only [outcome] at hanswer
      split at hanswer
      · cases hanswer
      · injection hanswer with hanswer
        injection hanswer with hanswer
        rw [← hanswer, Registry.register_id]
        rfl
  | update q =>
      refine ⟨by simp only [snapshots, hanswer], ?_⟩
      simp only [outcome] at hanswer
      split at hanswer
      · cases hanswer
      · exact headId_of_changed hanswer fun _ => rfl
  | deregister id =>
      refine ⟨by simp only [snapshots, hanswer], ?_⟩
      simp only [outcome] at hanswer
      split at hanswer
      · cases hanswer
      · exact headId_of_changed hanswer fun _ => rfl
  | _ => cases hanswer

theorem writes_of_answer {h : Head} (hanswer : (r.outcome now c).answer = .head (.ok h)) :
    r.writes now c = [(Store.headKey h.id, h.text)] := by
  obtain ⟨hsnapshots, hid⟩ := snapshots_of_answer hanswer
  cases c with
  | setPolicy policy => cases hid
  | _ => simp only [writes, hsnapshots, List.map_cons, List.map_nil]

/-- What is written under the key of a head is a snapshot of the head. -/
theorem snapshot_of_mem_writes {id text : String} (hw : (Store.headKey id, text) ∈ r.writes now c) :
    ∃ h ∈ r.snapshots now c, h.id = id ∧ h.text = text := by
  have hmap (hw : (Store.headKey id, text) ∈ (r.snapshots now c).map fun h => (Store.headKey h.id, h.text)) :
      ∃ h ∈ r.snapshots now c, h.id = id ∧ h.text = text := by
    simpa only [List.mem_map, Prod.mk.injEq, Store.headKey_inj] using hw
  cases c with
  | setPolicy policy =>
      simp only [writes, List.mem_singleton, Prod.mk.injEq] at hw
      exact absurd hw.1.symm (Store.policyKey_ne_headKey id)
  | _ => exact hmap hw

end Router

/-- A success tells the verdict. -/
theorem Answer.Stems.head_of_ok {verdict answer : Answer} (h : verdict.Stems answer) {head : Head}
    (hok : answer = .head (.ok head)) : verdict = .head (.ok head) := by
  subst hok
  cases h with
  | head kept =>
      rcases kept with hok | ⟨e, -, he⟩
      · rw [Except.ok.inj hok]
      · cases he

/-! ### Runs -/

namespace Session

/-- The snapshots that a run makes, in order. -/
def snapshots (x : Session) : List Command → List Head
  | [] => []
  | c :: cs => x.service.router.snapshots x.now c ++ (x.step c).2.snapshots cs

/-- A service that starts anew, or has restored its state from a store, and that nothing was asked of yet. -/
inductive Begun : Session → Prop where
  | fresh (store : Store) (breaker : Breaker) (bus : Bus) (cacheTtl : Option Duration) {now : Moment}
      (h : now.wall.Valid) : Begun (start store breaker bus cacheTtl now)
  | restored (store : Store) (breaker : Breaker) (bus : Bus) (cacheTtl : Option Duration) {now : Moment}
      (h : now.wall.Valid) : Begun (start store breaker bus cacheTtl now).bootstrapped

/-- The revision that was given out last. -/
def lastRevision (x : Session) : Nat := x.service.router.registry.lastRevision

/-- The counters of the registry have passed its heads and all that the gate knows. -/
structure Orderly (x : Session) : Prop where
  wall : x.now.wall.Valid
  registry : x.service.router.registry.Sound
  gated : x.service.Gated

theorem Begun.orderly {x : Session} (hx : x.Begun) : x.Orderly := by
  cases hx with
  | fresh store breaker bus cacheTtl h => exact ⟨h, Registry.sound_empty, Service.gated_of_empty rfl⟩
  | restored store breaker bus cacheTtl h =>
      obtain ⟨hregistry, hwritten⟩ := Service.bootstrap_spec (Service.start store breaker bus cacheTtl)
      refine ⟨h, ?_, Service.gated_of_empty hwritten⟩
      rcases hregistry with heq | ⟨records, hrecords, heq⟩
      · exact heq ▸ Registry.sound_empty
      · exact heq ▸ Registry.sound_restore Registry.sound_empty hrecords

section

variable {x : Session} (hx : x.Orderly)

include hx

theorem Orderly.step {c : Command} (hc : c.ShowsTime) : (x.step c).2.Orderly where
  wall := by
    cases c with
    | advance wall nanos => exact hc
    | _ => exact hx.wall
  registry := by
    show (x.service.respond x.now c).2.router.registry.Sound
    rw [(Service.respond_follows x.service x.now c).router.registry]
    exact Router.sound_outcome hx.registry hx.wall c
  gated := (Service.respond_puts x.now c hx.registry.distinct hx.gated False nofun).2

theorem Orderly.makes (c : Command) :
    x.service.router.registry.Makes (x.step c).2.service.router.registry (x.service.router.snapshots x.now c) := by
  show x.service.router.registry.Makes (x.service.respond x.now c).2.router.registry _
  rw [(Service.respond_follows x.service x.now c).router.registry]
  exact Router.makes_outcome hx.registry.distinct x.now c

/-- What stands under the key of a head behind a command is what stood there before, or a snapshot of the head. -/
theorem Orderly.text_step (c : Command) (id : String) :
    (x.step c).2.service.texts.get? (Store.headKey id) = x.service.texts.get? (Store.headKey id) ∨
      ∃ h ∈ x.service.router.snapshots x.now c, h.id = id ∧
        (x.step c).2.service.texts.get? (Store.headKey id) = some h.text := by
  have hputs := (Service.respond_puts x.now c hx.registry.distinct hx.gated False nofun).1
  rcases hputs.get? (Store.headKey id) with ⟨text, hw, htext⟩ | ⟨htext, -⟩
  · obtain ⟨h, hh, hid, rfl⟩ := Router.snapshot_of_mem_writes hw
    exact .inr ⟨h, hh, hid, htext⟩
  · exact .inl htext

/-- A snapshot that a command makes can be stored, as long as the counter of revisions has not run through. -/
theorem Orderly.storable {c : Command} (hc : c.ShowsTime) (hlast : (x.step c).2.lastRevision < bitSpan 64) {h : Head}
    (hh : h ∈ x.service.router.snapshots x.now c) : h.Storable := by
  have hregistry := (hx.step hc).registry
  exact hregistry.storable hlast (hregistry.fits h ((hx.makes c).listed h hh))

end

theorem Orderly.run {x : Session} (hx : x.Orderly) {cs : List Command} (hcs : ∀ c ∈ cs, c.ShowsTime) :
    (x.run cs).Orderly := by
  induction cs generalizing x with
  | nil => exact hx
  | cons c cs ih =>
      obtain ⟨hc, hcs⟩ := List.forall_mem_cons.1 hcs
      exact ih (hx.step hc) hcs

theorem Orderly.lastRevision_run {x : Session} (hx : x.Orderly) {cs : List Command} (hcs : ∀ c ∈ cs, c.ShowsTime) :
    x.lastRevision ≤ (x.run cs).lastRevision := by
  induction cs generalizing x with
  | nil => exact Nat.le_refl _
  | cons c cs ih =>
      obtain ⟨hc, hcs⟩ := List.forall_mem_cons.1 hcs
      exact (hx.makes c).lastRevision.trans (ih (hx.step hc) hcs)

/-- The snapshots of a run have new revisions, and can be stored. -/
theorem Orderly.snapshots {x : Session} (hx : x.Orderly) {cs : List Command} (hcs : ∀ c ∈ cs, c.ShowsTime)
    (hlast : (x.run cs).lastRevision < bitSpan 64) {h : Head} (hh : h ∈ x.snapshots cs) :
    x.lastRevision < h.revision ∧ h.revision ≤ (x.run cs).lastRevision ∧ h.Storable := by
  induction cs generalizing x with
  | nil => cases hh
  | cons c cs ih =>
      obtain ⟨hc, hcs⟩ := List.forall_mem_cons.1 hcs
      have hle : (x.step c).2.lastRevision ≤ (x.run (c :: cs)).lastRevision := (hx.step hc).lastRevision_run hcs
      rcases List.mem_append.1 hh with hh | hh
      · obtain ⟨hlow, hhigh⟩ := (hx.makes c).fresh h hh
        exact ⟨hlow, hhigh.trans hle, hx.storable hc (hle.trans_lt hlast) hh⟩
      · obtain ⟨hlow, hhigh, hstorable⟩ := ih (hx.step hc) hcs hlast hh
        exact ⟨(hx.makes c).lastRevision.trans_lt hlow, hhigh, hstorable⟩

/-- What stands under the key of a head behind a run is what stood there before, or a snapshot that the run made of
it. -/
theorem Orderly.text_run {x : Session} (hx : x.Orderly) {cs : List Command} (hcs : ∀ c ∈ cs, c.ShowsTime) (id : String) :
    (x.run cs).service.texts.get? (Store.headKey id) = x.service.texts.get? (Store.headKey id) ∨
      ∃ h ∈ x.snapshots cs, h.id = id ∧ (x.run cs).service.texts.get? (Store.headKey id) = some h.text := by
  induction cs generalizing x with
  | nil => exact .inl rfl
  | cons c cs ih =>
      obtain ⟨hc, hcs⟩ := List.forall_mem_cons.1 hcs
      rcases ih (hx.step hc) hcs with hlater | ⟨h, hh, hid, htext⟩
      · rcases hx.text_step c id with hsame | ⟨h, hh, hid, htext⟩
        · exact .inl (hlater.trans hsame)
        · exact .inr ⟨h, List.mem_append_left _ hh, hid, hlater.trans htext⟩
      · exact .inr ⟨h, List.mem_append_right _ hh, hid, htext⟩

theorem snapshots_append (x : Session) (cs ds : List Command) :
    x.snapshots (cs ++ ds) = x.snapshots cs ++ (x.run cs).snapshots ds := by
  induction cs generalizing x with
  | nil => rfl
  | cons c cs ih =>
      rw [List.cons_append, snapshots, ih, snapshots, List.append_assoc]
      rfl

theorem run_append (x : Session) (cs ds : List Command) : x.run (cs ++ ds) = (x.run cs).run ds :=
  List.foldl_append

/-! ### Answers of success -/

/-- A head that is answered to a change is in memory and in the store. -/
theorem Orderly.saved_head {x : Session} (hx : x.Orderly) {c : Command} (hc : c.ShowsTime)
    (hlast : (x.step c).2.lastRevision < bitSpan 64) {h : Head} (hanswer : (x.step c).1 = .head (.ok h)) :
    c.headId? = some h.id ∧ (x.step c).2.service.router.registry.get? h.id = some h ∧ (x.step c).2.service.Stores h := by
  have hrespond : (x.service.respond x.now c).1 = .head (.ok h) := hanswer
  have hverdict := (Service.respond_follows x.service x.now c).answer.head_of_ok hrespond
  obtain ⟨hsnapshots, hid⟩ := Router.snapshots_of_answer hverdict
  have hh : h ∈ x.service.router.snapshots x.now c := hsnapshots ▸ List.mem_singleton_self h
  have hregistry := (hx.step hc).registry
  refine ⟨hid, Registry.get?_of_mem hregistry.distinct ((hx.makes c).listed h hh), ?_⟩
  -- the answer tells that the write was done
  have hsaved : (x.service.respond x.now c).1.Saved := hrespond ▸ trivial
  have hputs := (Service.respond_puts x.now c hx.registry.distinct hx.gated True fun _ => .inl hsaved).1
  have hwrite : (Store.headKey h.id, h.text) ∈ x.service.router.writes x.now c :=
    Router.writes_of_answer hverdict ▸ List.mem_singleton_self _
  rcases hputs.get? (Store.headKey h.id) with ⟨text, hw, htext⟩ | ⟨-, hnone⟩
  · obtain ⟨h', hh', -, rfl⟩ := Router.snapshot_of_mem_writes hw
    rw [hsnapshots] at hh'
    obtain rfl := List.mem_singleton.1 hh'
    exact Service.stores_of_text (hx.storable hc hlast hh) htext
  · exact absurd hwrite (hnone trivial h.text)

theorem Orderly.saved_policy {x : Session} (hx : x.Orderly) {c : Command} (hanswer : (x.step c).1 = .policy (.ok ())) :
    (x.step c).2.service.StoresPolicy (x.step c).2.service.router.policy := by
  have hrespond : (x.service.respond x.now c).1 = .policy (.ok ()) := hanswer
  have hsaved : (x.service.respond x.now c).1.Saved := hrespond ▸ trivial
  have hputs := (Service.respond_puts x.now c hx.registry.distinct hx.gated True fun _ => .inl hsaved).1
  have hpolicy := (Service.respond_follows x.service x.now c).router.policy
  -- only a policy is answered so
  rcases Service.respond_cases x.service x.now c with ⟨-, hnot, -⟩ | ⟨t, head, event, heq, -⟩ | ⟨timeout, order, rfl⟩ | ⟨policy, rfl⟩
  · rw [Answer.written?_of_saved hsaved] at hnot
    cases hnot
  · rw [heq] at hrespond
    cases hrespond
  · cases hrespond
  · show (x.service.respond x.now (.setPolicy policy)).2.StoresPolicy
      (x.service.respond x.now (.setPolicy policy)).2.router.policy
    rw [hpolicy]
    rcases hputs.get? Store.policyKey with ⟨text, hw, htext⟩ | ⟨-, hnone⟩
    · simp only [Router.writes, List.mem_singleton, Prod.mk.injEq, true_and] at hw
      subst hw
      exact ⟨_, htext, policy.decodeText_toText⟩
    · exact absurd (List.mem_singleton_self _) (hnone trivial policy.toJson.toText)

/-- A record that a run has written is followed by later snapshots of its head only. -/
theorem Orderly.stores_run {x : Session} (hx : x.Orderly) {cs ds : List Command} (hcs : ∀ c ∈ cs ++ ds, c.ShowsTime)
    (hlast : (x.run (cs ++ ds)).lastRevision < bitSpan 64) {h : Head} (hh : h ∈ x.snapshots cs)
    (hstores : (x.run cs).service.Stores h) :
    ∃ h' ∈ x.snapshots (cs ++ ds), h'.id = h.id ∧ h.revision ≤ h'.revision ∧
      (x.run (cs ++ ds)).service.Stores h' := by
  obtain ⟨hfirst, hsecond⟩ := List.forall_mem_append.1 hcs
  rw [run_append] at hlast ⊢
  rw [snapshots_append]
  have hy := hx.run hfirst
  have hbound := hy.lastRevision_run hsecond
  obtain ⟨-, hrevision, -⟩ := hx.snapshots hfirst (hbound.trans_lt hlast) hh
  rcases hy.text_run hsecond h.id with hsame | ⟨h', hh', hid, htext⟩
  · obtain ⟨text, hget, hdecode⟩ := hstores
    exact ⟨h, List.mem_append_left _ hh, rfl, Nat.le_refl _, text, hsame.trans hget, hdecode⟩
  · obtain ⟨hnew, -, hstorable⟩ := hy.snapshots hsecond hlast hh'
    exact ⟨h', List.mem_append_right _ hh', hid, hrevision.trans hnew.le,
      Service.stores_of_text hstorable (hid.symm ▸ htext)⟩

/-- **An answer of success means that the change is stored, and the store never goes back.** Behind any run from the
start and one command more: the head that is answered is in memory and in the store, as is the policy; what stands
under the key of a head was there at the start or is a snapshot of it; and whatever snapshot of a head was stored at
some point of the run, none of an earlier revision is stored now. -/
theorem Begun.persistence {x : Session} (hx : x.Begun) {cs : List Command} {c : Command}
    (hcs : ∀ c' ∈ cs ++ [c], c'.ShowsTime) (hlast : (x.run (cs ++ [c])).lastRevision < bitSpan 64) :
    let answer := ((x.run cs).step c).1
    let y := x.run (cs ++ [c])
    (∀ h, answer = .head (.ok h) →
      c.headId? = some h.id ∧ y.service.router.registry.get? h.id = some h ∧ y.service.Stores h) ∧
      (answer = .policy (.ok ()) → y.service.StoresPolicy y.service.router.policy) ∧
        (∀ id, y.service.texts.get? (Store.headKey id) = x.service.texts.get? (Store.headKey id) ∨
          ∃ h ∈ x.snapshots (cs ++ [c]), h.id = id ∧ y.service.Stores h) ∧
          ∀ bs ds, bs ++ ds = cs ++ [c] → ∀ h ∈ x.snapshots bs, (x.run bs).service.Stores h →
            ∃ h' ∈ x.snapshots (cs ++ [c]), h'.id = h.id ∧ h.revision ≤ h'.revision ∧ y.service.Stores h' := by
  have hrun : x.run (cs ++ [c]) = ((x.run cs).step c).2 := run_append x cs [c]
  obtain ⟨hfirst, hsecond⟩ := List.forall_mem_append.1 hcs
  have hc := hsecond c (List.mem_singleton_self c)
  have hy := hx.orderly.run hfirst
  refine ⟨?_, ?_, ?_, ?_⟩
  · intro h hanswer
    rw [hrun] at hlast ⊢
    exact hy.saved_head hc hlast hanswer
  · intro hanswer
    rw [hrun]
    exact hy.saved_policy hanswer
  · intro id
    refine (hx.orderly.text_run hcs id).imp_right ?_
    rintro ⟨h, hh, rfl, htext⟩
    obtain ⟨-, -, hstorable⟩ := hx.orderly.snapshots hcs hlast hh
    exact ⟨h, hh, rfl, Service.stores_of_text hstorable htext⟩
  · intro bs ds hsplit h hh hstores
    rw [← hsplit] at hcs hlast ⊢
    exact hx.orderly.stores_run hcs hlast hh hstores

/-- The first head registers while one call to the store fails, and then reports a load. -/
theorem persistence_after_failure :
    let outage : Outage := fun n _ => if n = 1 then some .unavailable else none
    let x := start { outage := outage } {} {} none ⟨⟨0, 0⟩, 0⟩
    let c : Command := .update ⟨⟨.active, 7, none⟩, "a"⟩
    let h : Head := ⟨"a", "http://a", .active, 7, [7], "", "m", "", .empty, ⟨0, 0⟩, ⟨0, 0⟩, 0, 2⟩
    ((x.run [.register ⟨"a", "http://a", "m", "", "", .empty, 0⟩]).step c).1 = .head (.ok h) ∧
      (x.run [.register ⟨"a", "http://a", "m", "", "", .empty, 0⟩, c]).service.Stores h := by
  intro outage x c h
  have hstart : x.Begun := .fresh _ _ _ _ ⟨by decide, by decide, .inl (by decide)⟩
  have hshow : ∀ c' ∈ [.register ⟨"a", "http://a", "m", "", "", .empty, 0⟩] ++ [c], c'.ShowsTime := by
    intro c' hc'
    rcases List.mem_cons.1 hc' with rfl | hc'
    · trivial
    · rw [List.mem_singleton.1 hc']
      trivial
  have hanswer : ((x.run [.register ⟨"a", "http://a", "m", "", "", .empty, 0⟩]).step c).1 = .head (.ok h) := by
    rfl
  exact ⟨hanswer, ((hstart.persistence hshow (by decide +kernel)).1 h hanswer).2.2⟩

end Session

end FleetRouting
