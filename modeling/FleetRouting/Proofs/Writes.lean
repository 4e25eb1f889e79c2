import FleetRouting.Proofs.Numbering
import FleetRouting.Proofs.Store.Records
/-!
# FleetRouting.Proofs.Writes

**What a command writes to the store.** A command makes its writes (`Router.writes`) one after another, and an answer
of success tells that they were done (`Service.respond_puts`). This rests on the gate, which holds back a snapshot if
a later one was written: the gate never knows of a revision that the registry has not given out (`Service.Gated`), so
it lets every new snapshot pass. A service over a store that works gets all its writes done (`Service.works_respond`).
-/

namespace FleetRouting

/-! ### The circuit of a service that does not fail -/

/-- No call to a service has failed, and none is under way as a probe. -/
def Breaker.Unfailed (b : Breaker) (service : String) : Prop :=
  ∀ c, b.circuits.get? service = some c → c.failures = 0 ∧ c.lastFailure = none ∧ c.probeStarted = none

namespace Breaker

variable {b : Breaker} {service : String}

theorem unfailed_of_empty (h : b.circuits = .empty) : b.Unfailed service := by
  intro c hc
  rw [h] at hc
  cases hc

/-- Without a failure every call is let through, even by a circuit that is open from the start. -/
theorem Unfailed.allow (h : b.Unfailed service) (tick : Nat) :
    (b.allow service tick).1 = true ∧
      ∀ c, (b.allow service tick).2.circuits.get? service = some c → c.lastFailure = none := by
  unfold Breaker.allow
  cases hget : b.circuits.get? service with
  | none =>
      refine ⟨rfl, fun c hc => ?_⟩
      rw [hget] at hc
      cases hc
  | some c =>
      obtain ⟨-, hlast, hprobe⟩ := h c hget
      have hallow : (c.allow (b.settings service) tick).1 = true ∧
          (c.allow (b.settings service) tick).2.lastFailure = none := by
        unfold Circuit.allow Circuit.state
        split <;> simp_all [Circuit.hasRested]
      refine ⟨hallow.1, fun c' hc' => ?_⟩
      obtain rfl := Option.some.inj ((SortedMap.get?_insert_self ..).symm.trans hc')
      exact hallow.2

theorem unfailed_success (h : ∀ c, b.circuits.get? service = some c → c.lastFailure = none) :
    (b.success service).Unfailed service := by
  intro c hc
  obtain rfl := Option.some.inj ((SortedMap.get?_insert_self ..).symm.trans hc)
  refine ⟨rfl, ?_, rfl⟩
  show (b.circuit service).lastFailure = none
  unfold circuit
  cases hget : b.circuits.get? service with
  | none => rfl
  | some c => exact h c hget

end Breaker

namespace Service

/-- The texts in the store of a service. -/
def texts (s : Service) : Store.Texts := s.store.contents.values

/-- The gate knows of no revision that the registry has not given out. -/
def Gated (s : Service) : Prop := ∀ id r, s.written.get? id = some r → r ≤ s.router.registry.lastRevision

theorem gated_of_empty {s : Service} (h : s.written = .empty) : s.Gated := by
  intro id r hr
  rw [h] at hr
  cases hr

/-- The gate lets a snapshot pass. -/
def Passes (s : Service) (h : Head) : Prop := ∀ r, s.written.get? h.id = some r → r ≤ h.revision

theorem Passes.not_lt {s : Service} {h : Head} (hpass : s.Passes h) : ¬ h.revision < (s.written.get? h.id).getD 0 := by
  cases hget : s.written.get? h.id with
  | none => exact Nat.not_lt_zero _
  | some r => exact Nat.not_lt.2 (hpass r hget)

/-- All that the gate of `t` knows beside what the gate of `s` knows are revisions of some snapshots. -/
def Hears (snapshots : List Head) (s t : Service) : Prop :=
  ∀ id r, t.written.get? id = some r → s.written.get? id = some r ∨ ∃ h ∈ snapshots, h.id = id ∧ h.revision = r

theorem hears_of_eq {snapshots : List Head} {s t : Service} (h : t.written = s.written) : Hears snapshots s t := by
  intro id r hr
  rw [h] at hr
  exact .inl hr

theorem hears_of_insert {s t : Service} {head : Head} (h : t.written = s.written.insert head.id head.revision) :
    Hears [head] s t := by
  intro id r hr
  by_cases hid : id = head.id
  · subst hid
    rw [h, SortedMap.get?_insert_self] at hr
    exact .inr ⟨head, List.mem_singleton_self head, rfl, Option.some.inj hr⟩
  · rw [h, SortedMap.get?_insert_of_ne _ _ hid] at hr
    exact .inl hr

/-- A snapshot of another head passes on. -/
theorem Hears.passes {s t : Service} {head a : Head} (hhears : Hears [head] s t) (hpass : s.Passes a)
    (hne : a.id ≠ head.id) : t.Passes a := by
  intro r hr
  rcases hhears a.id r hr with hr | ⟨b, hb, hid, -⟩
  · exact hpass r hr
  · obtain rfl := List.mem_singleton.1 hb
    exact absurd hid.symm hne

/-- A service over a store that works, with a circuit that never saw it fail. -/
structure Works (s : Service) : Prop where
  store : s.store.outage = .none
  circuit : s.breaker.Unfailed storeService
  readable : ∀ id, Store.Readable s.store.contents id

/-! ### One write -/

section

variable (s : Service) (tick : Nat)

/-- What a guarded write puts is done if it answers, and the gate does not hear of it. -/
theorem guarded_put {write : StoreM Unit} {key value : String}
    (hwrite : ∀ store : Store, Store.Put key value store.contents.values ((write.run store).1 = .ok ())
      (write.run store).2.contents.values) :
    Store.Put key value s.texts ((s.guarded tick write).1 = .ok ()) (s.guarded tick write).2.texts ∧
      (s.guarded tick write).2.written = s.written := by
  have hput := hwrite s.store
  have hattempt := s.attempt_guarded tick write
  generalize s.guarded tick write = result at hattempt ⊢
  cases hattempt with
  | refused => exact ⟨.inr ⟨rfl, nofun⟩, rfl⟩
  | failed granted hrun =>
      rw [hrun] at hput
      exact ⟨hput.mono nofun, rfl⟩
  | succeeded granted hrun =>
      rw [hrun] at hput
      exact ⟨hput.mono fun _ => rfl, rfl⟩

theorem saveSnapshot_put {head : Head} (hpass : s.Passes head) :
    Store.Put (Store.headKey head.id) head.text s.texts ((s.saveSnapshot tick head).1 = .ok ())
        (s.saveSnapshot tick head).2.texts ∧
      Hears [head] s (s.saveSnapshot tick head).2 := by
  have hguarded := s.guarded_put tick fun store => Store.put_saveHead store head
  rcases s.saveSnapshot_cases tick head with ⟨hlate, -⟩ | ⟨written, hwritten, hsave⟩
  · exact absurd hlate hpass.not_lt
  · rw [hsave]
    refine ⟨hguarded.1, ?_⟩
    rcases hwritten with rfl | rfl
    · exact hears_of_eq rfl
    · exact hears_of_insert rfl

theorem finish_put {head : Head} (event : FleetEvent) (hpass : s.Passes head) :
    Store.Put (Store.headKey head.id) head.text s.texts ((s.finish tick head event).1 = .ok head)
        (s.finish tick head event).2.texts ∧
      Hears [head] s (s.finish tick head event).2 := by
  have hsave := s.saveSnapshot_put tick hpass
  exact ⟨hsave.1.mono finish_eq_ok.1, hsave.2⟩

end

/-! ### One write to a store that works -/

section

variable {s : Service} (hworks : s.Works) (tick : Nat)

include hworks

/-- A write that a working store answers is done, and the store works on. -/
theorem Works.guarded {write : StoreM Unit} {P : Contents → Prop} (hpre : P s.store.contents)
    (hanswers : Store.Answers P write fun _ _ => True)
    (hreadable : ∀ id, Store.Readable (write.run s.store).2.contents id) :
    (s.guarded tick write).1 = .ok () ∧ (s.guarded tick write).2.Works := by
  obtain ⟨hgranted, hcircuit⟩ := hworks.circuit.allow tick
  obtain ⟨⟨⟩, store, hrun, hstore, -⟩ := hanswers s.store hworks.store hpre
  rw [hrun] at hreadable
  have hattempt := s.attempt_guarded tick write
  generalize s.guarded tick write = result at hattempt ⊢
  cases hattempt with
  | refused hrefused =>
      rw [hgranted] at hrefused
      cases hrefused
  | failed _ hfailed =>
      rw [hrun] at hfailed
      cases hfailed
  | succeeded _ hdone =>
      obtain ⟨-, rfl⟩ := Prod.mk.inj (hrun.symm.trans hdone)
      exact ⟨rfl, hstore, Breaker.unfailed_success hcircuit, hreadable⟩

theorem Works.savesHead {head : Head} (hhead : head.Storable) :
    (s.guarded tick (Store.saveHead head)).1 = .ok () ∧ (s.guarded tick (Store.saveHead head)).2.Works := by
  have hanswers := Store.answers_saveHead head
  refine hworks.guarded tick (hworks.readable head.id) hanswers fun id => ?_
  obtain ⟨⟨⟩, store, hrun, -⟩ := hanswers s.store hworks.store (hworks.readable head.id)
  have hput := Store.put_saveHead s.store head
  exact Store.readable_put_head hhead hworks.readable (hput.of_done (by rw [hrun])) id

theorem Works.savesPolicy (policy : Policy) :
    (s.guarded tick (Store.savePolicy policy)).1 = .ok () ∧ (s.guarded tick (Store.savePolicy policy)).2.Works := by
  have hanswers := Store.answers_savePolicy policy
  refine hworks.guarded tick trivial hanswers fun id => ?_
  obtain ⟨⟨⟩, store, hrun, -⟩ := hanswers s.store hworks.store trivial
  have hput := Store.put_savePolicy s.store policy
  exact Store.readable_put_policy hworks.readable (hput.of_done (by rw [hrun])) id

/-- Over a store that works a change is finished with the head, whether or not the gate lets it pass. -/
theorem Works.finish {head : Head} (event : FleetEvent) (hhead : head.Storable) :
    (s.finish tick head event).1 = .ok head ∧ (s.finish tick head event).2.Works := by
  have hsave : (s.saveSnapshot tick head).1 = .ok () ∧ (s.saveSnapshot tick head).2.Works := by
    obtain ⟨hdone, hstore, hcircuit, hreadable⟩ := hworks.savesHead tick hhead
    rcases s.saveSnapshot_cases tick head with ⟨-, hsave⟩ | ⟨written, -, hsave⟩
    · rw [hsave]
      exact ⟨rfl, hworks⟩
    · rw [hsave]
      exact ⟨hdone, hstore, hcircuit, hreadable⟩
  exact ⟨finish_eq_ok.2 hsave.1, hsave.2.store, hsave.2.circuit, hsave.2.readable⟩

end

end Service

/-! ### The writes of a command -/

/-- What a command writes, in order: its snapshots under their keys, or the policy. -/
def Router.writes (r : Router) (now : Moment) (c : Command) : List (String × String) :=
  match c with
  | .setPolicy policy => [(Store.policyKey, policy.toJson.toText)]
  | c => (r.snapshots now c).map fun h => (Store.headKey h.id, h.text)

/-- An answer that tells that a change was written. -/
def Answer.Saved : Answer → Prop
  | .head (.ok _) => True
  | .policy (.ok _) => True
  | _ => False

/-- What an answer tells of the one write that a command makes; none if the command was refused, or wrote nothing. -/
def Answer.written? : Answer → Option (Except FleetError Unit)
  | .head (.ok _) => some (.ok ())
  | .head (.error e) => if e.isLostWrite then some (.error e) else none
  | .policy result => some result
  | _ => none

theorem Answer.written?_of_saved {a : Answer} (h : a.Saved) : a.written? = some (.ok ()) := by
  rcases a with (_ | _) | (_ | _) | _ | _ | _
  all_goals first | rfl | exact h.elim

/-- An answer that is a head, or tells that the head is not written. -/
theorem Kept.written? {h : Head} {result : Except FleetError Head} (hkept : Kept h result) :
    (Answer.head result).written? = some (result.map fun _ => ()) := by
  rcases hkept with rfl | ⟨e, he, rfl⟩
  · rfl
  · exact if_pos he

theorem Answer.policy_of_saved {result : Except FleetError Unit} (h : (Answer.policy result).Saved) :
    result = .ok () := by
  cases result with
  | error e => exact h.elim
  | ok u => rfl

namespace Service

/-- The writes that were refused by the circuit, and all that were lost. -/
def losses (s : Service) : Nat × Nat := (s.router.metrics.breakerRejections, s.router.metrics.persistenceFailures)

/-- `t` comes from `s` without a call to the store. -/
structure SameStore (s t : Service) : Prop where
  store : t.store = s.store
  breaker : t.breaker = s.breaker
  written : t.written = s.written
  losses : t.losses = s.losses

theorem SameStore.works {s t : Service} (h : SameStore s t) (hworks : s.Works) : t.Works where
  store := h.store ▸ hworks.store
  circuit := h.breaker ▸ hworks.circuit
  readable := h.store ▸ hworks.readable

theorem SameStore.texts {s t : Service} (h : SameStore s t) : t.texts = s.texts :=
  congrArg (fun store : Store => store.contents.values) h.store

theorem SameStore.passes {s t : Service} (h : SameStore s t) {head : Head} (hpass : s.Passes head) : t.Passes head := by
  intro r hr
  rw [h.written] at hr
  exact hpass r hr

theorem SameStore.hears {s t u : Service} (h : SameStore s t) {snapshots : List Head} (hhears : Hears snapshots t u) :
    Hears snapshots s u := by
  intro id r hr
  have hknown := hhears id r hr
  rwa [h.written] at hknown

/-- **The four ways of a command to the store:** it makes no call, it finishes the change of one head, it finishes the
changes of the silent heads, or it writes the policy. -/
theorem respond_cases (s : Service) (now : Moment) (c : Command) :
    (SameStore s (s.respond now c).2 ∧ (s.respond now c).1.written? = none ∧ s.router.writes now c = []) ∨
      (∃ t head event, s.respond now c = (t.finish now.tick head event).map Answer.head (fun s => s) ∧ SameStore s t ∧
        s.router.snapshots now c = [head] ∧ s.router.writes now c = [(Store.headKey head.id, head.text)]) ∨
        (∃ timeout order, c = .sweep timeout order) ∨ ∃ policy, c = .setPolicy policy := by
  have hrefused {fields : List (String × String)} {e : FleetError} (hblank : blank? fields = some e) :
      (Answer.head (.error e)).written? = none := if_neg (by rw [isLostWrite_of_blank hblank]; exact Bool.false_ne_true)
  cases c with
  | register q =>
      simp only [respond, register, Router.writes, Router.snapshots, Router.outcome]
      cases hblank : blank? [("head_id", q.headId), ("endpoint", q.endpoint), ("model_type", q.modelType)] with
      | some e => exact .inl ⟨⟨rfl, rfl, rfl, rfl⟩, hrefused hblank, rfl⟩
      | none => exact .inr (.inl ⟨_, _, _, rfl, ⟨rfl, rfl, rfl, rfl⟩, rfl, rfl⟩)
  | update q =>
      simp only [respond, update, Router.writes, Router.snapshots, Router.outcome, Router.report?]
      cases hblank : blank? [("head_id", q.headId)] with
      | some e => exact .inl ⟨⟨rfl, rfl, rfl, rfl⟩, hrefused hblank, rfl⟩
      | none =>
          cases s.router.registry.update? q.headId q.status q.currentLoad (q.reportedAt now.wall) with
          | none => exact .inl ⟨⟨rfl, rfl, rfl, rfl⟩, rfl, rfl⟩
          | some result => exact .inr (.inl ⟨_, _, _, rfl, ⟨rfl, rfl, rfl, rfl⟩, rfl, rfl⟩)
  | deregister id =>
      simp only [respond, deregister, Router.writes, Router.snapshots, Router.outcome]
      cases hblank : blank? [("head_id", id)] with
      | some e => exact .inl ⟨⟨rfl, rfl, rfl, rfl⟩, hrefused hblank, rfl⟩
      | none =>
          cases s.router.registry.deactivate? id with
          | none => exact .inl ⟨⟨rfl, rfl, rfl, rfl⟩, rfl, rfl⟩
          | some result => exact .inr (.inl ⟨_, _, _, rfl, ⟨rfl, rfl, rfl, rfl⟩, rfl, rfl⟩)
  | sweep timeout order => exact .inr (.inr (.inl ⟨timeout, order, rfl⟩))
  | setPolicy policy => exact .inr (.inr (.inr ⟨policy, rfl⟩))
  | route decisionId c =>
      refine .inl ⟨?_, rfl, rfl⟩
      have hlosses := s.router.decide_losses c now.tick
      simp only [respond, route]
      split
      · exact ⟨rfl, rfl, rfl, Prod.ext hlosses.1 hlosses.2⟩
      · exact ⟨rfl, rfl, rfl, Prod.ext hlosses.1 hlosses.2⟩
  | advance wall nanos => exact .inl ⟨⟨rfl, rfl, rfl, rfl⟩, rfl, rfl⟩

/-! ### Silent heads -/

theorem sameStore_mapCache (s : Service) (f : Cache → Cache) : SameStore s (s.mapCache f) := ⟨rfl, rfl, rfl, rfl⟩

theorem finishStale_put {s : Service} (tick : Nat) {head : Head} (hpass : s.Passes head) {done : Prop}
    (hdone : done → s.Works ∧ head.Storable) :
    Store.Put (Store.headKey head.id) head.text s.texts done (finishStale tick s head).texts ∧
      Hears [head] s (finishStale tick s head) := by
  have hsame := s.sameStore_mapCache (·.invalidateHead head.id)
  obtain ⟨hput, hhears⟩ := finish_put _ tick (.statusChanged head) (hsame.passes hpass)
  refine ⟨hput.mono fun hd => ?_, hsame.hears hhears⟩
  obtain ⟨hworks, hhead⟩ := hdone hd
  exact ((hsame.works hworks).finish tick _ hhead).1

theorem works_finishStale {s : Service} (hworks : s.Works) (tick : Nat) {head : Head} (hhead : head.Storable) :
    (finishStale tick s head).Works :=
  (((s.sameStore_mapCache _).works hworks).finish tick _ hhead).2

theorem works_foldl_finishStale {s : Service} (hworks : s.Works) (tick : Nat) {stale : List Head}
    (hstale : ∀ h ∈ stale, h.Storable) : (stale.foldl (finishStale tick) s).Works := by
  induction stale generalizing s with
  | nil => exact hworks
  | cons h stale ih =>
      obtain ⟨hhead, hstale⟩ := List.forall_mem_cons.1 hstale
      exact ih (works_finishStale hworks tick hhead) hstale

/-- The snapshots of a sweep are written one after another; each passes the gate, as no two of them are of one head. -/
theorem foldl_finishStale_puts {s : Service} (tick : Nat) {stale : List Head} (hdistinct : Distinct stale)
    (hpass : ∀ h ∈ stale, s.Passes h) {done : Prop} (hdone : done → s.Works ∧ ∀ h ∈ stale, h.Storable) :
    Store.Puts (stale.map fun h => (Store.headKey h.id, h.text)) s.texts done (stale.foldl (finishStale tick) s).texts ∧
      Hears stale s (stale.foldl (finishStale tick) s) := by
  induction stale generalizing s with
  | nil => exact ⟨rfl, hears_of_eq rfl⟩
  | cons h stale ih =>
      obtain ⟨hnew, hdistinct⟩ := List.nodup_cons.1 hdistinct
      obtain ⟨hhead, hpass⟩ := List.forall_mem_cons.1 hpass
      have hdone' (hd : done) : s.Works ∧ h.Storable := ⟨(hdone hd).1, (hdone hd).2 h (List.mem_cons_self ..)⟩
      obtain ⟨hput, hhears⟩ := finishStale_put tick hhead hdone'
      have hpass' : ∀ a ∈ stale, (finishStale tick s h).Passes a := fun a ha =>
        hhears.passes (hpass a ha) fun hid => hnew (hid ▸ List.mem_map_of_mem ha)
      have hrest (hd : done) : (finishStale tick s h).Works ∧ ∀ a ∈ stale, a.Storable := by
        obtain ⟨hworks, hstorable⟩ := hdone hd
        obtain ⟨hhead, hstale⟩ := List.forall_mem_cons.1 hstorable
        exact ⟨works_finishStale hworks tick hhead, hstale⟩
      obtain ⟨hputs, hhears'⟩ := ih hdistinct hpass' hrest
      refine ⟨.cons hput hputs, fun id r hr => ?_⟩
      rcases hhears' id r hr with hr | ⟨a, ha, hknown⟩
      · rcases hhears id r hr with hr | ⟨a, ha, hknown⟩
        · exact .inl hr
        · exact .inr ⟨a, List.mem_cons.2 (.inl (List.mem_singleton.1 ha)), hknown⟩
      · exact .inr ⟨a, List.mem_cons_of_mem _ ha, hknown⟩

/-! ### One command -/

/-- The gate lets every new snapshot pass. -/
theorem Gated.passes {s : Service} (hgated : s.Gated) {registry : Registry} {made : List Head}
    (hmakes : s.router.registry.Makes registry made) : ∀ h ∈ made, s.Passes h := by
  intro h hh r hr
  exact (hgated h.id r hr).trans (hmakes.fresh h hh).1.le

theorem finish_of_saved {s : Service} {tick : Nat} {head : Head} {event : FleetEvent}
    (h : (Answer.head (s.finish tick head event).1).Saved) : (s.finish tick head event).1 = .ok head := by
  unfold finish at h ⊢
  revert h
  rcases s.saveSnapshot tick head with ⟨_ | ⟨⟩, t⟩
  · exact fun h => h.elim
  · exact fun _ => rfl

section

variable {s : Service} (now : Moment) (c : Command)

/-- A command makes its writes, all of them if its answer tells so or the store works; and all that the gate hears of
are its snapshots. -/
theorem respond_puts_hears (hdistinct : Distinct (s.router.snapshots now c))
    (hpass : ∀ h ∈ s.router.snapshots now c, s.Passes h) {done : Prop}
    (hdone : done → (s.respond now c).1.Saved ∨ s.Works ∧ ∀ h ∈ s.router.snapshots now c, h.Storable) :
    Store.Puts (s.router.writes now c) s.texts done (s.respond now c).2.texts ∧
      Hears (s.router.snapshots now c) s (s.respond now c).2 := by
  rcases respond_cases s now c with ⟨hsame, -, hwrites⟩ | ⟨t, head, event, hrespond, hsame, hsnapshots, hwrites⟩ |
    ⟨timeout, order, rfl⟩ | ⟨policy, rfl⟩
  · rw [hwrites]
    exact ⟨hsame.texts, hears_of_eq hsame.written⟩
  · rw [hsnapshots] at hpass hdone ⊢
    rw [hrespond] at hdone ⊢
    obtain ⟨hput, hhears⟩ := t.finish_put now.tick event (hsame.passes (hpass head (List.mem_singleton_self head)))
    rw [hsame.texts] at hput
    rw [hwrites]
    refine ⟨(hput.mono fun hd => ?_).puts, hsame.hears hhears⟩
    rcases hdone hd with hsaved | ⟨hworks, hstorable⟩
    · exact finish_of_saved hsaved
    · exact ((hsame.works hworks).finish now.tick event (hstorable head (List.mem_singleton_self head))).1
  · -- the answer of a sweep does not tell what was written
    have hsame : SameStore s (s.withRegistry (s.router.registry.markStale now.wall timeout order).2) := ⟨rfl, rfl, rfl, rfl⟩
    have hdone' (hd : done) :
        (s.withRegistry (s.router.registry.markStale now.wall timeout order).2).Works ∧
          ∀ h ∈ s.router.snapshots now (.sweep timeout order), h.Storable := by
      obtain ⟨hworks, hstorable⟩ := (hdone hd).resolve_left id
      exact ⟨hsame.works hworks, hstorable⟩
    obtain ⟨hputs, hhears⟩ := foldl_finishStale_puts now.tick hdistinct (fun h hh => hsame.passes (hpass h hh)) hdone'
    exact ⟨hputs, hsame.hears hhears⟩
  · have hsame : SameStore s ({ s with router := { s.router with policy := policy } }.mapCache (·.clear)) :=
      ⟨rfl, rfl, rfl, rfl⟩
    obtain ⟨hput, hwritten⟩ := guarded_put ({ s with router := { s.router with policy := policy } }.mapCache (·.clear))
      now.tick fun store => Store.put_savePolicy store policy
    refine ⟨(hput.mono fun hd => ?_).puts, hears_of_eq (hwritten.trans hsame.written)⟩
    rcases hdone hd with hsaved | ⟨hworks, -⟩
    · exact Answer.policy_of_saved hsaved
    · exact ((hsame.works hworks).savesPolicy now.tick policy).1

/-- **A command makes its writes, and an answer of success tells that they were done**; over a store that works they are
done. The gate never hears of a revision that was not given out. -/
theorem respond_puts (hdistinct : Distinct s.router.registry.heads) (hgated : s.Gated) (done : Prop)
    (hdone : done → (s.respond now c).1.Saved ∨ s.Works ∧ ∀ h ∈ s.router.snapshots now c, h.Storable) :
    Store.Puts (s.router.writes now c) s.texts done (s.respond now c).2.texts ∧ (s.respond now c).2.Gated := by
  have hmakes := Router.makes_outcome hdistinct now c
  obtain ⟨hputs, hhears⟩ := respond_puts_hears now c hmakes.distinct (hgated.passes hmakes) hdone
  refine ⟨hputs, fun id r hr => ?_⟩
  rw [(respond_follows s now c).router.registry]
  rcases hhears id r hr with hold | ⟨h, hh, -, rfl⟩
  · exact (hgated id r hold).trans hmakes.lastRevision
  · exact (hmakes.fresh h hh).2

/-- A store that works goes on to do so, and every change of a head is answered with the head. -/
theorem works_respond (hworks : s.Works) (hstorable : ∀ h ∈ s.router.snapshots now c, h.Storable) :
    (s.respond now c).2.Works := by
  rcases respond_cases s now c with ⟨hsame, -, -⟩ | ⟨t, head, event, hrespond, hsame, hsnapshots, -⟩ |
    ⟨timeout, order, rfl⟩ | ⟨policy, rfl⟩
  · exact hsame.works hworks
  · rw [hrespond]
    exact ((hsame.works hworks).finish now.tick event (hstorable head (hsnapshots ▸ List.mem_singleton_self head))).2
  · have hsame : SameStore s (s.withRegistry (s.router.registry.markStale now.wall timeout order).2) := ⟨rfl, rfl, rfl, rfl⟩
    exact works_foldl_finishStale (hsame.works hworks) now.tick hstorable
  · have hsame : SameStore s ({ s with router := { s.router with policy := policy } }.mapCache (·.clear)) :=
      ⟨rfl, rfl, rfl, rfl⟩
    have hsaved := ((hsame.works hworks).savesPolicy now.tick policy).2
    exact ⟨hsaved.store, hsaved.circuit, hsaved.readable⟩

end

end Service

end FleetRouting
