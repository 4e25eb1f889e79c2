import FleetRouting.Proofs.Accounting
import FleetRouting.Proofs.Departure
/-!
# FleetRouting.Proofs.CacheLifetime

**A remembered choice lives from the turn that made it until something ends it.** Along a run of turns, every entry of
the cache, expired or not, was made by one of them, which asked the strategy, and no turn since then has upset it
(`CacheEntry.Stands`): each command other than a request keeps only the entries that it does not upset
(`Router.kept_outcome`), and a request keeps what it finds or makes an entry of its own. Answers from the cache add
nothing, so the time of an entry is the time of its choice, and the time to live bounds the age of every cached answer.
-/

namespace FleetRouting

/-! ### What ends a remembered choice -/

namespace Router

/-- The commands that end the choice of the head `headId` for requests of `modelType`: a new policy; an accepted
registration under the model type, or of a head that was of it; an accepted report of another status or load of a head
of the model type; and the departure of the head itself. -/
inductive Upsets (r : Router) (now : Moment) (modelType headId : String) : Command → Prop where
  | policySet (policy : Policy) : Upsets r now modelType headId (.setPolicy policy)
  | registeredUnder {q : Registration}
      (accepted : Service.blank? [("head_id", q.headId), ("endpoint", q.endpoint), ("model_type", q.modelType)] = none)
      (under : q.modelType = modelType) : Upsets r now modelType headId (.register q)
  | registeredAway {q : Registration}
      (accepted : Service.blank? [("head_id", q.headId), ("endpoint", q.endpoint), ("model_type", q.modelType)] = none)
      {known : Head} (found : r.registry.get? q.headId = some known) (away : known.modelType = modelType) :
      Upsets r now modelType headId (.register q)
  | reported {q : StatusReport} (accepted : Service.blank? [("head_id", q.headId)] = none) {known : Head}
      (found : r.registry.get? q.headId = some known) (under : known.modelType = modelType)
      (news : known.status ≠ q.status ∨ known.currentLoad ≠ q.currentLoad) : Upsets r now modelType headId (.update q)
  | deregistered (accepted : Service.blank? [("head_id", headId)] = none) {known : Head}
      (found : r.registry.get? headId = some known) : Upsets r now modelType headId (.deregister headId)
  | swept {timeout : Duration} {order : List String} {silent : Head}
      (marked : silent ∈ (r.registry.markStale now.wall timeout order).1) (named : silent.id = headId) :
      Upsets r now modelType headId (.sweep timeout order)

variable {r : Router} {now : Moment} {e : CacheEntry}

theorem kept_register {q : Registration} (he : e ∈ (r.outcome now (.register q)).router.cache.entries) :
    e ∈ r.cache.entries ∧ ¬ r.Upsets now e.key.modelType e.headId (.register q) := by
  simp only [outcome] at he
  split at he
  · next hblank =>
      refine ⟨he, fun hupsets => ?_⟩
      cases hupsets with
      | registeredUnder accepted => cases hblank.symm.trans accepted
      | registeredAway accepted => cases hblank.symm.trans accepted
  · have he : e ∈ (Service.forgetRegistration r.cache (r.registry.register q now.wall).1
        (r.registry.get? q.headId)).entries := he
    obtain ⟨hbefore, hnew, hold⟩ := Faithful.mem_forgetRegistration he
    rw [Registry.register_modelType] at hnew
    refine ⟨hbefore, fun hupsets => ?_⟩
    cases hupsets with
    | registeredUnder _ under => exact hnew under
    | registeredAway _ found away => exact hold _ found away

theorem kept_update {q : StatusReport} (he : e ∈ (r.outcome now (.update q)).router.cache.entries) :
    e ∈ r.cache.entries ∧ ¬ r.Upsets now e.key.modelType e.headId (.update q) := by
  simp only [outcome] at he
  split at he
  · next hblank =>
      refine ⟨he, fun hupsets => ?_⟩
      cases hupsets with
      | reported accepted => cases hblank.symm.trans accepted
  · cases hreport : r.report? now.wall q with
    | none =>
        rw [hreport] at he
        refine ⟨he, fun hupsets => ?_⟩
        cases hupsets with
        | reported _ found =>
            have hnone : r.registry.get? q.headId = none := Option.map_eq_none_iff.1 hreport
            cases hnone.symm.trans found
    | some result =>
        obtain ⟨change, registry⟩ := result
        rw [hreport] at he
        obtain ⟨hbefore, hother⟩ := Faithful.mem_forgetReport he
        obtain ⟨hfound, hcurrent, -⟩ := Registry.change?_eq_some hreport
        refine ⟨hbefore, fun hupsets => ?_⟩
        cases hupsets with
        | reported _ found under news =>
            obtain rfl := Option.some.inj (hfound.symm.trans found)
            refine hother ?_ ?_
            · simpa only [StatusChange.statusChanged, StatusChange.loadChanged, bne_iff_ne, hcurrent] using news
            · rw [hcurrent]
              exact under.symm

theorem kept_deregister {id : String} (he : e ∈ (r.outcome now (.deregister id)).router.cache.entries) :
    e ∈ r.cache.entries ∧ ¬ r.Upsets now e.key.modelType e.headId (.deregister id) := by
  simp only [outcome] at he
  split at he
  · next hblank =>
      refine ⟨he, fun hupsets => ?_⟩
      cases hupsets with
      | deregistered accepted => cases hblank.symm.trans accepted
  · cases hchange : r.registry.deactivate? id with
    | none =>
        rw [hchange] at he
        refine ⟨he, fun hupsets => ?_⟩
        cases hupsets with
        | deregistered _ found =>
            have hnone : r.registry.get? e.headId = none := Option.map_eq_none_iff.1 hchange
            cases hnone.symm.trans found
    | some result =>
        rw [hchange] at he
        obtain ⟨hbefore, hid⟩ := List.mem_filter.1 he
        refine ⟨hbefore, fun hupsets => ?_⟩
        cases hupsets with
        | deregistered => exact of_decide_eq_true hid rfl

theorem kept_sweep {timeout : Duration} {order : List String}
    (he : e ∈ (r.outcome now (.sweep timeout order)).router.cache.entries) :
    e ∈ r.cache.entries ∧ ¬ r.Upsets now e.key.modelType e.headId (.sweep timeout order) := by
  obtain ⟨hbefore, hids⟩ := Faithful.mem_forgetAll he
  refine ⟨hbefore, fun hupsets => ?_⟩
  cases hupsets with
  | swept marked named => exact hids _ marked named

/-- **What a command leaves in the cache it does not upset.** Requests upset nothing, but they make entries. -/
theorem kept_outcome {c : Command} (hc : ∀ decisionId q, c ≠ .route decisionId q)
    (he : e ∈ (r.outcome now c).router.cache.entries) :
    e ∈ r.cache.entries ∧ ¬ r.Upsets now e.key.modelType e.headId c := by
  cases c with
  | register q => exact kept_register he
  | update q => exact kept_update he
  | deregister id => exact kept_deregister he
  | sweep timeout order => exact kept_sweep he
  | setPolicy policy => cases he
  | route decisionId q => exact absurd rfl (hc decisionId q)
  | advance wall nanos => exact ⟨he, nofun⟩

/-! ### Requests and the cache -/

/-- An answer from the cache leaves the cache as it is. -/
theorem cache_decide_of_cached {c : Criteria} {tick : Nat} (hcached : (r.decide c tick).1.strategyUsed = cachedName) :
    (r.decide c tick).2.cache = r.cache := by
  obtain ⟨h, hrecall, -⟩ := recalled?_of_cached hcached
  rw [decide_of_recall hrecall]

/-- A request keeps an entry, or makes one that names the selected head, and only if memory did not answer. -/
theorem mem_cache_of_decide {c : Criteria} {tick : Nat} (he : e ∈ (r.decide c tick).2.cache.entries) :
    e ∈ r.cache.entries ∨
      r.recalled? c tick = none ∧ ∃ s, r.selection c = some s ∧ e = ⟨.ofCriteria c, s.head.id, tick⟩ := by
  cases hrecall : r.recalled? c tick with
  | some h =>
      rw [decide_of_recall hrecall] at he
      exact .inl he
  | none =>
      rcases mem_decide_cache he with he | ⟨s, hselected, -, hmade⟩
      · exact .inl he
      · exact .inr ⟨rfl, s, hselected, hmade⟩

/-- Where memory does not answer, a selection does. -/
theorem decide_of_selection {c : Criteria} {tick : Nat} (hrecall : r.recalled? c tick = none) {s : Selection}
    (hselected : r.selection c = some s) :
    (r.decide c tick).1 = .ofHead s.head (r.strategy c).name s.reason.text := by
  have htidied : (r.tidied c tick).selection c = some s := hselected
  rw [decide_of_no_recall hrecall, compute_of_selection htidied]
  rfl

/-- **A choice that may be repeated takes the place of the entry of its key.** -/
theorem mem_cache_decide_iff {c : Criteria} {tick : Nat} (hrecall : r.recalled? c tick = none) {s : Selection}
    (hselected : r.selection c = some s) (hcacheable : s.cacheable) (hkey : e.key = .ofCriteria c) :
    e ∈ (r.decide c tick).2.cache.entries ↔ e = ⟨.ofCriteria c, s.head.id, tick⟩ := by
  have hkept : (r.selection c).filter Selection.cacheable = some s :=
    Option.filter_eq_some_iff.2 ⟨hselected, hcacheable⟩
  rw [decide_of_no_recall hrecall, compute_cache, selection_tidied, hkept]
  simp only [Cache.insert, List.mem_cons, or_iff_left_iff_imp]
  intro hold
  exact absurd hkey (of_decide_eq_true (List.mem_filter.1 hold).2)

/-- An expired entry does not answer, as it is the only one of its key. -/
theorem recalled?_of_expired (hunique : r.cache.Unique) {c : Criteria} {tick : Nat} (he : e ∈ r.cache.entries)
    (hkey : e.key = .ofCriteria c) (hexpired : r.cache.isFresh e tick = false) : r.recalled? c tick = none := by
  have hget : r.cache.get? (.ofCriteria c) tick = none := by
    simp [Cache.get?, ← hkey, hunique.find?_of_mem he, hexpired]
  rw [recalled?, hget]

/-! ### The time to live -/

theorem ttl_outcome (r : Router) (now : Moment) (c : Command) : (r.outcome now c).router.cache.ttl = r.cache.ttl := by
  have hmoves := r.moves_outcome now c
  generalize (r.outcome now c).router = r' at hmoves ⊢
  cases hmoves with
  | stays => rfl
  | registered =>
      simp only [register, Service.forgetRegistration]
      split
      · split <;> rfl
      · rfl
  | reported =>
      simp only [Service.forgetReport]
      split
      · rfl
      · split <;> rfl
  | deregistered => rfl
  | swept timeout order => exact ttl_forgetAll _ _
  | policySet => rfl
  | decided decisionId c =>
      cases hrecall : r.recalled? c now.tick with
      | some h => rw [decide_of_recall hrecall]
      | none =>
          rw [decide_of_no_recall hrecall, compute_cache]
          unfold tidied
          split <;> (simp only [Cache.insert]; split <;> rfl)

end Router

/-! ### Turns of a run -/

/-- A command in a run, with the session that it was given to. -/
structure Turn where
  before : Session
  command : Command

namespace Turn

/-- What the turn was answered. -/
def answer (turn : Turn) : Answer := (turn.before.step turn.command).1

/-- The turn ends the choice of the head `headId` for requests of `modelType`. -/
def Upsets (turn : Turn) (modelType headId : String) : Prop :=
  turn.before.service.router.Upsets turn.before.now modelType headId turn.command

/-- The turn is a request that the strategy answered, and the entry is what was remembered of it. -/
def Makes (turn : Turn) (e : CacheEntry) : Prop :=
  ∃ decisionId c s, turn.command = .route decisionId c ∧
    turn.before.service.router.recalled? c turn.before.now.tick = none ∧
    turn.before.service.router.selection c = some s ∧ e = ⟨.ofCriteria c, s.head.id, turn.before.now.tick⟩

/-- The turn is a request of a key that a strategy, and not the cache, answered with a head. The answer is empty only if
the registry has a head without an identifier. -/
def Chose (turn : Turn) (key : CacheKey) (headId : String) : Prop :=
  ∃ decisionId c d, turn.command = .route decisionId c ∧ CacheKey.ofCriteria c = key ∧ turn.answer = .decision d ∧
    d.strategyUsed ≠ Router.cachedName ∧ d.headId = headId ∧
    (∃ h ∈ turn.before.service.router.candidates c, ∃ strategy reason, d = .ofHead h strategy reason) ∧
    (turn.before.service.router.registry.Named → d.isEmpty = false)

theorem Makes.insertedAt_eq {turn : Turn} {e : CacheEntry} (h : turn.Makes e) :
    e.insertedAt = turn.before.now.tick := by
  obtain ⟨decisionId, c, s, -, -, -, rfl⟩ := h
  rfl

/-- What makes an entry is the choice of its head for its key. -/
theorem Makes.chose {turn : Turn} {e : CacheEntry} (h : turn.Makes e) : turn.Chose e.key e.headId := by
  obtain ⟨decisionId, c, s, hcommand, hrecall, hselected, rfl⟩ := h
  have hanswer : turn.answer = .decision (turn.before.service.router.decide c turn.before.now.tick).1 := by
    rw [answer, hcommand, ← Service.route_decision _ turn.before.now decisionId]
    rfl
  have hdecided := Router.decide_of_selection hrecall hselected
  have hlisted := Router.mem_candidates_of_selection hselected
  refine ⟨decisionId, c, _, hcommand, rfl, hanswer, ?_, ?_, ⟨s.head, hlisted, _, _, hdecided⟩, fun hnamed => ?_⟩
  · rw [ne_eq, Router.strategyUsed_decide_iff, hrecall]
    exact Bool.false_ne_true
  · rw [hdecided]
    rfl
  · have hid := hnamed s.head.id (List.mem_map_of_mem (Registry.mem_listActive.1 hlisted).1)
    rw [hdecided]
    simpa [Decision.isEmpty, Decision.ofHead] using hid

end Turn

/-- The sessions of a service whose cache has the time to live `ttl`, with their past, the latest turn first. The
service may restore heads and policy from the store at any time. -/
inductive Session.Past (ttl : Option Duration) : Session → List Turn → Prop where
  | started (store : Store) (breaker : Breaker) (bus : Bus) (now : Moment) :
      Past ttl (start store breaker bus ttl now) []
  | restored {x : Session} {turns : List Turn} (h : Past ttl x turns) : Past ttl x.bootstrapped turns
  | step {x : Session} {turns : List Turn} (h : Past ttl x turns) (c : Command) :
      Past ttl (x.step c).2 (⟨x, c⟩ :: turns)

/-- Some turn of the past made the entry, and none since then has upset it. -/
def CacheEntry.Stands (e : CacheEntry) (turns : List Turn) : Prop :=
  ∃ later first earlier, turns = later ++ first :: earlier ∧ first.Makes e ∧
    ∀ turn ∈ later, ¬ turn.Upsets e.key.modelType e.headId

namespace CacheEntry.Stands

variable {e : CacheEntry} {turn : Turn} {turns : List Turn}

theorem of_made (h : turn.Makes e) : e.Stands (turn :: turns) :=
  ⟨[], turn, turns, rfl, h, fun _ hmem => absurd hmem List.not_mem_nil⟩

theorem cons (h : e.Stands turns) (hturn : ¬ turn.Upsets e.key.modelType e.headId) : e.Stands (turn :: turns) := by
  obtain ⟨later, first, earlier, rfl, hmade, hkept⟩ := h
  exact ⟨turn :: later, first, earlier, rfl, hmade, List.forall_mem_cons.2 ⟨hturn, hkept⟩⟩

end CacheEntry.Stands

namespace Session

/-- What the past of a session tells of its cache. -/
structure Dated (x : Session) (ttl : Option Duration) (turns : List Turn) : Prop where
  ttl : x.service.router.cache.ttl = ttl
  unique : x.service.router.cache.Unique
  stands : ∀ e ∈ x.service.router.cache.entries, e.Stands turns
  passed : ∀ turn ∈ turns, turn.before.now.tick ≤ x.now.tick

theorem tick_le_step (x : Session) (c : Command) : x.now.tick ≤ (x.step c).2.now.tick := by
  cases c with
  | advance wall nanos => exact Nat.le_add_right _ _
  | _ => exact Nat.le_refl _

variable {ttl : Option Duration} {x : Session} {turns : List Turn}

theorem Dated.step (h : x.Dated ttl turns) (c : Command) : (x.step c).2.Dated ttl (⟨x, c⟩ :: turns) := by
  have hcache : (x.step c).2.service.router.cache = (x.service.router.outcome x.now c).router.cache :=
    (Service.respond_follows x.service x.now c).router.cache
  refine ⟨?_, ?_, fun e he => ?_, List.forall_mem_cons.2 ⟨x.tick_le_step c, fun turn hturn => ?_⟩⟩
  · rw [hcache, Router.ttl_outcome, h.ttl]
  · rw [hcache]
    exact Router.unique_outcome h.unique x.now c
  · rw [hcache] at he
    by_cases hc : ∃ decisionId q, c = .route decisionId q
    · obtain ⟨decisionId, q, rfl⟩ := hc
      rcases Router.mem_cache_of_decide he with he | ⟨hrecall, s, hselected, hmade⟩
      · exact (h.stands e he).cons nofun
      · exact .of_made ⟨decisionId, q, s, rfl, hrecall, hselected, hmade⟩
    · obtain ⟨hbefore, hkept⟩ := Router.kept_outcome (fun decisionId q heq => hc ⟨decisionId, q, heq⟩) he
      exact (h.stands e hbefore).cons hkept
  · exact (h.passed turn hturn).trans (x.tick_le_step c)

/-- Every session is dated by its past. -/
theorem Past.dated (hx : x.Past ttl turns) : x.Dated ttl turns := by
  induction hx with
  | started store breaker bus now =>
      have hempty : (start store breaker bus ttl now).service.router.cache.entries = [] := rfl
      refine ⟨rfl, .clear {}, fun e he => ?_, fun _ hmem => absurd hmem List.not_mem_nil⟩
      rw [hempty] at he
      exact absurd he List.not_mem_nil
  | @restored x turns hx ih =>
      have hcache : x.bootstrapped.service.router.cache = x.service.router.cache := x.service.cache_bootstrap
      refine ⟨?_, ?_, ?_, ih.passed⟩
      · rw [hcache, ih.ttl]
      · rw [hcache]
        exact ih.unique
      · rw [hcache]
        exact ih.stands
  | step hx c ih => exact ih.step c

/-- The past of a session grows with a run. -/
theorem Past.run (hx : x.Past ttl turns) (cs : List Command) :
    ∃ later, (x.run cs).Past ttl (later ++ turns) ∧ later.map Turn.command = cs.reverse := by
  induction cs generalizing x turns with
  | nil => exact ⟨[], hx, rfl⟩
  | cons c cs ih =>
      obtain ⟨later, hrest, hcommands⟩ := ih (hx.step c)
      refine ⟨later ++ [⟨x, c⟩], ?_, ?_⟩
      · rw [List.append_assoc]
        exact hrest
      · rw [List.map_append, hcommands, List.reverse_cons]
        rfl

/-- **A cached answer is never older than the time to live.** In every run, take a request and what it is answered. If
the answer is a cached one, the cache stays as it is, so nothing puts off the end of its entry; and the answer repeats
the head that a strategy chose in an earlier turn for a request of the same key, less than the time to live ago, and
which no turn since then has upset. An entry whose time is over does not answer, and a choice that may be repeated takes
its place. -/
theorem Past.cached_answer (hx : x.Past ttl turns) (decisionId : Uuid) (c : Criteria) {d : Decision}
    (hd : (x.step (.route decisionId c)).1 = .decision d) :
    let cache := x.service.router.cache
    let cache' := (x.step (.route decisionId c)).2.service.router.cache
    (d.strategyUsed = Router.cachedName →
      cache' = cache ∧
        ∃ later first earlier, turns = later ++ first :: earlier ∧ first.Chose (.ofCriteria c) d.headId ∧
          first.before.now.tick ≤ x.now.tick ∧ (∀ age, ttl = some age → x.now.tick - first.before.now.tick < age) ∧
          ∀ turn ∈ later, ¬ turn.Upsets c.modelType d.headId) ∧
      ∀ e ∈ cache.entries, e.key = .ofCriteria c → ∀ age, ttl = some age → age ≤ x.now.tick - e.insertedAt →
        d.strategyUsed ≠ Router.cachedName ∧
          ∀ s, x.service.router.selection c = some s → s.cacheable →
            ∀ e', e'.key = .ofCriteria c → (e' ∈ cache'.entries ↔ e' = ⟨.ofCriteria c, d.headId, x.now.tick⟩) := by
  intro cache cache'
  have hdated := hx.dated
  have hd : (x.service.route x.now decisionId c).1 = d := by injection hd
  rw [Service.route_decision] at hd
  subst hd
  have hcache : cache' = (x.service.router.decide c x.now.tick).2.cache :=
    (Service.respond_follows x.service x.now (.route decisionId c)).router.cache
  refine ⟨fun hcached => ⟨hcache.trans (Router.cache_decide_of_cached hcached), ?_⟩, ?_⟩
  · obtain ⟨h, hrecall, hanswer⟩ := Router.recalled?_of_cached hcached
    obtain ⟨⟨e, he, hkey, hfresh, hget⟩, -⟩ := Router.entry_of_recalled? hrecall
    have hid : (x.service.router.decide c x.now.tick).1.headId = e.headId := by
      rw [hanswer]
      exact (Registry.get?_eq_some hget).2
    obtain ⟨later, first, earlier, rfl, hmade, hkept⟩ := hdated.stands e he
    have hpassed := hdated.passed first (List.mem_append_right _ (List.mem_cons_self ..))
    refine ⟨later, first, earlier, rfl, ?_, hpassed, fun age hage => ?_, ?_⟩
    · rw [hid, ← hkey]
      exact hmade.chose
    · rw [Cache.isFresh, hdated.ttl, hage] at hfresh
      rw [← hmade.insertedAt_eq]
      exact of_decide_eq_true hfresh
    · have hmodel : c.modelType = e.key.modelType := by
        rw [hkey]
        rfl
      rw [hid, hmodel]
      exact hkept
  · intro e he hkey age hage hold
    have hexpired : x.service.router.cache.isFresh e x.now.tick = false := by
      rw [Cache.isFresh, hdated.ttl, hage]
      exact decide_eq_false (Nat.not_lt.2 hold)
    have hrecall := Router.recalled?_of_expired hdated.unique he hkey hexpired
    refine ⟨fun hcached => ?_, fun s hselected hcacheable e' hkey' => ?_⟩
    · rw [Router.strategyUsed_decide_iff, hrecall] at hcached
      cases hcached
    · rw [hcache, Router.mem_cache_decide_iff hrecall hselected hcacheable hkey',
        Router.decide_of_selection hrecall hselected]
      rfl

/-- A choice of tick 5 is repeated up to tick 34, also behind a repetition; at tick 35 it is made anew. -/
theorem cached_answer_ends :
    let c : Criteria := { modelType := "llm" }
    let x := (start {} {} {} (some 30) ⟨⟨0, 0⟩, 0⟩).run
      [.register ⟨"one", "http://one", "llm", "", "1", .empty, 10⟩, .advance ⟨0, 0⟩ 5, .route default c,
        .advance ⟨0, 0⟩ 20, .route default c, .advance ⟨0, 0⟩ 9]
    let y := (x.step (.advance ⟨0, 0⟩ 1)).2
    (∃ turns, x.Past (some 30) turns ∧ (x.service.route x.now default c).1.strategyUsed = Router.cachedName ∧
      ∃ turn ∈ turns, turn.Chose (.ofCriteria c) "one" ∧ x.now.tick - turn.before.now.tick < 30) ∧
      (y.service.route y.now default c).1.strategyUsed ≠ Router.cachedName ∧
        (⟨.ofCriteria c, "one", 35⟩ : CacheEntry) ∈ (y.step (.route default c)).2.service.router.cache.entries := by
  intro c x y
  have hstart : (start {} {} {} (some 30) ⟨⟨0, 0⟩, 0⟩).Past (some 30) [] := .started {} {} {} ⟨⟨0, 0⟩, 0⟩
  obtain ⟨turns, hx, -⟩ := hstart.run
    [.register ⟨"one", "http://one", "llm", "", "1", .empty, 10⟩, .advance ⟨0, 0⟩ 5, .route default c,
      .advance ⟨0, 0⟩ 20, .route default c, .advance ⟨0, 0⟩ 9]
  rw [List.append_nil] at hx
  have hx : x.Past (some 30) turns := hx
  have hcached : (x.service.route x.now default c).1.strategyUsed = Router.cachedName := rfl
  refine ⟨⟨turns, hx, hcached, ?_⟩, ?_⟩
  · obtain ⟨-, later, first, earlier, hturns, hchose, -, hage, -⟩ := (hx.cached_answer default c rfl).1 hcached
    rw [hturns]
    exact ⟨first, List.mem_append_right _ (List.mem_cons_self ..), hchose, hage 30 rfl⟩
  · have he : (⟨.ofCriteria c, "one", 5⟩ : CacheEntry) ∈ y.service.router.cache.entries := List.mem_cons_self ..
    obtain ⟨hcomputed, hreplaced⟩ :=
      ((hx.step (.advance ⟨0, 0⟩ 1)).cached_answer default c rfl).2 _ he rfl 30 rfl (by decide)
    exact ⟨hcomputed, (hreplaced _ rfl rfl ⟨.ofCriteria c, "one", 35⟩ rfl).2 rfl⟩

end Session

end FleetRouting
