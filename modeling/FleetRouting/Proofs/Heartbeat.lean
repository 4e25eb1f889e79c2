import FleetRouting.Proofs.CacheTransparency
import FleetRouting.Proofs.StoreIsolation
/-!
# FleetRouting.Proofs.Heartbeat

**Status reports and predicted loads.** Every report moves the projected load of its head, but only news (another status
or another load) drops what is remembered. So a request for the lowest projected load is answered anew behind every
report, except when the report repeats the state of an active head and an answer is still remembered: then the head
answered before is answered again (`Session.Reachable.predictive_after_report`), and it need not be the one that is
predicted now (`Session.exists_outdated_prediction`).
-/

namespace FleetRouting

/-! ### Predicted heads -/

namespace Router

/-- The head with the lowest projected load of those that may serve a request. -/
def predicted? (r : Router) (c : Criteria) : Option Head :=
  (lowestProjected? (r.candidates c) (.ofPolicy r.policy)).map Prod.fst

/-- The identifier of the predicted head; empty when no head may serve. -/
def predictedId (r : Router) (c : Criteria) : String := ((r.predicted? c).map Head.id).getD ""

theorem Agrees.predictedId_eq {r t : Router} (h : r.Agrees t) (c : Criteria) : r.predictedId c = t.predictedId c := by
  rw [predictedId, predictedId, predicted?, predicted?, h.candidates_eq, h.policy]

/-- The predicted head is the one that is selected for a predictive request. -/
theorem selectedId_of_predictive {r : Router} {c : Criteria} (hc : r.strategy c = .predictive) :
    r.selectedId c = r.predictedId c := by
  rw [selectedId, selection, hc, predictedId, predicted?]
  cases hlowest : lowestProjected? (r.candidates c) (.ofPolicy r.policy) with
  | none =>
      simp only [select, hlowest]
      rfl
  | some w =>
      simp only [select, hlowest]
      rfl

theorem headId_decide_of_recall {r : Router} {c : Criteria} {tick : Nat} {h : Head}
    (hrecall : r.recalled? c tick = some h) : (r.decide c tick).1.headId = h.id := by
  rw [decide_of_recall hrecall]
  rfl

/-! ### Reports -/

/-- A report that repeats the status and the load of an active head which may serve a request. -/
def Repeats (r : Router) (q : StatusReport) (c : Criteria) : Prop :=
  ∃ h, r.registry.get? q.headId = some h ∧ serves h c ∧ h.status = q.status ∧ h.currentLoad = q.currentLoad

/-- The routing state behind a report. -/
def reported (r : Router) (change : StatusChange) (registry : Registry) : Router :=
  { r with registry := registry, cache := Service.forgetReport r.cache change }

section

variable {r : Router} {now : Timestamp} {q : StatusReport} {change : StatusChange} {registry : Registry}

/-- Forgetting does not make entries older. -/
theorem isFresh_forgetReport (cache : Cache) (change : StatusChange) (e : CacheEntry) (tick : Nat) :
    (Service.forgetReport cache change).isFresh e tick = cache.isFresh e tick := by
  unfold Service.forgetReport
  split
  · rfl
  · split <;> rfl

/-- Which heads are listed does not depend on a report that leaves an answer in the cache. -/
theorem listed_of_remembered (hr : r.Faithful) (hreport : r.report? now q = some (change, registry)) {c : Criteria}
    {e : CacheEntry} (he : e ∈ (Service.forgetReport r.cache change).entries) (hkey : e.key = .ofCriteria c) :
    r.Repeats q c ∧ registry.listActive c.modelType =
        (r.registry.listActive c.modelType).map change.current.unless ∨
      registry.listActive c.modelType = r.registry.listActive c.modelType := by
  have hmodel : e.key.modelType = c.modelType := congrArg CacheKey.modelType hkey
  by_cases hother : change.current.modelType = c.modelType
  · obtain ⟨-, hnews⟩ := Faithful.mem_forgetReport he
    have hrepeated : change.statusChanged = false ∧ change.loadChanged = false := by
      rw [← Bool.not_eq_true, ← Bool.not_eq_true, ← not_or]
      exact fun h => hnews h (hmodel.trans hother.symm)
    obtain ⟨hlisted, -⟩ := hr.report_of_repeated hreport hrepeated.2 hrepeated.1 c.modelType
    obtain ⟨hsame, hprevious⟩ := hr.report?_spec hreport
    obtain ⟨hget, hcurrent, rfl⟩ := Registry.change?_eq_some hreport
    have hstatus : change.previous.status = change.current.status := bne_eq_false_iff_eq.1 hrepeated.1
    have hload : change.previous.currentLoad = change.current.currentLoad := bne_eq_false_iff_eq.1 hrepeated.2
    by_cases hactive : change.previous.isActive
    · refine .inl ⟨⟨change.previous, hget, ?_, ?_, ?_⟩, hlisted⟩
      · rw [serves, hactive, ← hsame, hother, beq_self_eq_true]
        rfl
      · rw [hstatus, hcurrent]
      · rw [hload, hcurrent]
    · -- an inactive head that stays so is in no listing, before or after
      rw [Bool.not_eq_true] at hactive
      refine .inr (Registry.listActive_replace_of_other (r := r.registry) ?_ fun a ha haid => ?_)
      · rw [Head.isActive, ← hstatus, ← Head.isActive, hactive, Bool.false_and]
      · rw [hprevious a ha haid, hactive, Bool.false_and]
  · exact .inr (hr.report_of_other hreport hother)

/-- What is remembered behind a report was remembered before it, under the same identifier. -/
theorem recalled?_of_reported (hr : r.Faithful) (hunique : r.cache.Unique)
    (hreport : r.report? now q = some (change, registry)) {c : Criteria} {tick tick' : Nat} (hle : tick ≤ tick')
    {h' : Head} (hrecall : (r.reported change registry).recalled? c tick' = some h') :
    ∃ h, r.recalled? c tick = some h ∧ h.id = h'.id := by
  obtain ⟨hlisted, e, he, hkey, hfresh, hid⟩ := candidate_of_recalled? hrecall
  obtain ⟨hbefore, -⟩ := Faithful.mem_forgetReport he
  have hfresh' : r.cache.isFresh e tick' := by
    rw [← isFresh_forgetReport]
    exact hfresh
  -- the head was listed before, perhaps in an older state
  have hold : ∃ a ∈ r.candidates c, a.id = h'.id := by
    have hnow : h' ∈ registry.listActive c.modelType := hlisted
    rcases listed_of_remembered hr hreport he hkey with ⟨-, hmap⟩ | hsame
    · rw [hmap] at hnow
      obtain ⟨a, ha, rfl⟩ := List.mem_map.1 hnow
      exact ⟨a, ha, (change.current.unless_id a).symm⟩
    · rw [hsame] at hnow
      exact ⟨h', hnow, rfl⟩
  obtain ⟨a, ha, haid⟩ := hold
  exact ⟨a, hr.recalled?_of_candidate hunique hle ha hbefore hkey hfresh' (haid.trans hid), haid⟩

/-- **Behind a report, a predictive request is given the predicted head anew**, unless the report repeats the state of
an active head of the model type and an answer is still remembered, which is then given again. -/
theorem headId_of_reported (hr : r.Faithful) (hunique : r.cache.Unique)
    (hreport : r.report? now q = some (change, registry)) {c : Criteria} (hc : r.strategy c = .predictive)
    {tick tick' : Nat} (hle : tick ≤ tick') (hbefore : (r.decide c tick).1.headId = r.predictedId c) :
    (r.Repeats q c ∧ ((r.reported change registry).recalled? c tick').isSome →
      ((r.reported change registry).decide c tick').1.headId = (r.decide c tick).1.headId) ∧
    (¬ (r.Repeats q c ∧ ((r.reported change registry).recalled? c tick').isSome) →
      ((r.reported change registry).decide c tick').1.headId = (r.reported change registry).predictedId c) := by
  cases hrecall : (r.reported change registry).recalled? c tick' with
  | none =>
      refine ⟨fun h => absurd h.2 Bool.false_ne_true, fun _ => ?_⟩
      rw [headId_decide_of_no_recall hrecall]
      exact selectedId_of_predictive hc
  | some h' =>
      obtain ⟨h, hrecalled, hid⟩ := recalled?_of_reported hr hunique hreport hle hrecall
      have hsame : ((r.reported change registry).decide c tick').1.headId = (r.decide c tick).1.headId := by
        rw [headId_decide_of_recall hrecall, headId_decide_of_recall hrecalled, hid]
      refine ⟨fun _ => hsame, fun hnot => ?_⟩
      -- the entry survived a report that moved no candidate of the request
      obtain ⟨⟨e, he, hkey, -⟩, -⟩ := entry_of_recalled? hrecall
      rcases listed_of_remembered hr hreport he hkey with ⟨hrepeats, -⟩ | hlisted
      · exact absurd ⟨hrepeats, rfl⟩ hnot
      · have hcandidates : (r.reported change registry).candidates c = r.candidates c := hlisted
        rw [hsame, hbefore, predictedId, predictedId, predicted?, predicted?, hcandidates]
        rfl

end

end Router

/-! ### Reports in whole runs -/

/-- True for the answer to a command that was not carried out. -/
def Answer.isRefusal : Answer → Bool
  | .head (.error e) => !e.isLostWrite
  | _ => false

/-- Whatever the store does, the same commands are refused. -/
theorem Answer.Stems.isRefusal_eq {verdict answer : Answer} (h : verdict.Stems answer) :
    answer.isRefusal = verdict.isRefusal := by
  cases h with
  | head kept =>
      rcases kept with rfl | ⟨e, he, rfl⟩
      · rfl
      · rw [isRefusal, he]
        rfl
  | _ => rfl

namespace Session

/-- A report that is not refused changes routing, whether or not it is written. -/
theorem reported_of_accepted {x : Session} {q : StatusReport} (haccepted : (x.step (.update q)).1.isRefusal = false) :
    ∃ change registry, x.service.router.report? x.now.wall q = some (change, registry) ∧
      (x.step (.update q)).2.service.router.Agrees (x.service.router.reported change registry) := by
  have hfollows := Service.respond_update x.service x.now q
  simp only [Router.outcome] at hfollows
  split at hfollows
  · next e hblank =>
      rw [Session.step, hfollows.answer.isRefusal_eq, Outcome.refused, Answer.isRefusal,
        Service.isLostWrite_of_blank hblank] at haccepted
      cases haccepted
  · cases hreport : x.service.router.report? x.now.wall q with
    | none =>
        rw [hreport] at hfollows
        rw [Session.step, hfollows.answer.isRefusal_eq] at haccepted
        cases haccepted
    | some result =>
        rw [hreport] at hfollows
        exact ⟨result.1, result.2, rfl, hfollows.router⟩

/-- **Behind a report that is not refused, a predictive request is given the predicted head**, provided that it was
before. The one exception is a report that repeats the state of an active head of the model type: an answer from the
cache then names the head that was named before. -/
theorem Reachable.predictive_after_report {x : Session} (hx : x.Reachable) {c : Criteria}
    (hc : x.service.router.strategy c = .predictive) {q : StatusReport}
    (haccepted : (x.step (.update q)).1.isRefusal = false) {i : Uuid}
    (hbefore : (x.service.route x.now i c).1.headId = x.service.router.predictedId c) (wall : Timestamp)
    (nanos : Nat) (j : Uuid) :
    let y := ((x.step (.update q)).2.step (.advance wall nanos)).2
    let answer := (y.service.route y.now j c).1
    let repeated := x.service.router.Repeats q c ∧ answer.strategyUsed = Router.cachedName
    (repeated → answer.headId = (x.service.route x.now i c).1.headId) ∧
      (¬ repeated → answer.headId = y.service.router.predictedId c) := by
  intro y answer repeated
  obtain ⟨change, registry, hreport, hagrees⟩ := reported_of_accepted haccepted
  have hanswer : answer = ((x.service.router.reported change registry).decide c (x.now.tick + nanos)).1 := by
    rw [← (hagrees.decide c _).1]
    exact Service.route_decision _ _ _ _
  have hpredicted : y.service.router.predictedId c = (x.service.router.reported change registry).predictedId c :=
    hagrees.predictedId_eq c
  rw [Service.route_decision] at hbefore ⊢
  obtain ⟨hrepeated, hanew⟩ := Router.headId_of_reported hx.faithful hx.unique hreport hc
    (Nat.le_add_right x.now.tick nanos) hbefore
  simp only [repeated, hanswer, hpredicted, Router.strategyUsed_decide_iff]
  exact ⟨hrepeated, hanew⟩

/-- Two heads: one whose load has fallen from 100 to 10, and one with a steady load of 50, which was then given to a
predictive request. -/
def fall : List Command :=
  let registration (id : String) (load : UInt32) : Registration := ⟨id, "http://" ++ id, "m", "", "", .empty, load⟩
  let report (id : String) (load : UInt32) : StatusReport := ⟨⟨.active, load, none⟩, id⟩
  [.register (registration "a" 100), .register (registration "b" 50), .update (report "a" 100),
    .update (report "a" 10), .update (report "b" 50),
    .route default { modelType := "m", strategy := some "predictive" }]

/-- The session behind `fall`. -/
def afterFall : Session := (start {} {} {} none ⟨⟨0, 0⟩, 0⟩).run fall

theorem reachable_afterFall : afterFall.Reachable := (Reachable.fresh _ _ _ _ _).run fall

theorem now_afterFall : afterFall.now = ⟨⟨0, 0⟩, 0⟩ := now_run _ fall

theorem afterFall_agrees : afterFall.service.router.Agrees (Router.follow {} ⟨⟨0, 0⟩, 0⟩ fall) := run_agrees _ fall

/-- A report behind `fall` is refused if routing refuses it. -/
theorem isRefusal_afterFall (q : StatusReport) :
    (afterFall.step (.update q)).1.isRefusal =
      ((Router.follow {} ⟨⟨0, 0⟩, 0⟩ fall).outcome ⟨⟨0, 0⟩, 0⟩ (.update q)).answer.isRefusal := by
  have hanswer := (Service.respond_follows afterFall.service afterFall.now (.update q)).answer
  rw [(afterFall_agrees.outcome _ _).answer, now_afterFall] at hanswer
  exact hanswer.isRefusal_eq

theorem predicted_afterFall :
    (afterFall.service.route afterFall.now default { modelType := "m", strategy := some "predictive" }).1.headId =
      afterFall.service.router.predictedId { modelType := "m", strategy := some "predictive" } := by
  rw [Service.route_decision, (afterFall_agrees.decide _ _).1, afterFall_agrees.predictedId_eq, now_afterFall]
  decide +kernel

/-- A head reports a load of 60 behind `fall`. -/
theorem predictive_after_news :
    let c : Criteria := { modelType := "m", strategy := some "predictive" }
    let y := ((afterFall.step (.update ⟨⟨.active, 60, none⟩, "a"⟩)).2.step (.advance ⟨1, 0⟩ 1000000000)).2
    (y.service.route y.now default c).1.headId = y.service.router.predictedId c := by
  intro c y
  have hc : afterFall.service.router.strategy c = .predictive := by
    rw [afterFall_agrees.strategy_eq]
    decide +kernel
  have haccepted : (afterFall.step (.update ⟨⟨.active, 60, none⟩, "a"⟩)).1.isRefusal = false := by
    rw [isRefusal_afterFall]
    decide +kernel
  refine (reachable_afterFall.predictive_after_report hc haccepted predicted_afterFall ⟨1, 0⟩ 1000000000 default).2 ?_
  rintro ⟨⟨h, hget, -, -, hload⟩, -⟩
  rw [afterFall_agrees.registry] at hget
  have hten : ((Router.follow {} ⟨⟨0, 0⟩, 0⟩ fall).registry.get? "a").map Head.currentLoad = some 10 := by
    decide +kernel
  rw [hget] at hten
  exact absurd (hload.symm.trans (Option.some.inj hten)) (by decide)

/-- The fallen load is reported once more behind `fall`: now the first head is predicted, but memory still gives the
second. -/
theorem exists_outdated_prediction :
    let c : Criteria := { modelType := "m", strategy := some "predictive" }
    let y := afterFall.step (.update ⟨⟨.active, 10, none⟩, "a"⟩)
    afterFall.Reachable ∧ afterFall.service.router.strategy c = .predictive ∧ y.1.isRefusal = false ∧
      (afterFall.service.route afterFall.now default c).1.headId = afterFall.service.router.predictedId c ∧
      (y.2.service.route y.2.now default c).1.headId ≠ y.2.service.router.predictedId c := by
  intro c y
  let update : Command := .update ⟨⟨.active, 10, none⟩, "a"⟩
  have hy : y.2.service.router.Agrees (Router.follow {} ⟨⟨0, 0⟩, 0⟩ (fall ++ [update])) :=
    (run_agrees afterFall [update]).trans (now_afterFall ▸ afterFall_agrees.follow _ [update])
  have hynow : y.2.now = ⟨⟨0, 0⟩, 0⟩ := now_afterFall
  refine ⟨reachable_afterFall, ?_, ?_, predicted_afterFall, ?_⟩
  · rw [afterFall_agrees.strategy_eq]
    decide +kernel
  · exact (isRefusal_afterFall _).trans (by decide +kernel)
  · rw [Service.route_decision, (hy.decide c _).1, hy.predictedId_eq, hynow]
    decide +kernel

end Session

end FleetRouting
