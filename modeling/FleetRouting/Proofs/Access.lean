import FleetRouting.Http.App
import FleetRouting.Proofs.Restart
/-!
# FleetRouting.Proofs.Access

**Requests without the right role have no effect.** Where keys are known, a role is granted by a bearer token alone
(`Keyring.Grants`). What an admitted request does is one of four things (`App.perform_cases`): nothing, a change of one
head, a decision within the limits of the client, or a new policy. So heads change for operators, the policy for
administrators, and nothing at all for callers that are not known, wherever a request stands in a sequence of requests
(`App.run_guarded`).
-/

namespace FleetRouting

/-! ### Roles that are granted -/

theorem Role.includes_trans {a b c : Role} (h : a.includes b = true) (h' : b.includes c = true) : a.includes c = true :=
  decide_eq_true (Nat.le_trans (of_decide_eq_true h') (of_decide_eq_true h))

namespace Keyring

/-- The headers carry the bearer token of a known caller whose role includes `role`. -/
def Grants (k : Keyring) (headers : Headers) (role : Role) : Prop :=
  ∃ value token caller, headers.get? "authorization" = some value ∧ tokenOf? value = some token ∧
    k.keys.get? (tokenDigest token) = some caller ∧ caller.role.includes role = true

variable {k : Keyring} {headers : Headers} {role : Role}

theorem Grants.mono (h : k.Grants headers role) {role' : Role} (hrole : role.includes role' = true) :
    k.Grants headers role' := by
  obtain ⟨value, token, caller, hvalue, htoken, hcaller, hincludes⟩ := h
  exact ⟨value, token, caller, hvalue, htoken, hcaller, Role.includes_trans hincludes hrole⟩

/-- Where keys are known, a caller is who its token says. -/
theorem authenticate_of_keys (hkeys : k.isOpen = false) :
    k.authenticate headers =
      match (headers.get? "authorization").bind tokenOf? with
      | none => .error .missingToken
      | some token =>
        match k.keys.get? (tokenDigest token) with
        | some caller => .ok caller
        | none => .error .invalidToken := by
  rw [authenticate, authenticateWith, hkeys]
  rfl

/-- A role is granted to the caller that the token tells, if it has it. -/
theorem grants_iff (hkeys : k.isOpen = false) :
    k.Grants headers role ↔ ∃ caller, k.authenticate headers = .ok caller ∧ caller.role.includes role = true := by
  rw [authenticate_of_keys hkeys]
  constructor
  · rintro ⟨value, token, caller, hvalue, htoken, hcaller, hincludes⟩
    exact ⟨caller, by simp only [hvalue, Option.bind_some, htoken, hcaller], hincludes⟩
  · rintro ⟨caller, hcaller, hincludes⟩
    cases hbound : (headers.get? "authorization").bind tokenOf? with
    | none => simp only [hbound, reduceCtorEq] at hcaller
    | some token =>
        obtain ⟨value, hvalue, htoken⟩ := Option.bind_eq_some_iff.1 hbound
        cases hknown : k.keys.get? (tokenDigest token) with
        | none => simp only [hbound, hknown, reduceCtorEq] at hcaller
        | some known =>
            simp only [hbound, hknown, Except.ok.injEq] at hcaller
            exact ⟨value, token, known, hvalue, htoken, hknown, hcaller ▸ hincludes⟩

/-- A caller is let in for a role exactly if its token grants it, and is refused for want of a token, of a key, or of the
role. -/
theorem authorize_cases (hkeys : k.isOpen = false) (headers : Headers) (role : Role) :
    (∃ caller, k.authorize headers role = .ok caller) ∧ k.Grants headers role ∨
      (∃ e, k.authorize headers role = .error e ∧ (e.status = 401 ∨ e.status = 403)) ∧ ¬k.Grants headers role := by
  have hauthorize : k.authorize headers role =
      (k.authenticate headers).bind fun caller =>
        if caller.role.includes role then .ok caller else .error .forbidden := rfl
  rw [grants_iff hkeys, hauthorize]
  cases hcaller : k.authenticate headers with
  | ok caller =>
      simp only [Except.bind, Except.ok.injEq, exists_eq_left']
      by_cases hincludes : caller.role.includes role = true
      · exact .inl ⟨⟨caller, if_pos hincludes⟩, hincludes⟩
      · exact .inr ⟨⟨.forbidden, if_neg hincludes, .inr rfl⟩, hincludes⟩
  | error e =>
      refine .inr ⟨⟨e, rfl, .inl ?_⟩, fun ⟨_, h, _⟩ => (nomatch h)⟩
      rw [authenticate_of_keys hkeys] at hcaller
      split at hcaller
      · exact Except.error.inj hcaller ▸ rfl
      · split at hcaller
        · cases hcaller
        · exact Except.error.inj hcaller ▸ rfl

end Keyring

/-! ### What a request asks for -/

namespace Request

/-- The action that a request asks for. -/
def action? (q : Request) : Option Action := (Resource.ofPath q.path).action? q.method

/-- The role that a request needs: that of its action, or the one that guards the resource if there is no such action.
What a page of another origin may do can be asked for without a role. -/
def role? (q : Request) : Option Role :=
  if q.method = "OPTIONS" then none
  else
    match q.action? with
    | some action => action.role?
    | none => (Resource.ofPath q.path).guard?

end Request

/-- The body of a request is one that the action can read. -/
def Action.Reads (q : Request) : Action → Prop
  | .register => ∃ registration, App.readBody Registration.ofJson q = .ok registration
  | .report _ => ∃ body, App.readBody StatusBody.ofJson q = .ok body
  | .route => ∃ c, App.readBody Criteria.ofJson q = .ok c
  | .replacePolicy => ∃ policy, App.readBody Policy.ofJson q = .ok policy
  | _ => True

namespace App

variable (app : App) (now : Moment) (decisionId : Uuid) (q : Request)

/-- Going on with a decoded value, or not. -/
theorem decoded_cases {α : Type} (value : Except Response α) (go : α → Response × App) :
    (∃ a, value = .ok a ∧ app.decoded value go = go a) ∨
      ∃ response, value = .error response ∧ app.decoded value go = (response, app) := by
  cases value with
  | ok a => exact .inl ⟨a, rfl, rfl⟩
  | error response => exact .inr ⟨response, rfl, rfl⟩

/-- What a caller with the role that is needed gets. -/
def admitted (action : Option Action) : Response × App :=
  match action with
  | some action => app.perform now decisionId q action
  | none => (misfit (Resource.ofPath q.path), app)

/-- The role is checked before anything else. -/
theorem handle_eq (hmethod : q.method ≠ "OPTIONS") :
    app.handle now decisionId q =
      app.decoded (app.checkRole q q.role?) fun _ => app.admitted now decisionId q q.action? := by
  rw [handle, if_neg hmethod, Request.role?, if_neg hmethod]
  simp only [Request.action?]
  cases (Resource.ofPath q.path).action? q.method with
  | none => rfl
  | some action => rfl

/-- **The four ways of an admitted request:** it changes nothing, it hands a command about one head to the service, it
asks for a head within the limits of the client, or it hands a new policy to the service. -/
theorem perform_cases (action : Action) :
    (app.perform now decisionId q action).2 = app ∨
      (action.role? = some .operator ∧ ∃ c : Command, c.headId?.isSome ∧
        (app.perform now decisionId q action).2 = { app with service := (app.service.respond now c).2 }) ∨
      (action = .route ∧ ∃ c, app.perform now decisionId q action = app.route now decisionId (clientKey q) c) ∨
      (action.role? = some .admin ∧ ∃ policy, (app.perform now decisionId q action).2 =
        { app with service := (app.service.respond now (.setPolicy policy)).2 }) := by
  cases action with
  | register =>
      rcases app.decoded_cases (readBody Registration.ofJson q) _ with ⟨registration, -, h⟩ | ⟨response, -, h⟩
      · exact .inr (.inl ⟨rfl, .register registration, rfl, congrArg Prod.snd h⟩)
      · exact .inl (congrArg Prod.snd h)
  | report id =>
      rcases app.decoded_cases (readId id) _ with ⟨id', -, h⟩ | ⟨response, -, h⟩
      · rcases app.decoded_cases (readBody StatusBody.ofJson q) _ with ⟨body, -, h'⟩ | ⟨response, -, h'⟩
        · exact .inr (.inl ⟨rfl, .update ⟨body, id'⟩, rfl, congrArg Prod.snd (h.trans h')⟩)
        · exact .inl (congrArg Prod.snd (h.trans h'))
      · exact .inl (congrArg Prod.snd h)
  | deregister id =>
      rcases app.decoded_cases (readId id) _ with ⟨id', -, h⟩ | ⟨response, -, h⟩
      · exact .inr (.inl ⟨rfl, .deregister id', rfl, congrArg Prod.snd h⟩)
      · exact .inl (congrArg Prod.snd h)
  | route =>
      rcases app.decoded_cases (readBody Criteria.ofJson q) _ with ⟨c, -, h⟩ | ⟨response, -, h⟩
      · exact .inr (.inr (.inl ⟨rfl, c, h⟩))
      · exact .inl (congrArg Prod.snd h)
  | replacePolicy =>
      rcases app.decoded_cases (readBody Policy.ofJson q) _ with ⟨policy, -, h⟩ | ⟨response, -, h⟩
      · exact .inr (.inr (.inr ⟨rfl, policy, congrArg Prod.snd h⟩))
      · exact .inl (congrArg Prod.snd h)
  | _ => exact .inl rfl

/-- A body that cannot be read has no effect. -/
theorem perform_of_unread {action : Action} (h : ¬action.Reads q) : (app.perform now decisionId q action).2 = app := by
  have hunread {α : Type} {value : Except Response α} {go : α → Response × App} (hvalue : ¬∃ a, value = .ok a) :
      (app.decoded value go).2 = app := by
    rcases app.decoded_cases value go with ⟨a, ha, -⟩ | ⟨response, -, hdecoded⟩
    · exact absurd ⟨a, ha⟩ hvalue
    · rw [hdecoded]
  cases action with
  | register => exact hunread h
  | report id =>
      rcases app.decoded_cases (readId id) _ with ⟨id', -, hid⟩ | ⟨response, -, hid⟩
      · exact (congrArg Prod.snd hid).trans (hunread h)
      · exact congrArg Prod.snd hid
  | route => exact hunread h
  | replacePolicy => exact hunread h
  | _ => exact absurd trivial h

end App

/-! ### What a command leaves alone -/

namespace Service

/-- Writing the snapshot of a head leaves the stored policy alone. -/
theorem storedPolicy_finish (s : Service) (tick : Nat) (head : Head) (event : FleetEvent) :
    (s.finish tick head event).2.texts.get? Store.policyKey = s.texts.get? Store.policyKey := by
  have hguarded : (s.guarded tick (Store.saveHead head)).2.texts.get? Store.policyKey = s.texts.get? Store.policyKey := by
    rcases (s.guarded_put tick fun store => Store.put_saveHead store head).1 with hput | ⟨hsame, -⟩
    · rw [hput, SortedMap.get?_insert_of_ne _ _ (Store.policyKey_ne_headKey head.id)]
    · rw [hsame]
  show (s.saveSnapshot tick head).2.texts.get? Store.policyKey = s.texts.get? Store.policyKey
  rcases s.saveSnapshot_cases tick head with ⟨-, hsave⟩ | ⟨written, -, hsave⟩
  · rw [hsave]
  · rw [hsave]
    exact hguarded

/-- A command about one head leaves the policy alone, in force and stored. -/
theorem policy_respond_of_head (s : Service) (now : Moment) {c : Command} (hc : c.headId?.isSome) :
    (s.respond now c).2.router.policy = s.router.policy ∧
      (s.respond now c).2.texts.get? Store.policyKey = s.texts.get? Store.policyKey := by
  constructor
  · rw [(s.respond_follows now c).router.policy]
    refine (s.router.moves_outcome now c).policy_eq ?_
    rintro policy rfl
    cases hc
  · rcases s.respond_cases now c with ⟨hsame, -, -⟩ | ⟨t, head, event, hrespond, hsame, -, -⟩ | ⟨timeout, order, rfl⟩ |
      ⟨policy, rfl⟩
    · rw [hsame.texts]
    · rw [hrespond, ← hsame.texts]
      exact t.storedPolicy_finish now.tick head event
    · cases hc
    · cases hc

/-- A decision leaves heads, policy and store alone. -/
theorem route_keeps (s : Service) (now : Moment) (decisionId : Uuid) (c : Criteria) :
    (s.route now decisionId c).2.router.registry = s.router.registry ∧
      (s.route now decisionId c).2.router.policy = s.router.policy ∧ (s.route now decisionId c).2.store = s.store := by
  unfold route
  simp only
  split
  · exact ⟨s.router.decide_registry c now.tick, s.router.decide_policy c now.tick, rfl⟩
  · exact ⟨s.router.decide_registry c now.tick, s.router.decide_policy c now.tick, rfl⟩

end Service

namespace App

theorem route_keeps (app : App) (now : Moment) (decisionId : Uuid) (client : String) (c : Criteria) :
    (app.route now decisionId client c).2.keyring = app.keyring ∧
      (app.route now decisionId client c).2.service.router.registry = app.service.router.registry ∧
      (app.route now decisionId client c).2.service.router.policy = app.service.router.policy ∧
      (app.route now decisionId client c).2.service.store = app.service.store := by
  unfold route
  rcases app.limiter.check client now.tick with ⟨verdict, limiter⟩
  cases verdict with
  | allowed => exact ⟨rfl, app.service.route_keeps now decisionId c⟩
  | limited retryAfter => exact ⟨rfl, rfl, rfl, rfl⟩

/-! ### One request -/

/-- `after` differs from `before` at most in what the headers of a request give leave to change. -/
structure Guarded (headers : Headers) (before after : App) : Prop where
  keyring : after.keyring = before.keyring
  heads : ¬before.keyring.Grants headers .operator →
    after.service.router.registry = before.service.router.registry ∧ after.service.store = before.service.store
  policy : ¬before.keyring.Grants headers .admin →
    after.service.router.policy = before.service.router.policy ∧
      after.service.texts.get? Store.policyKey = before.service.texts.get? Store.policyKey
  /-- The cache, the rotations and the limiter are among what stays as it is. -/
  unknown : ¬before.keyring.Grants headers .viewer → after = before

variable {app : App} (now : Moment) (decisionId : Uuid) {q : Request}

theorem Guarded.refl (app : App) (headers : Headers) : Guarded headers app app :=
  ⟨rfl, fun _ => ⟨rfl, rfl⟩, fun _ => ⟨rfl, rfl⟩, fun _ => rfl⟩

/-- Roles are granted where they are asked for. -/
theorem grants_of_checkRole (hkeys : app.keyring.isOpen = false) {role : Role} (h : app.checkRole q (some role) = .ok ()) :
    app.keyring.Grants q.headers role := by
  rcases app.keyring.authorize_cases hkeys q.headers role with ⟨-, hgrants⟩ | ⟨⟨e, hrefused, -⟩, -⟩
  · exact hgrants
  · simp only [checkRole, hrefused, reduceCtorEq] at h

theorem guarded_perform (action : Action)
    (hrole : ∀ role, action.role? = some role → app.keyring.Grants q.headers role) :
    Guarded q.headers app (app.perform now decisionId q action).2 := by
  rcases app.perform_cases now decisionId q action with hsame | ⟨hneeds, c, hc, hafter⟩ | ⟨rfl, c, hafter⟩ |
    ⟨hneeds, policy, hafter⟩
  · rw [hsame]
    exact .refl app q.headers
  · have hoperator := hrole .operator hneeds
    rw [hafter]
    exact ⟨rfl, fun hnot => absurd hoperator hnot, fun _ => app.service.policy_respond_of_head now hc,
      fun hnot => absurd (hoperator.mono rfl) hnot⟩
  · have hviewer := hrole .viewer rfl
    obtain ⟨hkeyring, hregistry, hpolicy, hstore⟩ := app.route_keeps now decisionId (clientKey q) c
    rw [hafter]
    exact ⟨hkeyring, fun _ => ⟨hregistry, hstore⟩,
      fun _ => ⟨hpolicy, congrArg (fun store : Store => store.contents.values.get? Store.policyKey) hstore⟩,
      fun hnot => absurd hviewer hnot⟩
  · have hadmin := hrole .admin hneeds
    rw [hafter]
    exact ⟨rfl, fun hnot => absurd (hadmin.mono rfl) hnot, fun hnot => absurd hadmin hnot,
      fun hnot => absurd (hadmin.mono rfl) hnot⟩

/-- **A request changes only what its token allows.** -/
theorem guarded_handle (hkeys : app.keyring.isOpen = false) :
    Guarded q.headers app (app.handle now decisionId q).2 := by
  by_cases hmethod : q.method = "OPTIONS"
  · rw [handle, if_pos hmethod]
    exact .refl app q.headers
  · rw [handle_eq app now decisionId q hmethod]
    rcases app.decoded_cases (app.checkRole q q.role?) _ with ⟨⟨⟩, hadmitted, h⟩ | ⟨response, -, h⟩
    · rw [h]
      cases haction : q.action? with
      | none => exact .refl app q.headers
      | some action =>
          refine guarded_perform now decisionId action fun role hrole => ?_
          have hneeded : q.role? = some role := by
            rw [Request.role?, if_neg hmethod, haction]
            exact hrole
          rw [hneeded] at hadmitted
          exact grants_of_checkRole hkeys hadmitted
    · rw [h]
      exact .refl app q.headers

/-- A request without the role that it needs is refused. -/
theorem handle_of_ungranted (hkeys : app.keyring.isOpen = false) {role : Role} (hrole : q.role? = some role)
    (hnot : ¬app.keyring.Grants q.headers role) :
    ((app.handle now decisionId q).1.status = 401 ∨ (app.handle now decisionId q).1.status = 403) ∧
      (app.handle now decisionId q).2 = app := by
  have hmethod : q.method ≠ "OPTIONS" := by
    intro hmethod
    rw [Request.role?, if_pos hmethod] at hrole
    cases hrole
  rcases app.keyring.authorize_cases hkeys q.headers role with ⟨-, hgrants⟩ | ⟨⟨e, hrefused, hstatus⟩, -⟩
  · exact absurd hgrants hnot
  · have hcheck : app.checkRole q q.role? = .error (refused e.status e.message) := by
      rw [hrole]
      simp only [checkRole, hrefused]
    rw [handle_eq app now decisionId q hmethod, hcheck]
    exact ⟨hstatus, rfl⟩

/-- No action is asked for by a look at what is allowed. -/
theorem method_ne_options {action : Action} (haction : q.action? = some action) : q.method ≠ "OPTIONS" := by
  intro hmethod
  rw [Request.action?, hmethod] at haction
  cases hresource : Resource.ofPath q.path <;> simp [hresource, Resource.action?] at haction

/-- A request whose body cannot be read has no effect, whoever asks. -/
theorem handle_of_unread {action : Action} (haction : q.action? = some action) (hunread : ¬action.Reads q) :
    (app.handle now decisionId q).2 = app := by
  rw [handle_eq app now decisionId q (method_ne_options haction), haction]
  rcases app.decoded_cases (app.checkRole q q.role?) _ with ⟨_, -, h⟩ | ⟨response, -, h⟩
  · rw [h]
    exact app.perform_of_unread now decisionId q hunread
  · rw [h]

/-- A request for a head beyond the limits of the client has to wait, and counts as such. -/
theorem handle_of_limited (hkeys : app.keyring.isOpen = false) (haction : q.action? = some .route)
    (hviewer : app.keyring.Grants q.headers .viewer) {c : Criteria} (hbody : readBody Criteria.ofJson q = .ok c)
    {retryAfter : Duration} (hlimited : (app.limiter.check (clientKey q) now.tick).1 = .limited retryAfter) :
    app.handle now decisionId q =
      (tooMany retryAfter,
        { app with
          limiter := (app.limiter.check (clientKey q) now.tick).2
          service := app.service.count fun m => { m with rateLimited := m.rateLimited + 1 } }) := by
  have hmethod := method_ne_options haction
  have hrole : q.role? = some .viewer := by
    rw [Request.role?, if_neg hmethod, haction]
    rfl
  have hcheck : app.checkRole q q.role? = .ok () := by
    rcases app.keyring.authorize_cases hkeys q.headers .viewer with ⟨⟨caller, hcaller⟩, -⟩ | ⟨-, hnot⟩
    · rw [hrole]
      simp only [checkRole, hcaller]
    · exact absurd hviewer hnot
  rw [handle_eq app now decisionId q hmethod, hcheck, haction]
  simp only [decoded, admitted, perform, hbody, route]
  revert hlimited
  rcases app.limiter.check (clientKey q) now.tick with ⟨verdict, limiter⟩
  rintro rfl
  rfl

end App

/-! ### Sequences of requests -/

/-- A request, the moment at which it is handled, and the identifier for the decision that it may come to. -/
structure Arrival where
  now : Moment
  decisionId : Uuid
  request : Request

namespace App

/-- The response to a request that arrives, and the application behind it. -/
def take (app : App) (a : Arrival) : Response × App := app.handle a.now a.decisionId a.request

/-- The application behind some requests. -/
def run (app : App) (arrivals : List Arrival) : App := arrivals.foldl (fun app a => (app.take a).2) app

/-- No request changes the keys. -/
theorem keyring_run {app : App} (hkeys : app.keyring.isOpen = false) (arrivals : List Arrival) :
    (app.run arrivals).keyring = app.keyring := by
  induction arrivals generalizing app with
  | nil => rfl
  | cons a arrivals ih =>
      have hkeyring : (app.take a).2.keyring = app.keyring := (guarded_handle a.now a.decisionId hkeys).keyring
      exact (ih (hkeyring ▸ hkeys)).trans hkeyring

/-- **Requests without the right role have no effect.** Where keys are known, wherever a request arrives: heads change
only for the token of an operator or an administrator, the policy only for that of an administrator, and all else only
for a known token. Below the role that it needs a request is answered 401 or 403 and changes nothing, and nothing is
changed by a request whose body cannot be read. A request for a head beyond the limits of the client changes the limiter
and counts as limited, no more. -/
theorem run_guarded {app : App} (hkeys : app.keyring.isOpen = false) (older : List Arrival) (a : Arrival) :
    let before := app.run older
    let response := (before.take a).1
    let after := (before.take a).2
    let grants := app.keyring.Grants a.request.headers
    (¬grants .operator →
        after.service.router.registry = before.service.router.registry ∧ after.service.store = before.service.store) ∧
      (¬grants .admin →
        after.service.router.policy = before.service.router.policy ∧
          after.service.texts.get? Store.policyKey = before.service.texts.get? Store.policyKey) ∧
      (¬grants .viewer → after = before) ∧
      (∀ role, a.request.role? = some role → ¬grants role →
        (response.status = 401 ∨ response.status = 403) ∧ after = before) ∧
      (∀ action, a.request.action? = some action → action = .showHealth ∨ action = .showMetrics ∨ a.request.role?.isSome) ∧
      (∀ action, a.request.action? = some action → ¬action.Reads a.request → after = before) ∧
      ∀ c retryAfter, a.request.action? = some .route → grants .viewer → readBody Criteria.ofJson a.request = .ok c →
        (before.limiter.check (clientKey a.request) a.now.tick).1 = .limited retryAfter →
        response.status = 429 ∧
          after =
            { before with
              limiter := (before.limiter.check (clientKey a.request) a.now.tick).2
              service := before.service.count fun m => { m with rateLimited := m.rateLimited + 1 } } := by
  intro before response after grants
  have hkeyring : before.keyring = app.keyring := keyring_run hkeys older
  have hclosed : before.keyring.isOpen = false := hkeyring ▸ hkeys
  have hguarded : Guarded a.request.headers before after := guarded_handle a.now a.decisionId hclosed
  obtain ⟨-, hheads, hpolicy, hunknown⟩ := hguarded
  rw [hkeyring] at hheads hpolicy hunknown
  refine ⟨hheads, hpolicy, hunknown, ?_, ?_, ?_, ?_⟩
  · intro role hrole hnot
    refine handle_of_ungranted a.now a.decisionId hclosed hrole ?_
    rwa [hkeyring]
  · intro action haction
    rw [Request.role?, if_neg (method_ne_options haction), haction]
    cases action with
    | showHealth => exact .inl rfl
    | showMetrics => exact .inr (.inl rfl)
    | _ => exact .inr (.inr rfl)
  · intro action haction hunread
    exact handle_of_unread a.now a.decisionId haction hunread
  · intro c retryAfter haction hviewer hbody hlimited
    have hgranted : before.keyring.Grants a.request.headers .viewer := by rwa [hkeyring]
    have hhandle := handle_of_limited a.now a.decisionId hclosed haction hgranted hbody hlimited
    exact ⟨congrArg (fun result : Response × App => result.1.status) hhandle, congrArg Prod.snd hhandle⟩

/-- A viewer asks for a head, and then wants to register one. -/
theorem run_guarded_viewer :
    let app : App := { keyring := ⟨SortedMap.empty.insert (Keyring.tokenDigest "view") ⟨none, .viewer⟩⟩ }
    let headers : Headers := [("Content-Type", "application/json"), ("authorization", "Bearer view")]
    let asks : Arrival := ⟨⟨⟨0, 0⟩, 0⟩, default, ⟨"POST", "/v1/route", headers, "\x7b\"model_type\":\"m\"\x7d", none⟩⟩
    let registers : Arrival := ⟨⟨⟨1, 0⟩, 1⟩, default, ⟨"POST", "/v1/heads", headers, "\x7b\x7d", none⟩⟩
    app.keyring.isOpen = false ∧ app.keyring.Grants headers .viewer ∧ ¬app.keyring.Grants headers .operator ∧
      registers.request.role? = some .operator ∧
      (((app.run [asks]).take registers).1.status = 401 ∨ ((app.run [asks]).take registers).1.status = 403) ∧
      ((app.run [asks]).take registers).2 = app.run [asks] := by
  intro app headers asks registers
  have hkeys : app.keyring.isOpen = false := rfl
  have htoken : (headers.get? "authorization").bind Keyring.tokenOf? = some "view" := by decide +kernel
  have hcaller : app.keyring.authenticate headers = .ok ⟨none, .viewer⟩ := by
    rw [Keyring.authenticate_of_keys hkeys, htoken]
    simp only [app, SortedMap.get?_insert_self]
  have hviewer : app.keyring.Grants headers .viewer := (Keyring.grants_iff hkeys).2 ⟨_, hcaller, rfl⟩
  have hoperator : ¬app.keyring.Grants headers .operator := by
    rw [Keyring.grants_iff hkeys, hcaller]
    rintro ⟨caller, hsame, hincludes⟩
    obtain rfl := Except.ok.inj hsame
    cases hincludes
  have hrole : registers.request.role? = some .operator := by decide +kernel
  -- the application stands for itself here: the digest of the token need not be computed
  have hrefused (app : App) (hkeys : app.keyring.isOpen = false) (hoperator : ¬app.keyring.Grants headers .operator) :
      (((app.run [asks]).take registers).1.status = 401 ∨ ((app.run [asks]).take registers).1.status = 403) ∧
        ((app.run [asks]).take registers).2 = app.run [asks] := by
    obtain ⟨-, -, -, h, -⟩ := run_guarded hkeys [asks] registers
    exact h .operator hrole hoperator
  exact ⟨hkeys, hviewer, hoperator, hrole, hrefused app hkeys hoperator⟩

end App

end FleetRouting
