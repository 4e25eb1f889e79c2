import FleetRouting.Http.Action
import FleetRouting.Http.MediaType
import FleetRouting.Http.Message
import FleetRouting.Http.Percent
import FleetRouting.Http.Report
import FleetRouting.Resilience.Limiter
import FleetRouting.Wire.Event
/-!
# FleetRouting.Http.App

**The service over HTTP.** A request is checked in this order: whether it fits an action, whether the caller has the
role, whether the path and then the body can be decoded, and, for routing, whether the client is within its
limits. Only then is anything done. Bodies are decoded up to the end of their value; what follows it is not
looked at.
-/

namespace FleetRouting

/-- The state of the application. -/
structure App where
  service : Service := {}
  limiter : Limiter := {}
  keyring : Keyring := {}

namespace App

/-- The application of a configuration over a store, started at `tick`. -/
def ofConfig (c : Config) (store : Store) (tick : Nat) : Except AccessError App := do
  let keyring ← Keyring.ofConfig c.auth
  let ttl := c.routing.cacheTtl.map Duration.ofSecs
  return {
    service := .start store (.ofConfig c.circuitBreaker) {} ttl
    limiter := .ofConfig c.rateLimit tick
    keyring := keyring }

/-! ### Answers -/

/-- An operation was done. -/
def done (message : String) : Response := .ofJson 200 (Acknowledgement.toJson ⟨true, message⟩)

/-- An operation was not done. -/
def refused (status : Nat) (message : String) : Response :=
  .ofJson status (Acknowledgement.toJson ⟨false, message⟩)

/-- The answer to an operation on the fleet. -/
def answer {α : Type} (message : α → String) : Except FleetError α → Response
  | .ok a => done (message a)
  | .error e => refused e.status e.message

/-- The path is not a text. -/
def unreadablePath : Response := .complaint 400 "Invalid URL"

/-- The body is not announced as JSON. -/
def unexpectedContent : Response :=
  .complaint 415 "Expected request with `Content-Type: application/json`"

/-- The body cannot be decoded. -/
def unreadableBody : Fault → Response
  | .malformed => .complaint 400 "Failed to parse the request body as JSON"
  | .mismatched => .complaint 422 "Failed to deserialize the JSON body into the target type"

/-- The client has to wait. -/
def tooMany (retryAfter : Duration) : Response :=
  let secs := retryAfter.secs + if 0 < retryAfter.subsecNanos then 1 else 0
  { refused 429 "rate limit exceeded" with retryAfter := some (max secs 1) }

/-! ### Decoding -/

/-- The body of a request. -/
def readBody {α : Type} (decode : Decoder Json α) (q : Request) : Except Response α :=
  match q.headers.get? "content-type" with
  | some contentType =>
    if MediaType.isJson contentType then (decode (Json.readFront q.body)).mapError unreadableBody
    else .error unexpectedContent
  | none => .error unexpectedContent

/-- An identifier in a path. -/
def readId (id : String) : Except Response String :=
  match Percent.decode? id with
  | some id => .ok id
  | none => .error unreadablePath

/-- Whether the caller has a role, if one is needed. -/
def checkRole (app : App) (q : Request) : Option Role → Except Response Unit
  | none => .ok ()
  | some role =>
    match app.keyring.authorize q.headers role with
    | .ok _ => .ok ()
    | .error e => .error (refused e.status e.message)

/-! ### Handling -/

/-- Does something with the service. -/
def serve {α : Type} (app : App) (operation : Service → α × Service) (respond : α → Response) :
    Response × App :=
  let (a, service) := operation app.service
  (respond a, { app with service := service })

/-- Goes on with a decoded value, or answers what is wrong. -/
def decoded {α : Type} (app : App) (value : Except Response α) (go : α → Response × App) :
    Response × App :=
  match value with
  | .ok a => go a
  | .error response => (response, app)

/-- A refusal for the limits of the client is counted. -/
def countLimited (s : Service) : Service :=
  s.count fun m => { m with rateLimited := m.rateLimited + 1 }

/-- The name under which the limiter knows a client. -/
def clientKey (q : Request) : String := (q.client.map IpAddress.toText).getD "unknown"

/-- Answers a routing request, within the limits of the client. -/
def route (app : App) (now : Moment) (decisionId : Uuid) (client : String) (c : Criteria) :
    Response × App :=
  let (verdict, limiter) := app.limiter.check client now.tick
  let app := { app with limiter := limiter }
  match verdict with
  | .limited retryAfter => (tooMany retryAfter, { app with service := countLimited app.service })
  | .allowed => app.serve (·.route now decisionId c) fun d => .ofJson 200 d.toJson

/-- Does what an admitted caller asks for. -/
def perform (app : App) (now : Moment) (decisionId : Uuid) (q : Request) : Action → Response × App
  | .showHealth => (.ofJson 200 app.service.health, app)
  | .showMetrics => ({ body := .text app.service.measures }, app)
  | .listHeads => (.ofJson 200 (.array (app.service.router.registry.heads.map Head.toJson)), app)
  | .showPolicy => (.ofJson 200 app.service.router.policy.toJson, app)
  | .followEvents => ({ body := .stream }, app)
  | .register =>
    app.decoded (readBody Registration.ofJson q) fun registration =>
      app.serve (·.register now registration) (answer fun h => "head " ++ h.id ++ " registered")
  | .report id =>
    app.decoded (readId id) fun id =>
      app.decoded (readBody StatusBody.ofJson q) fun body =>
        app.serve (·.update now ⟨body, id⟩)
          (answer fun h => "head " ++ h.id ++ " is " ++ h.status.name)
  | .deregister id =>
    app.decoded (readId id) fun id =>
      app.serve (·.deregister now id) (answer fun h => "head " ++ h.id ++ " deregistered")
  | .route =>
    app.decoded (readBody Criteria.ofJson q) fun c => app.route now decisionId (clientKey q) c
  | .replacePolicy =>
    app.decoded (readBody Policy.ofJson q) fun policy =>
      app.serve (·.setPolicy now policy)
        (answer fun _ => "policy updated, default strategy " ++ policy.defaultStrategy.name)

/-- The answer to a request that fits no action. -/
def misfit : Resource → Response
  | .nothing => { status := 404 }
  | _ => { status := 405 }

/-- Answers a request. Pages of other origins may ask beforehand what they may do (`OPTIONS`); they may do
everything. -/
def handle (app : App) (now : Moment) (decisionId : Uuid) (q : Request) : Response × App :=
  if q.method = "OPTIONS" then ({}, app)
  else
    let resource := Resource.ofPath q.path
    match resource.action? q.method with
    | some action => app.decoded (app.checkRole q action.role?) fun _ => app.perform now decisionId q action
    | none => app.decoded (app.checkRole q resource.guard?) fun _ => (misfit resource, app)

/-! ### Events -/

/-- An event as it stands in a stream. -/
structure Frame where
  event : String
  data : String

/-- The frame of an event. -/
def frame (e : FleetEvent) : Frame := ⟨e.kind, e.toJson.toText⟩

/-- What a stream shows since it was read last. It passes over events that it missed. -/
def readStream (app : App) (s : Subscription) : List Frame × Subscription :=
  let (reception, s) := app.service.bus.receive s
  (reception.events.map frame, s)

end App

end FleetRouting
