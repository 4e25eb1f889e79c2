import FleetRouting.Http.Target
import FleetRouting.Http.Url.Reader
import FleetRouting.Service
/-!
# FleetRouting.Webhook

**Delivery of events to webhooks.** Every event is posted to every configured address in order. Each address has a
circuit of its own in the breaker of the service, under its text as it is configured; an address whose circuit
is open is skipped. What becomes of a post is up to the world: `Network` answers for each post in turn.
-/

namespace FleetRouting

/-- What becomes of a post. -/
inductive Reply where
  /-- The receiver answers with a status. -/
  | answered (status : Nat)
  /-- No answer arrives. -/
  | unanswered
  deriving DecidableEq, Repr

/-- An event on its way to an address. -/
structure Post where
  url : Url
  event : FleetEvent
  deriving DecidableEq

/-- What becomes of the `n`-th post of all. -/
abbrev Network := (n : Nat) → Post → Reply

/-- No post is answered. -/
def Network.unreachable : Network := fun _ _ => .unanswered

/-- Why an event was not delivered. -/
inductive DeliveryFailure where
  /-- The receiver answered, but not with success. -/
  | rejected (status : Nat)
  | unanswered (url : Url)
  /-- There is no way to post to this address. -/
  | unsupported (url : Url)
  /-- The address cannot be read. -/
  | unreadable
  deriving DecidableEq, Repr

/-- What is said about a failure. -/
def DeliveryFailure.message : DeliveryFailure → String
  | .rejected status => "HTTP " ++ toString status
  | .unanswered url => "error sending request for url (" ++ url.toText ++ ")"
  | .unsupported url => "builder error for url (" ++ url.toText ++ ")"
  | .unreadable => "builder error"

/-- What became of an event at one address. -/
inductive Delivery where
  | delivered
  | failed (why : DeliveryFailure)
  /-- The circuit of the address is open. -/
  | skipped
  deriving DecidableEq, Repr

/-- The configured addresses, and the posts that were made so far. -/
structure Webhooks where
  urls : List String := []
  network : Network := .unreachable
  /-- The posts that were made, the last one first. -/
  posts : List Post := []

namespace Webhooks

/-- Whether a status says that the event was taken. -/
def isSuccess (status : Nat) : Bool := decide (200 ≤ status ∧ status ≤ 299)

/-- Makes a post. -/
def send (w : Webhooks) (url : Url) (e : FleetEvent) : Delivery × Webhooks :=
  let post : Post := ⟨url, e⟩
  let reply := w.network w.posts.length post
  let w := { w with posts := post :: w.posts }
  match reply with
  | .answered status => if isSuccess status then (.delivered, w) else (.failed (.rejected status), w)
  | .unanswered => (.failed (.unanswered url), w)

/-- Tries to get an event to an address. -/
def attempt (w : Webhooks) (address : String) (e : FleetEvent) : Delivery × Webhooks :=
  match Url.read? address with
  | none => (.failed .unreadable, w)
  | some url =>
    let url := url.withoutCredentials
    if url.isWeb && (Target.path? url.toText).isSome then w.send url e
    else (.failed (.unsupported url), w)

/-- Delivers an event to an address, if its circuit lets the call through, and reports the outcome to the
circuit. -/
def deliver (w : Webhooks) (s : Service) (tick : Nat) (e : FleetEvent) (address : String) :
    Delivery × Webhooks × Service :=
  let (granted, breaker) := s.breaker.allow address tick
  let s := { s with breaker := breaker }
  if granted then
    match w.attempt address e with
    | (.delivered, w) => (.delivered, w, { s with breaker := s.breaker.success address })
    | (outcome, w) => (outcome, w, { s with breaker := s.breaker.fail address tick })
  else (.skipped, w, s.count fun m => { m with breakerRejections := m.breakerRejections + 1 })

/-- Delivers an event to addresses in order. -/
def deliverAll (w : Webhooks) (s : Service) (tick : Nat) (e : FleetEvent) :
    List String → List Delivery × Webhooks × Service
  | [] => ([], w, s)
  | address :: rest =>
    let (delivery, w, s) := w.deliver s tick e address
    let (deliveries, w, s) := deliverAll w s tick e rest
    (delivery :: deliveries, w, s)

/-- Delivers an event to every configured address. -/
def dispatch (w : Webhooks) (s : Service) (tick : Nat) (e : FleetEvent) :
    List Delivery × Webhooks × Service :=
  w.deliverAll s tick e w.urls

/-- Delivers events one after the other. -/
def dispatchAll (w : Webhooks) (s : Service) (tick : Nat) : List FleetEvent → Webhooks × Service
  | [] => (w, s)
  | e :: rest =>
    let (_, w, s) := w.dispatch s tick e
    dispatchAll w s tick rest

/-- Delivers what waits in the webhook queue of the service. -/
def drain (w : Webhooks) (s : Service) (tick : Nat) : Webhooks × Service :=
  let (events, bus) := s.bus.drainQueue
  w.dispatchAll { s with bus := bus } tick events

end Webhooks

end FleetRouting
