import FleetRouting.Event.Basic
/-!
# FleetRouting.Event.Bus

**Fan-out of events.** Subscribers share a ring of the newest 256 events; each has a position in the whole sequence
of published events, and one that falls further behind is told how many it missed. Beside the ring an event
enters a bounded queue for webhooks, unless the queue is full or closed.
-/

namespace FleetRouting

/-- A queue of events with a bound. -/
structure WebhookQueue where
  capacity : Nat
  /-- Events that were not taken yet, oldest first. -/
  items : List FleetEvent := []
  /-- False when nobody takes events any more. -/
  isOpen : Bool := true
  deriving DecidableEq

namespace WebhookQueue

/-- An empty queue; there is room for one event at least. -/
def ofSize (size : Nat) : WebhookQueue := { capacity := max size 1 }

/-- Enters an event if the queue is open and has room. -/
def offer (q : WebhookQueue) (e : FleetEvent) : WebhookQueue :=
  if q.isOpen ∧ q.items.length < q.capacity then { q with items := q.items ++ [e] } else q

/-- Takes all events. -/
def drain (q : WebhookQueue) : List FleetEvent × WebhookQueue := (q.items, { q with items := [] })

/-- Nobody takes events any more; those that wait are lost. -/
def close (q : WebhookQueue) : WebhookQueue := { q with items := [], isOpen := false }

end WebhookQueue

/-- Published events, as far as anybody can still receive them. -/
structure Bus where
  /-- How many events were published. -/
  published : Nat := 0
  /-- The newest events, newest first. -/
  ring : List FleetEvent := []
  queue : Option WebhookQueue := none
  deriving DecidableEq

/-- A subscriber: how many events were published before the next one it receives. -/
structure Subscription where
  position : Nat
  deriving DecidableEq, Repr, Inhabited

/-- What a subscriber receives at once: how many events it missed, and those it did not. -/
structure Reception where
  missed : Nat
  events : List FleetEvent
  deriving DecidableEq

namespace Bus

/-- How many events the ring holds. -/
def ringSize : Nat := 256

/-- A bus that forwards events to a webhook queue. -/
def withQueue (size : Nat) : Bus := { queue := some (.ofSize size) }

/-- Publishes an event: to the webhook queue, then to the ring. -/
def publish (b : Bus) (e : FleetEvent) : Bus where
  published := b.published + 1
  ring := (e :: b.ring).take ringSize
  queue := b.queue.map (·.offer e)

/-- A new subscriber receives what is published from now on. -/
def subscribe (b : Bus) : Subscription := ⟨b.published⟩

/-- All that a subscriber has not received yet. -/
def receive (b : Bus) (s : Subscription) : Reception × Subscription :=
  let waiting := b.published - s.position
  let held := min waiting ringSize
  (⟨waiting - held, (b.ring.take held).reverse⟩, ⟨b.published⟩)

/-- Takes the events out of the webhook queue. -/
def drainQueue (b : Bus) : List FleetEvent × Bus :=
  match b.queue with
  | some q =>
    let (events, q) := q.drain
    (events, { b with queue := some q })
  | none => ([], b)

/-- Closes the webhook queue. -/
def closeQueue (b : Bus) : Bus := { b with queue := b.queue.map (·.close) }

end Bus

end FleetRouting
