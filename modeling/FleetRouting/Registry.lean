import FleetRouting.Head.Basic
/-!
# FleetRouting.Registry

**The heads that are known.** The registry lists them in the order of their first registration. Every change gives
the head a new revision number from one counter. Restored heads are lined up behind those already there, by the
time of their first registration, and replace known heads of the same identifier.
-/

namespace FleetRouting

/-- The known heads. -/
structure Registry where
  /-- The heads by increasing sequence number, at most one to an identifier. -/
  heads : List Head := []
  /-- The sequence number of the next new head. -/
  nextSequence : Nat := 0
  /-- The revision number that was given out last. -/
  lastRevision : Nat := 0
  deriving DecidableEq, Inhabited

/-- A head before and after a change. -/
structure StatusChange where
  previous : Head
  current : Head
  deriving DecidableEq

namespace StatusChange

/-- Whether the load changed. -/
def loadChanged (c : StatusChange) : Bool := c.previous.currentLoad != c.current.currentLoad

/-- Whether the status changed. -/
def statusChanged (c : StatusChange) : Bool := c.previous.status != c.current.status

end StatusChange

namespace Registry

/-- The head of an identifier. -/
def get? (r : Registry) (id : String) : Option Head := r.heads.find? fun h => h.id == id

/-- The active heads of a model type, in registration order. -/
def listActive (r : Registry) (modelType : String) : List Head :=
  r.heads.filter fun h => h.isActive && h.modelType == modelType

/-- The number of heads. -/
def count (r : Registry) : Nat := r.heads.length

/-- The number of active heads. -/
def activeCount (r : Registry) : Nat := r.heads.countP Head.isActive

/-- Puts a head in the place of the one with its identifier. -/
def replace (r : Registry) (head : Head) : Registry :=
  { r with heads := r.heads.map fun h => if h.id = head.id then head else h }

/-- Registers a head at time `now`. A known head keeps its place, its first registration and its history. -/
def register (r : Registry) (q : Registration) (now : Timestamp) : Head × Registry :=
  let revision := r.lastRevision + 1
  let head : Head := {
    id := q.headId, endpoint := q.endpoint, status := .active, currentLoad := q.currentLoad
    loadHistory := [], region := q.region, modelType := q.modelType, version := q.version
    metadata := q.metadata, lastHeartbeat := now, registeredAt := now
    sequence := r.nextSequence, revision := revision }
  match r.get? q.headId with
  | some known =>
    let head := { head with
      loadHistory := known.loadHistory, registeredAt := known.registeredAt
      sequence := known.sequence }
    (head, { r.replace head with lastRevision := revision })
  | none =>
    (head, ⟨r.heads ++ [head], r.nextSequence + 1, revision⟩)

/-- Changes the head of an identifier and gives it a new revision. -/
def change? (r : Registry) (id : String) (f : Head → Head) : Option (StatusChange × Registry) :=
  (r.get? id).map fun previous =>
    let current := { f previous with revision := r.lastRevision + 1 }
    (⟨previous, current⟩, { r.replace current with lastRevision := r.lastRevision + 1 })

/-- Takes a status report into account. -/
def update? (r : Registry) (id : String) (status : HeadStatus) (load : UInt32) (at_ : Timestamp) :
    Option (StatusChange × Registry) :=
  r.change? id fun h =>
    { h.recordLoad load with status := status, currentLoad := load, lastHeartbeat := at_ }

/-- Takes a head out of routing. -/
def deactivate? (r : Registry) (id : String) : Option (StatusChange × Registry) :=
  r.change? id fun h => { h with status := .inactive }

/-- Whether an active head has been silent for more than `timeout` nanoseconds. -/
def isStale (h : Head) (now : Timestamp) (timeout : Int) : Bool :=
  h.isActive && decide (timeout < now.elapsed h.lastHeartbeat)

/-- The heads in the order in which a look at all of them comes by: those that `order` names come first, in its order,
and the others follow as they are listed. -/
def visit : List String → List Head → List Head
  | [], heads => heads
  | id :: order, heads => (heads.filter fun h => h.id = id) ++ visit order (heads.filter fun h => h.id ≠ id)

/-- The identifiers of the heads that have been silent for more than `timeout` nanoseconds, as they are come by. -/
def found (r : Registry) (now : Timestamp) (timeout : Int) (order : List String) : List String :=
  ((visit order r.heads).filter (isStale · now timeout)).map Head.id

/-- Deactivates a head that `stale` tells. Such heads are numbered in the order in which they were `found`, behind
`revision`. -/
def retire (stale : Head → Bool) (found : List String) (revision : Nat) (h : Head) : Head :=
  if stale h then { h with status := .inactive, revision := revision + 1 + found.idxOf h.id } else h

/-- Deactivates the heads that have been silent for more than `timeout` nanoseconds; gives them in registration
order. In which order they are come by, and get their revisions, is for `order` to say: nobody who looks has it in
hand. -/
def markStale (r : Registry) (now : Timestamp) (timeout : Int) (order : List String := []) : List Head × Registry :=
  let found := r.found now timeout order
  let retire := retire (isStale · now timeout) found r.lastRevision
  ((r.heads.filter (isStale · now timeout)).map retire,
    { r with heads := r.heads.map retire, lastRevision := r.lastRevision + found.length })

/-- Whether a head was registered before another, as far as their records tell. -/
def registeredBefore (a b : Head) : Bool :=
  a.registeredAt.before b.registeredAt ||
    (a.registeredAt == b.registeredAt && decide (a.sequence ≤ b.sequence))

/-- Lines up a restored head behind all others. -/
def restoreOne (r : Registry) (h : Head) : Registry where
  heads := r.heads.filter (fun k => k.id ≠ h.id) ++
    [{ h with sequence := r.nextSequence, revision := r.lastRevision + 1 }]
  nextSequence := r.nextSequence + 1
  lastRevision := r.lastRevision + 1

/-- Restores heads from their records, in the order of their first registration. -/
def restore (r : Registry) (records : List Head) : Registry :=
  (records.mergeSort registeredBefore).foldl restoreOne r

end Registry

end FleetRouting
