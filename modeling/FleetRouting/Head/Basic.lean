import FleetRouting.Head.Size
import FleetRouting.SortedMap
import FleetRouting.Text.Fold
import FleetRouting.Time.Timestamp
/-!
# FleetRouting.Head.Basic

**Heads: the serving instances that requests are routed to.** A head reports a load; its metadata may declare a
capacity, the largest model size it accepts, and capability tags. The last five reported loads are kept for
projection.
-/

namespace FleetRouting

open Text

/-- Whether a head takes part in routing. -/
inductive HeadStatus where
  | active
  | inactive
  deriving DecidableEq, Repr, Inhabited

namespace HeadStatus

/-- The name of a status. -/
def name : HeadStatus → String
  | .active => "active"
  | .inactive => "inactive"

/-- Every status with its name. -/
def names : List (String × HeadStatus) := [("active", .active), ("inactive", .inactive)]

/-- The status of a name, whatever its case and the blanks around it; otherwise the name as it was compared. -/
def read (s : String) : Except String HeadStatus :=
  let key := fold (trim s)
  match names.lookup key with
  | some status => .ok status
  | none => .error key

/-- What is said about a name that is no status. -/
def unknownMessage (key : String) : String := "unknown head status '" ++ key ++ "'"

end HeadStatus

/-- Text values by name. -/
abbrev Metadata := SortedMap String String

/-- A registered head. -/
structure Head where
  id : String
  /-- The address that requests are sent to. -/
  endpoint : String
  status : HeadStatus
  /-- The load that the head reported last. -/
  currentLoad : UInt32
  /-- Reported loads, oldest first. -/
  loadHistory : List UInt32
  region : String
  modelType : String
  version : String
  metadata : Metadata
  lastHeartbeat : Timestamp
  /-- When the head was registered first. -/
  registeredAt : Timestamp
  /-- The place in the order of first registrations. -/
  sequence : Nat
  /-- Grows with every change of the head, and so orders its snapshots. -/
  revision : Nat
  deriving DecidableEq, Inhabited

namespace Head

/-- How many loads are kept. -/
def historyWindow : Nat := 5

/-- True for a head that takes part in routing. -/
def isActive (h : Head) : Bool := h.status == .active

/-- Adds a load to a history and forgets the oldest beyond the window. -/
def keepRecent (history : List UInt32) (load : UInt32) : List UInt32 :=
  let all := history ++ [load]
  all.drop (all.length - historyWindow)

/-- The head with one more load in its history. -/
def recordLoad (h : Head) (load : UInt32) : Head :=
  { h with loadHistory := keepRecent h.loadHistory load }

/-- The load as a number. -/
def load (h : Head) : Binary64 := .ofNat h.currentLoad.toNat

/-- The mean of the loads in the history. -/
def averageLoad? (h : Head) : Option Binary64 :=
  if h.loadHistory.isEmpty then none
  else
    let sum := h.loadHistory.foldl (fun sum load => sum + load.toNat) 0
    some (.ofNat sum / .ofNat h.loadHistory.length)

/-- The declared capacity, if it is a positive number. -/
def capacity? (h : Head) : Option Binary64 :=
  match (h.metadata.get? "capacity").bind fun s => Binary64.read? (trim s) with
  | some c => if Binary64.zero.lt c then some c else none
  | none => none

/-- Whether the load is below the fraction `threshold` of the capacity. A head without a capacity always has
headroom. -/
def hasHeadroom (h : Head) (threshold : Binary64) : Bool :=
  match h.capacity? with
  | some capacity => (h.load / capacity).lt threshold
  | none => true

/-- The largest model size that the head declares. -/
def maxModelSize? (h : Head) : Option Binary64 := (h.metadata.get? "max_model_size").bind ModelSize.read?

/-- Whether the head declares a capability among its tags, up to case. -/
def hasCapability (h : Head) (capability : String) : Bool :=
  match trimmed? capability, h.metadata.get? "capabilities" with
  | some wanted, some tags => (split ',' tags).any fun tag => sameFolded (trim tag) wanted
  | _, _ => false

end Head

/-- A head that asks to be registered, or registered anew. -/
structure Registration where
  headId : String
  endpoint : String
  modelType : String
  region : String
  version : String
  metadata : Metadata
  currentLoad : UInt32
  deriving DecidableEq, Inhabited

/-- The body of a status report: what a head says about itself. -/
structure StatusBody where
  status : HeadStatus
  currentLoad : UInt32
  /-- When the report was made, in seconds since 1970. -/
  timestamp : Option Int
  deriving DecidableEq, Inhabited

/-- A status report of a head. -/
structure StatusReport extends StatusBody where
  headId : String
  deriving DecidableEq, Inhabited

/-- When a report was made; `now` if it does not say, or gives a time outside the calendar. -/
def StatusBody.reportedAt (r : StatusBody) (now : Timestamp) : Timestamp :=
  (r.timestamp.bind Timestamp.ofUnix?).getD now

end FleetRouting
