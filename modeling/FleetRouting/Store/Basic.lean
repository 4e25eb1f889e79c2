import FleetRouting.Json.Decode
import FleetRouting.SortedMap
/-!
# FleetRouting.Store.Basic

**A store of texts and of sets of texts, whose calls may fail.** What the store holds is `Contents`; what the world
does to its calls is an `Outage`, which answers for each call in turn whether it fails. A call that fails has no
effect. Every call is counted, so that it can be told whether the store was touched at all.
-/

namespace FleetRouting

/-- Why a call to the store failed, or its answer could not be used. -/
inductive StoreError where
  | backend (detail : String)
  /-- A stored text could not be decoded. -/
  | serialization (fault : Fault)
  | timedOut
  deriving DecidableEq, Repr

/-- What is said about a failed call. -/
def StoreError.message : StoreError → String
  | .backend detail => "Store backend error: " ++ detail
  | .serialization .malformed => "Serialization error: malformed text"
  | .serialization .mismatched => "Serialization error: unexpected shape"
  | .timedOut => "Store call timed out"

/-- The failure of a store that cannot be reached. -/
def StoreError.unavailable : StoreError := .backend "store unavailable"

/-- A call to the store. -/
inductive Call where
  | get (key : String)
  | set (key value : String)
  | addMember (key member : String)
  | removeMember (key member : String)
  | members (key : String)
  /-- The keys that begin with a text. -/
  | keys (start : String)
  deriving DecidableEq, Repr

/-- The kinds of call. -/
inductive CallKind where
  | get
  | set
  | addMember
  | removeMember
  | members
  | keys
  deriving DecidableEq, Repr

/-- The kind of a call. -/
def Call.kind : Call → CallKind
  | .get _ => .get
  | .set .. => .set
  | .addMember .. => .addMember
  | .removeMember .. => .removeMember
  | .members _ => .members
  | .keys _ => .keys

/-- What a store holds: texts by key, and sets of texts by key. No set is empty. -/
structure Contents where
  values : SortedMap String String := .empty
  sets : SortedMap String (SortedMap String Unit) := .empty
  deriving DecidableEq, Inhabited

namespace Contents

/-- The members of a set. -/
def membersOf (c : Contents) (key : String) : SortedMap String Unit := (c.sets.get? key).getD .empty

/-- Adds a member to a set. -/
def addMember (c : Contents) (key member : String) : Contents :=
  { c with sets := c.sets.insert key ((c.membersOf key).insert member ()) }

/-- Removes a member from a set, and the set with its last member. -/
def removeMember (c : Contents) (key member : String) : Contents :=
  let left := (c.membersOf key).erase member
  { c with sets := if left.isEmpty then c.sets.erase key else c.sets.insert key left }

/-- The keys of texts that begin with `start`, in order. -/
def keysFrom (c : Contents) (start : String) : List String :=
  c.values.keys.filter fun key => key.startsWith start

/-- The keys that a database finds: it measures `start` only as far as the first zero character, so no key is found to
begin with a text that holds one. -/
def keysInDatabase (c : Contents) (start : String) : List String :=
  if start.toList.contains '\x00' then [] else c.keysFrom start

end Contents

/-- Which calls fail, and how: the answer for the `n`-th call of all. -/
abbrev Outage := (n : Nat) → Call → Option StoreError

namespace Outage

/-- No call fails. -/
def none : Outage := fun _ _ => Option.none

/-- Every call fails. -/
def total : Outage := fun _ _ => some .unavailable

/-- The calls of some kinds fail. -/
def ofKinds (kinds : List CallKind) : Outage := fun _ call =>
  if call.kind ∈ kinds then some .unavailable else Option.none

/-- Every call takes longer than it may. -/
def tooSlow : Outage := fun _ _ => some .timedOut

/-- A call fails as the first outage says, or else as the second does. -/
def orElse (a b : Outage) : Outage := fun n call => (a n call).or (b n call)

end Outage

/-- A store: in memory, unless it is a database. -/
structure Store where
  name : String := "memory"
  /-- Whether the store is a database. -/
  isDatabase : Bool := false
  contents : Contents := {}
  /-- How many calls were made. -/
  calls : Nat := 0
  outage : Outage := .none

/-- Computations that call the store. What was done before a failure stays done. -/
abbrev StoreM := ExceptT StoreError (StateM Store)

namespace Store

/-- Makes a call: it fails without effect, or does what `effect` says. -/
def perform {α : Type} (call : Call) (effect : Contents → α × Contents) : StoreM α :=
  fun s =>
    match s.outage s.calls call with
    | some e => (.error e, { s with calls := s.calls + 1 })
    | none =>
      let (a, contents) := effect s.contents
      (.ok a, { s with calls := s.calls + 1, contents := contents })

/-- The text under a key. -/
def get (key : String) : StoreM (Option String) :=
  perform (.get key) fun c => (c.values.get? key, c)

/-- Puts a text under a key. -/
def set (key value : String) : StoreM Unit :=
  perform (.set key value) fun c => ((), { c with values := c.values.insert key value })

/-- Adds a member to a set. -/
def addMember (key member : String) : StoreM Unit :=
  perform (.addMember key member) fun c => ((), c.addMember key member)

/-- Removes a member from a set. -/
def removeMember (key member : String) : StoreM Unit :=
  perform (.removeMember key member) fun c => ((), c.removeMember key member)

/-- The members of a set, in order. -/
def members (key : String) : StoreM (List String) :=
  perform (.members key) fun c => ((c.membersOf key).keys, c)

/-- The keys that begin with a text, in order. -/
def keys (start : String) : StoreM (List String) := do
  let s ← MonadState.get
  perform (.keys start) fun c =>
    (if s.isDatabase then c.keysInDatabase start else c.keysFrom start, c)

/-- A new database. -/
def database : Store := { name := "sqlite", isDatabase := true }

end Store

end FleetRouting
