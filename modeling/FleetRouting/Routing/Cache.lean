import FleetRouting.Binary64.Printer
import FleetRouting.Routing.Criteria
/-!
# FleetRouting.Routing.Cache

**Remembered choices.** A choice is remembered under everything in the criteria that a strategy reads, in a
normal form: names without blanks around them, sizes as numbers, capabilities in small letters. An entry counts
until it is as old as the time to live; an expired entry stays in place, unseen, until it is replaced or dropped.
-/

namespace FleetRouting

open Text

/-- What a choice depends on, besides the heads and the policy. -/
structure CacheKey where
  modelType : String
  regionPreference : String
  /-- The strategy as the request names it; empty when the policy decides. -/
  strategy : String
  modelHint : String
  sizeHint : String
  capability : String
  deriving DecidableEq, Repr

namespace CacheKey

/-- A size hint in its normal form: as a number, or in small letters when it is none. -/
def sizeForm (raw : String) : String :=
  match ModelSize.read? raw with
  | some size => size.toText
  | none => fold raw

/-- The key of a request. -/
def ofCriteria (c : Criteria) : CacheKey where
  modelType := c.modelType
  regionPreference := c.regionPreference
  strategy := c.requestedStrategy?.getD ""
  modelHint := c.modelVersion?.getD ""
  sizeHint := (c.modelSize?.map sizeForm).getD ""
  capability := (c.capability?.map fold).getD ""

end CacheKey

/-- A remembered choice. -/
structure CacheEntry where
  key : CacheKey
  headId : String
  /-- When the choice was made, in nanoseconds of the monotonic clock. -/
  insertedAt : Nat
  deriving DecidableEq, Repr

/-- Remembered choices, at most one to a key. -/
structure Cache where
  /-- How long an entry counts, in nanoseconds; for ever if absent. -/
  ttl : Option Nat := none
  entries : List CacheEntry := []
  deriving DecidableEq, Repr, Inhabited

namespace Cache

/-- Whether an entry still counts at `tick`. -/
def isFresh (c : Cache) (e : CacheEntry) (tick : Nat) : Bool :=
  match c.ttl with
  | some ttl => decide (tick - e.insertedAt < ttl)
  | none => true

/-- The entry of a key, expired or not. -/
def find? (c : Cache) (key : CacheKey) : Option CacheEntry := c.entries.find? fun e => e.key = key

/-- The head remembered for a key. -/
def get? (c : Cache) (key : CacheKey) (tick : Nat) : Option String :=
  match c.find? key with
  | some e => if c.isFresh e tick then some e.headId else none
  | none => none

/-- Keeps the entries that satisfy `p`. -/
def retain (c : Cache) (p : CacheEntry → Bool) : Cache := { c with entries := c.entries.filter p }

/-- Forgets a key. -/
def remove (c : Cache) (key : CacheKey) : Cache := c.retain fun e => e.key ≠ key

/-- Remembers a choice made at `tick`. -/
def insert (c : Cache) (key : CacheKey) (headId : String) (tick : Nat) : Cache :=
  { c with entries := ⟨key, headId, tick⟩ :: (c.remove key).entries }

/-- Forgets every choice of a head. -/
def invalidateHead (c : Cache) (headId : String) : Cache := c.retain fun e => e.headId ≠ headId

/-- Forgets every choice for a model type. -/
def invalidateModel (c : Cache) (modelType : String) : Cache :=
  c.retain fun e => e.key.modelType ≠ modelType

/-- Forgets everything. -/
def clear (c : Cache) : Cache := { c with entries := [] }

/-- The number of entries, expired ones included. -/
def size (c : Cache) : Nat := c.entries.length

end Cache

end FleetRouting
