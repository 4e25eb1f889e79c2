import FleetRouting.Json.Printer
import FleetRouting.Store.Basic
import FleetRouting.Wire.Routing
/-!
# FleetRouting.Store.Fleet

**The fleet in the store.** A head is stored as JSON under its own key and is a member of the index of its model
type and, if it has a region, of the index of its region. Saving a head first takes it out of the indexes of the
stored record that it leaves, then writes the record, then enters the new indexes: wherever that stops, no index
names a head that the record does not.
-/

namespace FleetRouting.Store

/-- What the keys of heads begin with. -/
def headKeyStart : String := "head:"

/-- The key of a head. -/
def headKey (id : String) : String := headKeyStart ++ id

/-- The key of the index of a model type. -/
def modelIndexKey (modelType : String) : String := "model:" ++ modelType ++ ":heads"

/-- The key of the index of a region. -/
def regionIndexKey (region : String) : String := "region:" ++ region ++ ":heads"

/-- The key of the policy. -/
def policyKey : String := "routing:policy"

/-- Decodes a stored text. -/
def decodeStored {α : Type} (decode : Decoder Json α) (text : String) : StoreM α :=
  match Json.decodeText decode text with
  | .ok a => pure a
  | .error fault => throw (.serialization fault)

/-- The stored head of an identifier. -/
def loadHead (id : String) : StoreM (Option Head) := do
  match ← get (headKey id) with
  | some text => return some (← decodeStored Head.ofJson text)
  | none => return none

/-- Takes a head out of the indexes that its stored record is in and its new record is not. -/
def leaveIndexes (stored head : Head) : StoreM Unit := do
  if stored.modelType ≠ head.modelType then
    removeMember (modelIndexKey stored.modelType) head.id
  if stored.region ≠ head.region ∧ !stored.region.isEmpty then
    removeMember (regionIndexKey stored.region) head.id

/-- Stores a head, and moves it to the indexes of its model type and region. -/
def saveHead (head : Head) : StoreM Unit := do
  match ← loadHead head.id with
  | some stored => leaveIndexes stored head
  | none => pure ()
  set (headKey head.id) head.toJson.toText
  addMember (modelIndexKey head.modelType) head.id
  if !head.region.isEmpty then
    addMember (regionIndexKey head.region) head.id

/-- The heads under some keys; texts that cannot be decoded are passed over. -/
def loadKeys : List String → StoreM (List Head)
  | [] => return []
  | key :: rest => do
    let text ← get key
    let heads ← loadKeys rest
    match text.map (Json.decodeText Head.ofJson) with
    | some (.ok head) => return head :: heads
    | _ => return heads

/-- All stored heads that can be decoded. -/
def loadHeads : StoreM (List Head) := do
  loadKeys (← keys headKeyStart)

/-- The identifiers of the heads of a model type. -/
def headsForModel (modelType : String) : StoreM (List String) := members (modelIndexKey modelType)

/-- The identifiers of the heads in a region. -/
def headsInRegion (region : String) : StoreM (List String) := members (regionIndexKey region)

/-- Stores the policy. -/
def savePolicy (policy : Policy) : StoreM Unit := set policyKey policy.toJson.toText

/-- The stored policy. -/
def loadPolicy : StoreM (Option Policy) := do
  match ← get policyKey with
  | some text => return some (← decodeStored Policy.ofJson text)
  | none => return none

end FleetRouting.Store
