import FleetRouting.SortedMap
/-!
# FleetRouting.Schema.Fields

**Records described by their fields.** A `Fields σ α` lists the fields of a record in declaration order, each with
a name and a decoder for values of a source `σ`, and builds an `α` from the values found. `Source` gathers what
a kind of tree (JSON text, layered settings) has to offer for decoding: scalars, lists, maps, choices and
records. Types are described once, over any source.
-/

namespace FleetRouting

/-- Why a value could not be decoded. -/
inductive Fault where
  /-- The text is not well formed. -/
  | malformed
  /-- The text is well formed so far, but of the wrong shape, type or range. -/
  | mismatched
  deriving DecidableEq, Repr

/-- Turns a tree into a value, or says why not. -/
abbrev Decoder (σ α : Type) := σ → Except Fault α

/-- A field as the reader of a record sees it: its name, and whether a value fits. -/
structure Slot (σ : Type) where
  name : String
  check : Decoder σ Unit

/-- The fields of a record, and how to build it from the values that were found for them. -/
structure Fields (σ α : Type) where
  slots : List (Slot σ)
  build : (String → Option σ) → Except Fault α

namespace Fields

variable {σ α : Type}

instance : Applicative (Fields σ) where
  pure a := ⟨[], fun _ => .ok a⟩
  seq f x := ⟨f.slots ++ (x ()).slots, fun found => do
    let g ← f.build found
    let a ← (x ()).build found
    .ok (g a)⟩

/-- Whether a decoder accepts a value. -/
def accepts (decode : Decoder σ α) : Decoder σ Unit := fun v => (decode v).map fun _ => ()

/-- A field that has to be there. -/
def required (name : String) (decode : Decoder σ α) : Fields σ α where
  slots := [⟨name, accepts decode⟩]
  build found := match found name with
    | some v => decode v
    | none => .error .mismatched

/-- A field that has the value `default` when it is absent. -/
def optional (name : String) (default : α) (decode : Decoder σ α) : Fields σ α where
  slots := [⟨name, accepts decode⟩]
  build found := match found name with
    | some v => decode v
    | none => .ok default

end Fields

/-- What a kind of tree offers for decoding. -/
class Source (σ : Type) where
  text : Decoder σ String
  flag : Decoder σ Bool
  /-- A natural number below `bound`. -/
  natural (bound : Nat) : Decoder σ Nat
  /-- An integer of 64 bits with sign. -/
  integer : Decoder σ Int
  /-- A value, or the mark for its absence. -/
  nullable {α : Type} (decode : Decoder σ α) : Decoder σ (Option α)
  list {α : Type} (decode : Decoder σ α) : Decoder σ (List α)
  /-- A map from names; of two entries with one name the later counts. -/
  dict {α : Type} (decode : Decoder σ α) : Decoder σ (SortedMap String α)
  /-- One of the given names. -/
  choice {α : Type} (names : List (String × α)) : Decoder σ α
  record {α : Type} (fields : Fields σ α) : Decoder σ α

end FleetRouting
