import FleetRouting.BitSpan
import FleetRouting.Json.Reader
import FleetRouting.Schema.Fields
/-!
# FleetRouting.Json.Decode

**Decoding JSON values.** Parts are looked at in the order of the text, and the first fault counts: a defect of the
text in front of it makes the value malformed, a well-formed value of the wrong kind makes it mismatched. Parts
that no field names are skipped, and only syntax errors are noticed in them. Numbers are integers only when they
are written without point and exponent, and `-0` is none.
-/

namespace FleetRouting.Json

/-- The fault of a value that is not of the kind asked for. -/
def wrongKind : Json → Fault
  | .broken => .malformed
  | .misnamed => .malformed
  | .string none => .malformed
  | .number text => if numberOverflows text then .malformed else .mismatched
  | _ => .mismatched

/-- A string. -/
def text : Decoder Json String
  | .string (some s) => .ok s
  | j => .error j.wrongKind

/-- A truth value. -/
def flag : Decoder Json Bool
  | .bool b => .ok b
  | j => .error j.wrongKind

/-- The integer that a number without point and exponent writes. -/
def integerOf? (text : String) : Option Int :=
  match text.toList with
  | '-' :: ds =>
    if ds.all Char.isDigit then
      match Binary64.digitsValue ds with
      | 0 => none
      | n => some (-n)
    else none
  | ds => if ds.all Char.isDigit then some (Binary64.digitsValue ds) else none

/-- An integer from `low` to `high`. -/
def integer (low high : Int) : Decoder Json Int := fun j =>
  match j with
  | .number text => match integerOf? text with
    | some n => if low ≤ n ∧ n ≤ high then .ok n else .error j.wrongKind
    | none => .error j.wrongKind
  | j => .error j.wrongKind

/-- A natural number below `bound`. -/
def natural (bound : Nat) : Decoder Json Nat := fun j =>
  (integer 0 (bound - 1) j).map Int.toNat

/-- A value or `null`. -/
def orNull {α : Type} (decode : Decoder Json α) : Decoder Json (Option α)
  | .null => .ok none
  | j => (decode j).map some

/-- An array of values of one kind. -/
def list {α : Type} (decode : Decoder Json α) : Decoder Json (List α)
  | .array items => items.mapM decode
  | j => .error j.wrongKind

/-- A member of an object, with a value of the kind that is asked for. -/
def entry {α : Type} (decode : Decoder Json α) :
    Option String × Json → Except Fault (String × α)
  | (none, _) => .error .malformed
  | (some name, j) => do return (name, ← decode j)

/-- An object with values of one kind. -/
def dict {α : Type} (decode : Decoder Json α) : Decoder Json (SortedMap String α)
  | .object members => do return SortedMap.ofList (← members.mapM (entry decode))
  | j => .error j.wrongKind

/-- A name from a list: as a string, or as the only member of an object, with the value `null`. Anything else
is refused before it is read further. -/
def choice {α : Type} (names : List (String × α)) : Decoder Json α
  | .string (some s) => named s
  | .object [] => .error .malformed
  | .object ((none, .misnamed) :: _) => .error .mismatched
  | .object ((none, _) :: _) => .error .malformed
  | .object ((some s, j) :: rest) => do
    let a ← named s
    match j, rest with
    | .null, [] => .ok a
    | .null, _ => .error .malformed
    | j, _ => .error j.wrongKind
  | _ => .error .malformed
where
  named (s : String) : Except Fault α :=
    match names.lookup s with
    | some a => .ok a
    | none => .error .mismatched

/-- A name from a list, in a value that was read as a whole before: its only member may also hold an empty object. -/
def heldChoice {α : Type} (names : List (String × α)) : Decoder Json α
  | .object [(some s, .object [])] => choice names (.str s)
  | j => choice names j

/-- Finds the values of the slots among the members of an object. A slot is filled once. -/
def collect (slots : List (Slot Json)) :
    List (Option String × Json) → List (String × Json) → Except Fault (List (String × Json))
  | [], found => .ok found
  | (none, _) :: _, _ => .error .malformed
  | (some name, j) :: rest, found =>
    match slots.find? fun slot => slot.name == name with
    | none => if j.isWhole then collect slots rest found else .error .malformed
    | some slot =>
      if (found.lookup name).isSome then .error .mismatched
      else do
        slot.check j
        collect slots rest ((name, j) :: found)

/-- Pairs the slots with the items of an array in order. Slots at the end may stay empty, and no item may be
left over. -/
def arrange (slots : List (Slot Json)) :
    List Json → List (String × Json) → Except Fault (List (String × Json))
  | [], found => .ok found
  | j :: rest, found =>
    match slots with
    | [] => .error .malformed
    | slot :: slots => do
      slot.check j
      arrange slots rest ((slot.name, j) :: found)

/-- A record: an object with its fields by name, or an array with its fields in order. -/
def record {α : Type} (fields : Fields Json α) : Decoder Json α
  | .object members => do
    let found ← collect fields.slots members []
    fields.build fun name => found.lookup name
  | .array items => do
    let found ← arrange fields.slots items []
    fields.build fun name => found.lookup name
  | j => .error j.wrongKind

instance : Source Json where
  text := text
  flag := flag
  natural := natural
  integer := integer (-bitSpan 63) (bitSpan 63 - 1)
  nullable := orNull
  list := list
  dict := dict
  choice := choice
  record := record

/-- Decodes a whole text. -/
def decodeText {α : Type} (decode : Decoder Json α) (text : String) : Except Fault α :=
  decode (read text)

end FleetRouting.Json
