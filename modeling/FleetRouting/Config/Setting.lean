import FleetRouting.Binary64.Printer
import FleetRouting.BitSpan
import FleetRouting.Json.Decode
import FleetRouting.Unicode.Lowercase
/-!
# FleetRouting.Config.Setting

**Settings as a tree that is laid together from several sources.** Tables are merged entry by entry, and everything
else replaces what was there. Names of entries do not depend on letter case, outside lists. Decoding is lenient where
the sources differ in what they can express: a number may be given as text, a truth value as a number or a word.
-/

namespace FleetRouting

open Text

/-- A setting, or a table of them. -/
inductive Setting where
  /-- The explicit absence of a value. -/
  | absent
  | flag (value : Bool)
  | integer (value : Int)
  | real (value : Binary64)
  | text (value : String)
  | list (items : List Setting)
  | table (entries : List (String × Setting))
  deriving Inhabited

namespace Setting

/-- Whether a number fits into 64 bits with sign. -/
def isLong (n : Int) : Bool := decide (-bitSpan 63 ≤ n ∧ n < bitSpan 63)

/-! ### Merging -/

/-- The entries of a table; none for any other setting. -/
def entries : Setting → List (String × Setting)
  | .table entries => entries
  | _ => []

/-- The items of a list; none for any other setting. -/
def items : Setting → List Setting
  | .list items => items
  | _ => []

/-- Puts an entry in the place of the one with its name, or behind all others. -/
def putEntry (name : String) (value : Setting) : List (String × Setting) → List (String × Setting)
  | [] => [(name, value)]
  | (n, v) :: rest => if n = name then (n, value) :: rest else (n, v) :: putEntry name value rest

mutual

/-- Lays a setting over an older one. A table without entries changes nothing. -/
def overlay (old : Option Setting) : Setting → Setting
  | .table [] => old.getD (.table [])
  | .table (entry :: rest) => .table (overlayEntries ((old.map entries).getD []) (entry :: rest))
  | new => new

/-- Lays entries over older ones. Their names are put in small letters. -/
def overlayEntries (old : List (String × Setting)) : List (String × Setting) → List (String × Setting)
  | [] => old
  | (name, value) :: rest =>
    let name := Unicode.lowercase name
    overlayEntries (putEntry name (overlay (old.lookup name) value) old) rest

end

/-! ### Paths -/

/-- One step on the way to a setting. -/
inductive Step where
  | entry (name : String)
  /-- An item of a list; below zero they count from its end. -/
  | item (index : Int)
  deriving DecidableEq

/-- A list grows as far as needed, but not up to so many items. -/
def maxItems : Nat := bitSpan 32

/-- The position of an item in a list of the given length; none if it would lie before the start of the list, or too
far behind its end. -/
def position? (length : Nat) (index : Int) : Option Nat :=
  let position := if index < 0 then length + index else index
  if 0 ≤ position ∧ position < maxItems then some position.toNat else none

/-- Puts an item into a list, which grows as far as needed. -/
def putItem (position : Nat) (value : Setting) (items : List Setting) : List Setting :=
  (items ++ List.replicate (position + 1 - items.length) Setting.absent).set position value

/-- The setting with a value at the end of a path: laid over the entry there, or in place of the item. On the way, what
has no entries or items gives way to a table or list. None if an item has no position. -/
def place (value : Setting) (old : Option Setting) : List Step → Option Setting
  | [] => some value
  | .entry name :: path => do
    let found := (old.map entries).getD []
    let name := Unicode.lowercase name
    let inner ← if path.isEmpty then some (overlay (found.lookup name) value)
      else place value (found.lookup name) path
    return .table (putEntry name inner found)
  | .item index :: path => do
    let found := (old.map items).getD []
    let position ← position? found.length index
    return .list (putItem position (← place value found[position]? path) found)

/-- A character that may stand in the name of an entry within a path. -/
def isNameChar (c : Char) : Bool := c.isAlphanum || c = ' ' || c = '_' || c = '-'

/-- A blank that may stand around an index. -/
def isIndexBlank (c : Char) : Bool := c = ' ' || c = '\t'

/-- The index that stands in brackets, behind the first of them: an integer of 64 bits with sign. -/
def readIndex? (cs : List Char) : Option Step := do
  let cs := cs.dropWhile isIndexBlank
  let (negative, cs) := match cs with
    | '-' :: cs => (true, cs)
    | cs => (false, cs)
  match cs.span Char.isDigit with
  | (ds@(_ :: _), rest) =>
    let n : Int := Binary64.digitsValue ds
    let index := if negative then -n else n
    if rest.dropWhile isIndexBlank = [']'] ∧ isLong index then some (.item index) else none
  | _ => none

/-- The steps that a part of a path between two points writes: a name, and perhaps indices in brackets. -/
def stepsOf? (part : String) : Option (List Step) :=
  let (name, rest) := part.toList.span isNameChar
  if name.isEmpty then none
  else match splitChars '[' rest with
    | [] :: indices => do return .entry (String.ofList name) :: (← indices.mapM readIndex?)
    | _ => none

/-- The path that a name writes: names with points between them. A name of any other form is one step. -/
def pathOf (name : String) : List Step :=
  match (split '.' name).mapM stepsOf? with
  | some steps => steps.flatten
  | none => [.entry name]

/-- Lays named values over a table, one after the other. -/
def layer (old : Setting) (values : List (String × Setting)) : Option Setting :=
  values.foldlM (fun s v => place v.2 (some s) (pathOf v.1)) old

/-! ### Settings as JSON -/

mutual

/-- A JSON value as a setting. Numbers beyond 64 bits are rounded. -/
def ofJson : Json → Setting
  | .bool b => .flag b
  | .number digits =>
    match Json.integerOf? digits with
    | some n =>
      if isLong n then .integer n else .real ((Binary64.read? digits).getD .nan)
    | none => .real ((Binary64.read? digits).getD .nan)
  | .string (some s) => .text s
  | .array items => .list (ofItems items)
  | .object members => .table (ofMembers [] members)
  | _ => .absent

/-- The items of an array as settings. -/
def ofItems : List Json → List Setting
  | [] => []
  | j :: rest => ofJson j :: ofItems rest

/-- The members of an object as entries; of two with one name the later counts. -/
def ofMembers (before : List (String × Setting)) :
    List (Option String × Json) → List (String × Setting)
  | [] => before
  | (name, j) :: rest => ofMembers (putEntry (name.getD "") (ofJson j) before) rest

end

/-! ### Decoding -/

/-- A text; truth values and numbers are written out. -/
def asText : Decoder Setting String
  | .text s => .ok s
  | .flag b => .ok (if b then "true" else "false")
  | .integer n => .ok (toString n)
  | .real x => .ok x.toText
  | _ => .error .mismatched

/-- The truth value of a word. -/
def wordFlag? (s : String) : Option Bool :=
  match fold s with
  | "1" | "true" | "on" | "yes" => some true
  | "0" | "false" | "off" | "no" => some false
  | _ => none

/-- A truth value; a number is true unless it is zero. -/
def asFlag : Decoder Setting Bool
  | .flag b => .ok b
  | .integer n => .ok (n != 0)
  | .real x => .ok (!(x.le .zero && Binary64.zero.le x))
  | .text s => match wordFlag? s with
    | some b => .ok b
    | none => .error .mismatched
  | _ => .error .mismatched

/-- The natural number that a text writes, perhaps with a plus sign. -/
def textNatural? (s : String) : Option Int :=
  match Binary64.takeSign s.toList with
  | (false, ds@(_ :: _)) => if ds.all Char.isDigit then some (Binary64.digitsValue ds) else none
  | _ => none

/-- The integer that a text writes, perhaps with a sign. -/
def textInteger? (s : String) : Option Int :=
  match Binary64.takeSign s.toList with
  | (true, ds@(_ :: _)) => if ds.all Char.isDigit then some (-Binary64.digitsValue ds) else none
  | _ => textNatural? s

/-- The number that a word stands for, or else the one that `read` finds in it. -/
def wordNumber? (read : String → Option Int) (s : String) : Option Int :=
  match fold s with
  | "true" | "on" | "yes" => some 1
  | "false" | "off" | "no" => some 0
  | _ => read s

/-- A whole number from `low` to `high`, where `read` reads texts and `nearest` rounds. -/
def asWhole (low high : Int) (read : String → Option Int) (nearest : Binary64 → Int) :
    Decoder Setting Int := fun s =>
  let value : Option Int := match s with
    | .integer n => some n
    | .flag b => some (if b then 1 else 0)
    | .real x => some (nearest x)
    | .text s => wordNumber? read s
    | _ => none
  match value with
  | some n => if low ≤ n ∧ n ≤ high then .ok n else .error .mismatched
  | none => .error .mismatched

/-- A natural number below `bound`. Numbers with a fraction are rounded, and those below zero count as zero. -/
def asNatural (bound : Nat) : Decoder Setting Nat := fun s =>
  (asWhole 0 (bound - 1) textNatural? (fun x => x.toNatClamped (bitSpan 64 - 1)) s).map Int.toNat

/-- The whole number nearest to a value, within 64 bits with sign. -/
def nearestLong : Binary64 → Int
  | .finite true units => -(Binary64.toNatClamped (bitSpan 63) (.finite false units))
  | .infinite true => -bitSpan 63
  | x => x.toNatClamped (bitSpan 63 - 1)

/-- An integer of 64 bits with sign. -/
def asInteger : Decoder Setting Int := asWhole (-bitSpan 63) (bitSpan 63 - 1) textInteger? nearestLong

/-- A value, unless it is absent. -/
def orAbsent {α : Type} (decode : Decoder Setting α) : Decoder Setting (Option α)
  | .absent => .ok none
  | s => (decode s).map some

/-- A list of values. -/
def asList {α : Type} (decode : Decoder Setting α) : Decoder Setting (List α)
  | .list items => items.mapM decode
  | _ => .error .mismatched

/-- A table of values. -/
def asDict {α : Type} (decode : Decoder Setting α) : Decoder Setting (SortedMap String α)
  | .table entries => do return .ofList (← entries.mapM fun e => return (e.1, ← decode e.2))
  | _ => .error .mismatched

/-- One of the given names in any letter case: as a text, or as the name of the only entry of a table. -/
def asChoice {α : Type} (names : List (String × α)) : Decoder Setting α
  | .text s => named s
  | .table [(s, _)] => named s
  | _ => .error .mismatched
where
  named (s : String) : Except Fault α :=
    match names.find? fun n => sameFolded n.1 s with
    | some (_, a) => .ok a
    | none => .error .mismatched

/-- A record: a table with its fields by name, or a list with its fields in order. -/
def asRecord {α : Type} (fields : Fields Setting α) : Decoder Setting α
  | .table entries => fields.build fun name => entries.lookup name
  | .list items => fields.build fun name => ((fields.slots.map Slot.name).zip items).lookup name
  | _ => .error .mismatched

instance : Source Setting where
  text := asText
  flag := asFlag
  natural := asNatural
  integer := asInteger
  nullable := orAbsent
  list := asList
  dict := asDict
  choice := asChoice
  record := asRecord

end Setting

end FleetRouting
