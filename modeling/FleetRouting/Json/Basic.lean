import FleetRouting.Binary64.Reader
/-!
# FleetRouting.Json.Basic

**JSON values, read as far as the text is well formed.** Numbers keep their text, objects keep their members in
order and repeated names stay apart, because who accepts what is decided by the type that is decoded. Three
constructors record defects of the text in the place where they were met: `broken` stands where the text stops
being JSON, with nothing after it, `misnamed` does where a value of another kind stands for the name of a member,
and a string or name without text holds an escape for half a surrogate pair.
A value that no type looks at may hold such a string, so the reader does not refuse it.
-/

namespace FleetRouting

/-- A JSON value, or the part of one in front of a syntax error. -/
inductive Json where
  | null
  | bool (value : Bool)
  /-- A number, as it is written. -/
  | number (text : String)
  /-- A string; without text when its escapes name half a surrogate pair. -/
  | string (text : Option String)
  | array (items : List Json)
  | object (members : List (Option String × Json))
  /-- The text stops being JSON here. -/
  | broken
  /-- The text stops being JSON here, where a value stands for a name. -/
  | misnamed
  deriving Repr, Inhabited

namespace Json

/-- A string of well-formed text. -/
def str (s : String) : Json := .string (some s)

/-- A natural number. -/
def nat (n : Nat) : Json := .number (toString n)

/-- An integer. -/
def int (n : Int) : Json := .number (toString n)

/-- An object with the given members, in this order. -/
def obj (members : List (String × Json)) : Json :=
  .object (members.map fun m => (some m.1, m.2))

/-- `null` for nothing. -/
def nullable (f : α → Json) : Option α → Json
  | none => .null
  | some a => f a

mutual

/-- True when reading met no syntax error. -/
def isWhole : Json → Bool
  | .broken => false
  | .misnamed => false
  | .array items => itemsWhole items
  | .object members => membersWhole members
  | _ => true

/-- `isWhole` for the items of an array. -/
def itemsWhole : List Json → Bool
  | [] => true
  | j :: rest => isWhole j && itemsWhole rest

/-- `isWhole` for the members of an object. -/
def membersWhole : List (Option String × Json) → Bool
  | [] => true
  | (_, j) :: rest => isWhole j && membersWhole rest

end

/-- True when the number is too large for a binary floating point value of 64 bits. -/
def numberOverflows (text : String) : Bool :=
  match Binary64.read? text with
  | some (.infinite _) => true
  | _ => false

mutual

/-- True when every part can be held in memory as a value: no syntax error, strings and names are text,
numbers are in range, and brackets nest no deeper than `depth`. -/
def isSound (depth : Nat) : Json → Bool
  | .broken => false
  | .misnamed => false
  | .number text => !numberOverflows text
  | .string text => text.isSome
  | .array items => match depth with
    | 0 => false
    | depth + 1 => itemsSound depth items
  | .object members => match depth with
    | 0 => false
    | depth + 1 => membersSound depth members
  | _ => true

/-- `isSound` for the items of an array. -/
def itemsSound (depth : Nat) : List Json → Bool
  | [] => true
  | j :: rest => isSound depth j && itemsSound depth rest

/-- `isSound` for the members of an object. -/
def membersSound (depth : Nat) : List (Option String × Json) → Bool
  | [] => true
  | (name, j) :: rest => name.isSome && isSound depth j && membersSound depth rest

end

/-- How deep brackets may nest in a value that is held in memory before its type is known. -/
def maxDepth : Nat := 127

end Json

end FleetRouting
