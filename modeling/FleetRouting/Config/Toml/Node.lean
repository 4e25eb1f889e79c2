import FleetRouting.Config.Setting
import FleetRouting.Config.Toml.DateTime
/-!
# FleetRouting.Config.Toml.Node

**Documents of TOML as trees, and how they grow.** Nothing may be defined twice. A table may be opened by one header;
it may be there before only because a header below it was seen, and then moves behind the parts that came first. A path
of keys in an assignment may go on only in tables that such paths made, or past the last table of an array.
-/

namespace FleetRouting.Toml

/-- What made a table. -/
inductive Origin where
  /-- A header below it. -/
  | implied
  /-- A path of keys in an assignment. -/
  | dotted
  /-- Its own header. -/
  | opened
  /-- Braces. -/
  | closed
  deriving DecidableEq

/-- A part of a document. -/
inductive Node where
  | scalar (value : Setting)
  | dateTime (value : DateTime)
  | list (items : List Node)
  | table (origin : Origin) (entries : List (String × Node))
  /-- Tables under headers in double brackets, the last one first. -/
  | tables (items : List Node)
  deriving Inhabited

/-- Parts of a document by name. -/
abbrev Nodes := List (String × Node)

namespace Node

/-! ### Growing -/

/-- Puts a part in the place of the one with its name, or behind all others. -/
def put (name : String) (node : Node) : Nodes → Nodes
  | [] => [(name, node)]
  | (n, old) :: rest => if n = name then (n, node) :: rest else (n, old) :: put name node rest

/-- Changes the table at the end of the path of a header. -/
def within (change : Nodes → Option Nodes) : List String → Nodes → Option Nodes
  | [], nodes => change nodes
  | name :: path, nodes =>
    match nodes.lookup name with
    | none => do return put name (.table .implied (← within change path [])) nodes
    | some (.table .closed _) => none
    | some (.table origin inner) => do return put name (.table origin (← within change path inner)) nodes
    | some (.tables (.table origin inner :: others)) => do
      return put name (.tables (.table origin (← within change path inner) :: others)) nodes
    | some _ => none

/-- Opens a table under its header. -/
def openTable (name : String) (nodes : Nodes) : Option Nodes :=
  match nodes.lookup name with
  | none => some (nodes ++ [(name, .table .opened [])])
  | some (.table .implied inner) => some (nodes.filter (·.1 ≠ name) ++ [(name, .table .opened inner)])
  | some _ => none

/-- Opens one more table of an array of tables. -/
def openItem (name : String) (nodes : Nodes) : Option Nodes :=
  match nodes.lookup name with
  | none => some (nodes ++ [(name, .tables [.table .opened []])])
  | some (.tables items) => some (put name (.tables (.table .opened [] :: items)) nodes)
  | some _ => none

/-- Whether a path of keys may go on in a table; a value may be set only in one that such a path made. -/
def mayEnter (origin : Origin) (isLast : Bool) : Bool :=
  match origin with
  | .dotted => true
  | .implied => !isLast
  | .opened => false
  | .closed => false

/-- Sets the part at the end of a path of keys. -/
def assign (node : Node) : List String → Nodes → Option Nodes
  | [], _ => none
  | [name], nodes => if (nodes.lookup name).isSome then none else some (nodes ++ [(name, node)])
  | name :: path, nodes =>
    let isLast := path.length == 1
    match nodes.lookup name with
    | none => do return put name (.table .dotted (← assign node path [])) nodes
    | some (.table origin inner) =>
      if mayEnter origin isLast then do return put name (.table origin (← assign node path inner)) nodes
      else none
    | some (.tables (.table origin inner :: others)) =>
      if isLast then none
      else do return put name (.tables (.table origin (← assign node path inner) :: others)) nodes
    | some _ => none

/-! ### Settings -/

/-- The name of the first entry of a table that stands for a date and time. -/
def dateTimeName : String := "$__toml_private_datetime"

/-- What a table holds if it stands for a date and time. -/
def heldDateTime : Nodes → Option Node
  | (name, node) :: _ => if name = dateTimeName then some node else none
  | [] => none

mutual

/-- A part of a document as a setting. Dates and times are texts, also those that a table holds as a text. -/
def setting? : Node → Option Setting
  | .scalar value => some value
  | .dateTime value => some (.text value.toText)
  | .list items => do return .list (← settingsOf? items)
  | .table _ entries =>
    match heldDateTime entries with
    | some (.scalar (.text s)) => do return .text (← DateTime.read? s).toText
    | some _ => none
    | none => do return .table (← settings? entries)
  | .tables items => do return .list (← settingsOf? items).reverse

/-- Named parts of a document as settings. -/
def settings? : List (String × Node) → Option (List (String × Setting))
  | [] => some []
  | (name, node) :: rest => do return (name, ← setting? node) :: (← settings? rest)

/-- Parts of a document as settings. -/
def settingsOf? : List Node → Option (List Setting)
  | [] => some []
  | node :: rest => do return (← setting? node) :: (← settingsOf? rest)

end

end Node

end FleetRouting.Toml
