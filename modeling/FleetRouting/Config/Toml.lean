import FleetRouting.Config.Toml.Document
/-!
# FleetRouting.Config.Toml

**Reading settings written in TOML.** A line ends in a line feed, perhaps with a carriage return before it. Up to two
byte order marks may stand at the front, one of the file and one of the document.
-/

namespace FleetRouting.Toml

/-- The text without a byte order mark at its front. -/
def dropMark : List Char → List Char
  | '\ufeff' :: rest => rest
  | cs => cs

/-- Whether a carriage return stands anywhere but before a line feed. -/
def hasLoneReturn : List Char → Bool
  | '\r' :: '\n' :: rest => hasLoneReturn rest
  | '\r' :: _ => true
  | _ :: rest => hasLoneReturn rest
  | [] => false

/-- The text with its lines ended by line feeds alone; none if a carriage return stands anywhere else. -/
def plainLines? (cs : List Char) : Option (List Char) :=
  if hasLoneReturn cs then none else some (cs.filter (· ≠ '\r'))

/-- The settings that a text in TOML writes; none if the text is malformed. -/
def read? (text : String) : Option Setting := do
  let cs ← plainLines? (dropMark (dropMark text.toList))
  match ← Node.setting? (.table .implied (← Document.read? cs)) with
  | .table entries => return .table entries
  | _ => none

end FleetRouting.Toml
