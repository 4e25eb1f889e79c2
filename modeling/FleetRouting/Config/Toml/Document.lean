import FleetRouting.Config.Toml.Value
/-!
# FleetRouting.Config.Toml.Document

**Documents of TOML: lines with headers of tables and assignments.** An assignment sets a value in the table of the
last header.
-/

namespace FleetRouting.Toml

/-- A document as far as it was read: its parts, and the path of the last header. -/
structure Document where
  nodes : Nodes := []
  here : List String := []

namespace Document

/-- Opens the table that a header names. -/
def header (d : Document) (path : List String) (isItem : Bool) : Option Document := do
  let name ← path.getLast?
  let change := if isItem then Node.openItem name else Node.openTable name
  return ⟨← Node.within change path.dropLast d.nodes, path⟩

/-- Sets a value in the table of the last header. -/
def assign (d : Document) (path : List String) (value : Node) : Option Document := do
  return { d with nodes := ← Node.within (Node.assign value path) d.here d.nodes }

/-- A header, behind its first bracket. -/
def readHeader (d : Document) : Reader Document := do
  let isItem ← accept '['
  let names ← path
  expect ']'
  if isItem then expect ']'
  (d.header names isItem : Option _)

/-- An assignment. -/
def readAssignment (d : Document) : Reader Document := do
  let names ← path
  expect '='
  skipSpaces
  (d.assign names (← value maxDepth) : Option _)

/-- What may stand behind a header or an assignment: blanks, a comment, and the end of the line. -/
def endLine : Reader Unit := fun cs =>
  match dropComment (cs.dropWhile isSpace) with
  | [] => some ((), [])
  | '\n' :: rest => some ((), rest)
  | _ => none

/-- The lines of a document; the first argument bounds their number. -/
def readLines : Nat → Document → List Char → Option Document
  | 0, _, _ => none
  | bound + 1, d, cs =>
    match dropLines false cs with
    | [] => some d
    | cs => do
      let (d, rest) ← (do
        let d ← if ← accept '[' then d.readHeader else d.readAssignment
        endLine
        return d : Reader Document) cs
      readLines bound d rest

/-- The parts of the document that a text is. -/
def read? (cs : List Char) : Option Nodes := (readLines (cs.length + 1) {} cs).map Document.nodes

end Document

end FleetRouting.Toml
