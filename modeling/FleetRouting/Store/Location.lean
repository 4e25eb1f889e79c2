import FleetRouting.Store.Basic
import FleetRouting.Text.Fold
/-!
# FleetRouting.Store.Location

**Databases in files.** A database is found by its path below a directory of its own, with or without the word `sqlite:`
in front. Directories on the way are made as needed, and steps in place or up are taken by name alone. A path leads to a
database unless it ends in a directory that it went through, or is too long; a path from the root of the file system
leads outside and is refused.
-/

namespace FleetRouting.Store

open Text

/-- What may stand in front of the path of a database. -/
def databaseScheme : String := "sqlite:"

/-- A place relative to the directory of databases: so many steps up, and then down along names, the last one
first. -/
structure Place where
  up : Nat := 0
  down : List String := []
  deriving DecidableEq

/-- The place one step further. -/
def Place.enter (p : Place) (name : String) : Place :=
  if name = ".." then
    match p.down with
    | [] => { p with up := p.up + 1 }
    | _ :: down => { p with down := down }
  else { p with down := name :: p.down }

/-- The last place along some names, and those before it. -/
def travel (p : Place) (before : List Place) : List String → Place × List Place
  | [] => (p, before)
  | name :: rest => travel (p.enter name) (p :: before) rest

/-- The steps of a path. -/
def steps (path : String) : List String := (split '/' path).filter fun part => part ≠ "" && part ≠ "."

/-! ### Limits of the file system -/

/-- The most octets in a name of the file system. -/
def maxNameSize : Nat := 255

/-- The most octets in a path that directories are made along. -/
def maxWalkSize : Nat := 4079

/-- The most octets in the shortest path to a database. -/
def maxPathSize : Nat := 489

/-- How much longer than the name of a database the name of its journal is. -/
def journalSuffixSize : Nat := 8

/-- Whether a step can be the name of a directory. -/
def isName (step : String) : Bool := step.utf8ByteSize ≤ maxNameSize && !step.toList.contains '\x00'

/-- Whether a place can hold a database and its journal. -/
def Place.mayHold (p : Place) : Bool :=
  match p.down with
  | [] => false
  | name :: _ =>
    name.utf8ByteSize + journalSuffixSize ≤ maxNameSize &&
      p.down.foldl (fun size name => size + 1 + name.utf8ByteSize) 0 ≤ maxPathSize

/-- A path without its last step. -/
def parent (path : String) : String :=
  let dropEmpty := List.dropWhile fun part => part = "" || part = "."
  "/".intercalate (dropEmpty ((dropEmpty (split '/' path).reverse).drop 1)).reverse

/-- Whether a path leads to a file. -/
def leadsToFile (path : String) : Bool :=
  let (place, before) := travel {} [] (steps path)
  path.toList.head? != some '/' && (steps path).all isName &&
    (parent path).utf8ByteSize ≤ maxWalkSize && place.mayHold && !before.contains place

/-- The path in the address of a database. -/
def databasePath (address : String) : String :=
  match dropStart? databaseScheme.toList address.toList with
  | some path => String.ofList path
  | none => address

/-- Opens the database at an address; it is empty when it is new. -/
def openDatabase (address : String) : Except StoreError Store :=
  if leadsToFile (databasePath address) then .ok database
  else .error (.backend "unable to open database file")

end FleetRouting.Store
