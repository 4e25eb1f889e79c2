import FleetRouting.Config.Toml.Node
import FleetRouting.Config.Toml.Number
/-!
# FleetRouting.Config.Toml.Value

**Values of TOML.** Arrays may extend over several lines and hold comments; the tables within braces stand on one line.
Brackets and braces may nest up to a fixed depth. Where readers count down, the length of the text always suffices.
-/

namespace FleetRouting.Toml

/-- A value without brackets. What starts like a number may be a date or a time. -/
def scalar : Reader Node := do
  match ← get with
  | '"' :: _ => return .scalar (.text (← text true))
  | '\'' :: _ => return .scalar (.text (← text true))
  | 't' :: _ => expectWord "true".toList; return .scalar (.flag true)
  | 'f' :: _ => expectWord "false".toList; return .scalar (.flag false)
  | _ => (do return .dateTime (← dateTime .asWritten)) <|> (do return .scalar (← number))

/-- The items of an array behind its bracket, where `value` reads one; the first argument bounds their number. -/
def arrayItems (value : Reader Node) : Nat → Reader (List Node)
  | 0 => failure
  | bound + 1 => do
    skipLines
    if ← accept ']' then return []
    let first ← value
    skipLines
    if ← accept ',' then return first :: (← arrayItems value bound)
    expect ']'
    return [first]

/-- The entries of a table behind its brace, where `value` reads the value of one; the first argument bounds their
number. -/
def tableEntries (value : Reader Node) : Nat → Nodes → Reader Nodes
  | 0, _ => failure
  | bound + 1, entries => do
    let names ← path
    expect '='
    skipSpaces
    let entries ← (Node.assign (← value) names entries : Option _)
    skipSpaces
    if ← accept ',' then tableEntries value bound entries
    else
      expect '\x7d'
      return entries

/-- A value within which brackets may nest so many levels. -/
def value : Nat → Reader Node
  | 0 => scalar
  | depth + 1 => do
    match ← get with
    | '[' :: rest =>
      set rest
      return .list (← arrayItems (value depth) (rest.length + 1))
    | '\x7b' :: rest =>
      set rest
      skipSpaces
      if ← accept '\x7d' then return .table .closed []
      return .table .closed (← tableEntries (value depth) (rest.length + 1) [])
    | _ => scalar

end FleetRouting.Toml
