import FleetRouting.BitSpan
import FleetRouting.Config.Schema
import FleetRouting.Config.Setting
import FleetRouting.Config.Toml
/-!
# FleetRouting.Config.Load

**Loading the settings of the service.** A file comes first, and variables of the environment are laid over it. A
variable `FLEET__SECTION__FIELD` in any letter case sets a field of a section; its value counts as a truth
value, an integer or a number if it reads as one. Whatever is not set keeps its default. The names of the file and of
the environment are paths, and so are the names that come out when both are laid together.
-/

namespace FleetRouting

open Text

/-- Why settings could not be loaded. -/
inductive LoadFault where
  /-- The file is malformed, or a setting does not fit. -/
  | setting (fault : Fault)
  /-- A path has an index before the start of a list, or too far behind its end. -/
  | index
  /-- A variable has a name or a value that no environment holds. -/
  | environment
  deriving DecidableEq

/-- A file with settings. -/
inductive ConfigFile where
  | json (content : Json)
  | toml (content : String)

/-- The settings in a file. -/
def ConfigFile.setting : ConfigFile → Except Fault Setting
  | .json content =>
    match content with
    | .object _ => if content.isSound Json.maxDepth then .ok (.ofJson content) else .error .malformed
    | _ => .error .mismatched
  | .toml content =>
    match Toml.read? content with
    | some setting => .ok setting
    | none => .error .malformed

/-- Variables by name. -/
abbrev Environment := List (String × String)

namespace Environment

/-- Whether an environment can hold a variable: its name is not empty and has no equals sign, and there is no character
zero. -/
def canHold (v : String × String) : Bool :=
  !v.1.isEmpty && !v.1.toList.any (fun c => c = '=' || c = '\x00') &&
    !v.2.toList.contains '\x00'

/-- What the names of variables for the service begin with. -/
def start : String := "fleet__"

/-- The text with every pair of underscores replaced by a point. -/
def pointed : List Char → List Char
  | '_' :: '_' :: rest => '.' :: pointed rest
  | c :: rest => c :: pointed rest
  | [] => []

/-- The name of the setting that a variable sets. -/
def settingName? (variableName : String) : Option String :=
  (dropStart? start.toList (Unicode.lowercase variableName).toList).map fun cs => String.ofList (pointed cs)

/-- The value of a variable: a truth value, an integer of 64 bits, a number, or else a text. -/
def valueOf (s : String) : Setting :=
  match fold s with
  | "true" => .flag true
  | "false" => .flag false
  | _ =>
    let long := (Setting.textInteger? s).filter Setting.isLong
    match long, Binary64.read? s with
    | some n, _ => .integer n
    | none, some x => .real x
    | none, none => .text s

/-- What the environment sets. -/
def settings (environment : Environment) : List (String × Setting) :=
  environment.filterMap fun v => (settingName? v.1).map fun name => (name, valueOf v.2)

end Environment

namespace Config

/-- The settings that are there before any source. -/
def base : Setting := .table [
  ("server", .table [("host", .text "0.0.0.0"), ("port", .integer 8090)]),
  ("logging", .table [("level", .text "info")])]

/-- The settings of all sources laid together. -/
def combined? (file : Setting) (environment : Environment) : Option Setting := do
  let fromFile ← (Setting.table []).layer file.entries
  let sources ← fromFile.layer environment.settings
  base.layer sources.entries

/-- The settings from a file, if there is one, and from the environment. -/
def load (file : Option ConfigFile) (environment : Environment) : Except LoadFault Config := do
  if !environment.all Environment.canHold then .error .environment
  let fromFile ← match file with
    | some file => file.setting.mapError .setting
    | none => .ok (.table [])
  match combined? fromFile environment with
  | some setting => (Config.decode setting).mapError .setting
  | none => .error .index

end Config

end FleetRouting
