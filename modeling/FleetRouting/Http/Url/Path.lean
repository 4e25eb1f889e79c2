import FleetRouting.Http.Percent
import FleetRouting.Text.Fold
/-!
# FleetRouting.Http.Url.Path

**Paths in addresses.** A path is a row of segments. Segments that stay in place or go one step up are carried out when
a path is read; a step up does not leave a drive, which is a letter with a colon. In the address of a file, a path that
begins with a drive has a colon there even if it is written with a bar, and no empty segments in front.
-/

namespace FleetRouting.Url

open Text

/-! ### Segments -/

/-- A segment that stays in place. -/
def staysInPlace (segment : String) : Bool := segment == "." || fold segment == "%2e"

/-- A segment that goes one step up. -/
def goesUp (segment : String) : Bool :=
  ["..", ".%2e", "%2e.", "%2e%2e"].contains (fold segment)

/-- The letter of a drive, if a text is one: a letter with a colon or a bar. -/
def drive? (cs : List Char) : Option Char :=
  match cs with
  | [letter, mark] => if letter.isAlpha && (mark = ':' || mark = '|') then some letter else none
  | _ => none

/-- The segments one step up; all are given with the last one first. -/
def up : List String → List String
  | segment :: rest => if (drive? segment.toList).isSome then segment :: rest else rest
  | [] => []

/-- A row of segments as far as it has been walked along. -/
structure Walk where
  /-- The segments, the last one first. -/
  segments : List String := []
  /-- Whether the path of a file begins with a drive. -/
  onDrive : Bool := false

/-- One further segment, which is not the last one. -/
def Walk.enter (isFile : Bool) (w : Walk) (segment : String) : Walk :=
  if goesUp segment then { w with segments := up w.segments }
  else if staysInPlace segment then w
  else match isFile && w.segments.isEmpty, drive? segment.toList with
    | true, some letter => ⟨[String.ofList [letter, ':']], true⟩
    | _, _ => { w with segments := segment :: w.segments }

/-- The last segment: one that moves leaves an empty segment behind. -/
def Walk.finish (isFile : Bool) (w : Walk) (segment : String) : Walk :=
  let w := w.enter isFile segment
  if goesUp segment || staysInPlace segment then { w with segments := "" :: w.segments } else w

/-- Walks along a row of segments. -/
def Walk.along (isFile : Bool) (w : Walk) : List String → Walk
  | [] => w
  | [segment] => w.finish isFile segment
  | segment :: rest => Walk.along isFile (w.enter isFile segment) rest

/-- The text of a path. -/
def Walk.toText (isFile : Bool) (w : Walk) : String :=
  let joined := "/".intercalate w.segments.reverse
  "/" ++ if isFile then String.ofList (joined.toList.dropWhile (· = '/')) else joined

end FleetRouting.Url
