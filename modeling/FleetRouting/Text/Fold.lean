/-!
# FleetRouting.Text.Fold

**Letter case of the twenty-six Latin letters.** Names are compared and normalised by folding the letters
`A` to `Z` to their small forms; every other character, accented letters included, stays as it is.
-/

namespace FleetRouting.Text

/-- The text with `A` to `Z` in small letters. -/
def fold (s : String) : String := s.map Char.toLower

/-- Equality up to the case of `A` to `Z`. -/
def sameFolded (s t : String) : Bool := fold s == fold t

/-- Splits at every `sep`; the parts keep their order and may be empty. -/
def splitChars (sep : Char) : List Char → List (List Char)
  | [] => [[]]
  | c :: rest =>
    match splitChars sep rest with
    | [] => [[c]]
    | part :: parts => if c = sep then [] :: part :: parts else (c :: part) :: parts

/-- The parts of a text between the occurrences of `sep`. -/
def split (sep : Char) (s : String) : List String :=
  (splitChars sep s.toList).map String.ofList

/-- The rest of `cs` after the characters of `start`, if it begins with them. -/
def dropStart? : (start cs : List Char) → Option (List Char)
  | [], cs => some cs
  | _ :: _, [] => none
  | a :: start, c :: cs => if a = c then dropStart? start cs else none

end FleetRouting.Text
