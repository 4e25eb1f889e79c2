import FleetRouting.Text.Fold
/-!
# FleetRouting.Unicode.Table

**Tables of characters, written as text.** A table lists stretches of code points in order. Each stretch is a word of
numbers: how many code points lie between it and the stretch before, how many more than one it has, and what is said
about its characters. A number has five bits in each of its letters, the highest first; letters that stand for 32
and more are followed by another letter of the same number. What is said depends on the table; where characters are
replaced by others, `Stretch.image` reads it.
-/

namespace FleetRouting.Unicode

open Text

/-- Code points in a row, and what is said about them. -/
structure Stretch where
  first : Nat
  last : Nat
  data : List Nat
  deriving DecidableEq, Repr

namespace Stretch

/-- Whether a character lies in a stretch. -/
def covers (s : Stretch) (c : Char) : Bool := s.first ≤ c.toNat && c.toNat ≤ s.last

/-- What replaces a character of a stretch: its neighbour in another stretch, or the next character for every second
one, or always the same characters. -/
def image (s : Stretch) (c : Char) : List Char :=
  match s.data with
  | [0, target] => [Char.ofNat (target + (c.toNat - s.first))]
  | [1] => if (c.toNat - s.first) % 2 = 0 then [Char.ofNat (c.toNat + 1)] else [c]
  | _ :: codes => codes.map Char.ofNat
  | [] => [c]

end Stretch

/-! ### Reading -/

/-- What a letter stands for. -/
def letterValue (c : Char) : Nat :=
  if c.isUpper then c.toNat - 'A'.toNat
  else if c.isLower then 26 + (c.toNat - 'a'.toNat)
  else if c.isDigit then 52 + (c.toNat - '0'.toNat)
  else if c = '-' then 62
  else 63

/-- The numbers of a word, the last one first, and the letters of a number that has not ended. -/
def addLetter (read : List Nat × Nat) (c : Char) : List Nat × Nat :=
  let n := 32 * read.2 + letterValue c % 32
  if letterValue c < 32 then (n :: read.1, 0) else (read.1, n)

/-- The numbers of a word. -/
def numbers (word : List Char) : List Nat := (word.foldl addLetter ([], 0)).1.reverse

/-- Adds the stretch of a word to a table, which has the last stretch first; `next` is the code point behind it. -/
def addWord (read : List Stretch × Nat) (word : List Char) : List Stretch × Nat :=
  match numbers word with
  | gap :: more :: data =>
    let first := read.2 + gap
    (⟨first, first + more, data⟩ :: read.1, first + more + 1)
  | _ => read

/-- The stretches that the words of a text write. -/
def readTable (rows : List String) : List Stretch :=
  ((rows.flatMap fun row => splitChars ' ' row.toList).foldl addWord ([], 0)).1.reverse

/-! ### Looking up -/

/-- The stretch of a character. -/
def stretch? (table : List Stretch) (c : Char) : Option Stretch := table.find? fun s => s.covers c

/-- Whether a table lists a character. -/
def lists (table : List Stretch) (c : Char) : Bool := table.any fun s => s.covers c

/-- The number that a table gives for a character, if it lists it. -/
def number? (table : List Stretch) (c : Char) : Option Nat :=
  (stretch? table c).bind fun s => s.data.head?

end FleetRouting.Unicode
