import FleetRouting.Domain.Mapping
import FleetRouting.Domain.Punycode
import FleetRouting.Text.Fold
import FleetRouting.Unicode.Composition
import FleetRouting.Unicode.Direction
import FleetRouting.Unicode.Joining
/-!
# FleetRouting.Domain.Label

**The labels of a domain name.** A label is written in ASCII as it is, or in Punycode behind `xn--`. Which labels may
stand in a name: characters that are mapped to themselves, in composed form; no mark at the front; the two joiners only
where they have an effect; and if a name has characters from right to left, each of its labels in one direction.
-/

namespace FleetRouting.Domain

open Text Unicode

/-! ### Joiners -/

/-- The character that keeps letters apart. -/
def nonJoiner : Char := '\u200c'

/-- The character that makes letters join. -/
def joiner : Char := '\u200d'

/-- Whether the next letter joins in one of the given ways. -/
def meetsJoining (ways : List Joining) (cs : List Char) : Bool :=
  match cs.dropWhile fun c => joining c == .transparent with
  | c :: _ => ways.contains (joining c)
  | [] => false

/-- Whether the joiners among `cs` have an effect, behind the characters `before`, the last one first. A joiner has one
behind a sign that takes the vowel, and keeping letters apart has one between letters that would join. -/
def joinersFit (before : List Char) : List Char → Bool
  | [] => true
  | c :: rest =>
    let fits :=
      if c = nonJoiner ∨ c = joiner then
        before.head?.any isVirama ||
          (c = nonJoiner && meetsJoining [.toLeft, .both] before && meetsJoining [.toRight, .both] rest)
      else true
    fits && joinersFit (c :: before) rest

/-! ### Direction -/

/-- Whether a character goes from right to left. -/
def goesLeft (c : Char) : Bool := [.rightToLeft, .arabicLetter, .arabicNumber].contains (direction c)

/-- The classes that go along with either direction. -/
def eitherWay : List Direction :=
  [.europeanNumber, .europeanSeparator, .commonSeparator, .europeanTerminator, .otherNeutral, .boundaryNeutral,
    .nonspacingMark]

/-- Whether a label goes in one direction, which its first character gives. It ends in a letter or a number, marks left
aside, and from right to left it has numbers of one kind only. -/
def hasDirection (label : List Char) : Bool :=
  let classes := label.map direction
  let last := (classes.reverse.dropWhile (· == .nonspacingMark)).head?
  match classes.head? with
  | none => true
  | some .leftToRight =>
    classes.all (fun d => d == .leftToRight || eitherWay.contains d) &&
      last.any ([.leftToRight, .europeanNumber].contains ·)
  | some first =>
    [.rightToLeft, .arabicLetter].contains first &&
      classes.all (fun d => [.rightToLeft, .arabicLetter, .arabicNumber].contains d || eitherWay.contains d) &&
      last.any ([.rightToLeft, .arabicLetter, .arabicNumber, .europeanNumber].contains ·) &&
      !(classes.contains .arabicNumber && classes.contains .europeanNumber)

/-! ### Labels -/

/-- What stands in front of Punycode. -/
def codedStart : List Char := "xn--".toList

/-- Whether a character is one of ASCII. -/
def isAscii (c : Char) : Bool := c.toNat < 128

/-- The most characters of Punycode that are read. -/
def maxCoded : Nat := 2000

/-- The most characters that are written in Punycode. -/
def maxPlain : Nat := 1000

/-- Whether a character is mapped to itself. -/
def isPlain (c : Char) : Bool := image? c == some [c]

/-- The characters that a label stands for, when its own have been mapped. Punycode has to stand for a label that needs
it. -/
def plainLabel? (label : List Char) : Option (List Char) :=
  match dropStart? codedStart label with
  | none => some label
  | some coded =>
    if coded.length ≤ maxCoded ∧ coded.all isAscii then
      (Punycode.decode? coded).filter fun plain =>
        !plain.all isAscii && plain.all isPlain && compose plain == plain &&
          (dropStart? codedStart plain).isNone
    else none

/-- Whether a label may stand in a name, whatever the direction. -/
def isLabel (label : List Char) : Bool := !label.head?.any isMark && joinersFit [] label

/-- A label, whose characters have been mapped, in ASCII. -/
def codedLabel? (label : List Char) : Option (List Char) :=
  if label.all isAscii then some label
  else if label.length ≤ maxPlain then some (codedStart ++ Punycode.encode label)
  else none

end FleetRouting.Domain
