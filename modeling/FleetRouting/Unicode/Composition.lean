import FleetRouting.Unicode.Decomposition
import FleetRouting.Unicode.Mark
/-!
# FleetRouting.Unicode.Composition

**Composed text.** The same character can be written as one code point or as a letter with marks. `compose` gives the
form in which everything is put together: characters are taken apart, the marks of a letter are put in the order of
their classes, and then each letter takes up the marks that it forms a character with, unless a mark that it does not
take up stands in the way.
-/

namespace FleetRouting.Unicode

/-! ### Syllables of Hangul -/

/-- The first syllable, and the number of syllables. -/
def firstSyllable : Nat := 0xac00

/-- The leading consonants: the first one and their number. -/
def leads : Nat × Nat := (0x1100, 19)

/-- The vowels: the first one and their number. -/
def vowels : Nat × Nat := (0x1161, 21)

/-- The trailing consonants: the code point in front of the first one, and their number, no consonant counted. -/
def tails : Nat × Nat := (0x11a7, 28)

/-- How far a character lies behind the first one of a group. -/
def indexIn? (group : Nat × Nat) (c : Char) : Option Nat :=
  if group.1 ≤ c.toNat ∧ c.toNat < group.1 + group.2 then some (c.toNat - group.1) else none

/-- The number of a syllable. -/
def syllable? (c : Char) : Option Nat :=
  indexIn? (firstSyllable, leads.2 * vowels.2 * tails.2) c

/-- The letters of a syllable, by its number. -/
def letters (n : Nat) : List Char :=
  let pair := [leads.1 + n / tails.2 / vowels.2, vowels.1 + n / tails.2 % vowels.2]
  (pair ++ if n % tails.2 = 0 then [] else [tails.1 + n % tails.2]).map Char.ofNat

/-- The syllable that two characters form: two letters, or a syllable without a trailing consonant and one. -/
def joinSyllable? (a b : Char) : Option Char :=
  match indexIn? leads a, indexIn? vowels b, syllable? a, indexIn? tails b with
  | some l, some v, _, _ => some (Char.ofNat (firstSyllable + (l * vowels.2 + v) * tails.2))
  | _, _, some s, some t =>
    if s % tails.2 = 0 ∧ 0 < t then some (Char.ofNat (firstSyllable + s + t)) else none
  | _, _, _, _ => none

/-! ### Taking apart -/

/-- What a character is made of. -/
def parts (c : Char) : List Char :=
  match syllable? c, stretch? decompositions c with
  | some n, _ => letters n
  | none, some s => (s.data.drop 1).map Char.ofNat
  | none, none => [c]

/-- Puts a character behind others, which have the last one first. A mark goes in front of marks of higher classes. -/
def settle (c : Char) : List Char → List Char
  | [] => [c]
  | d :: rest =>
    if 0 < combiningClass c ∧ combiningClass c < combiningClass d then d :: settle c rest
    else c :: d :: rest

/-- The text with all characters taken apart, and the marks in order. -/
def decompose (cs : List Char) : List Char :=
  ((cs.flatMap parts).foldl (fun done c => settle c done) []).reverse

/-! ### Putting together -/

/-- The character that two characters form. -/
def composite? (a b : Char) : Option Char :=
  match joinSyllable? a b with
  | some c => some c
  | none =>
    let whole := 1 :: (parts a ++ [b]).map Char.toNat
    (decompositions.find? fun s => s.data == whole).map fun s => Char.ofNat s.first

/-- Whether a mark, or what stands in its place, can reach the letter behind which `passed` stand, the last one
first. -/
def reaches (c : Char) : List Char → Bool
  | [] => true
  | d :: _ => combiningClass d < combiningClass c

/-- Puts characters together with a letter, behind which `passed` were not taken up, the last one first. -/
def composeAfter (letter : Char) (passed : List Char) : List Char → List Char
  | [] => letter :: passed.reverse
  | c :: rest =>
    match if reaches c passed then composite? letter c else none with
    | some whole => composeAfter whole passed rest
    | none =>
      if combiningClass c = 0 then letter :: passed.reverse ++ composeAfter c [] rest
      else composeAfter letter (c :: passed) rest

/-- The composed form of a text. -/
def compose (cs : List Char) : List Char :=
  match decompose cs with
  | [] => []
  | c :: rest => composeAfter c [] rest

end FleetRouting.Unicode
