import FleetRouting.Text.Hex
/-!
# FleetRouting.Config.Toml.Text

**Characters, texts and keys of TOML.** Every reader takes characters from the front of a text and gives what is left,
or fails. Lines end in a line feed alone. A text stands in double quotes, with escapes, or in single quotes, without
any; three quotes open one that may extend over several lines, and up to two more quotes may stand right before the
three that close it.
-/

namespace FleetRouting.Toml

open Text

/-- Reads something from the front of a text. -/
abbrev Reader := StateT (List Char) Option

/-- Takes a character that has to be there. -/
def expect (c : Char) : Reader Unit := fun cs =>
  match cs with
  | d :: rest => if d = c then some ((), rest) else none
  | [] => none

/-- Takes a character if it is there, and tells whether it was. -/
def accept (c : Char) : Reader Bool := fun cs =>
  match cs with
  | d :: rest => if d = c then some (true, rest) else some (false, cs)
  | [] => some (false, [])

/-- Takes a word that has to be there. -/
def expectWord (word : List Char) : Reader Unit := fun cs =>
  if word.isPrefixOf cs then some ((), cs.drop word.length) else none

/-! ### Blanks -/

/-- A blank within a line. -/
def isSpace (c : Char) : Bool := c = ' ' || c = '\t'

/-- Passes over blanks within the line. -/
def skipSpaces : Reader Unit := modify (·.dropWhile isSpace)

/-- A character that may stand in a text or a comment. -/
def isPlain (c : Char) : Bool := c = '\t' || (31 < c.toNat && c.toNat ≠ 127)

/-- What follows the comment at the front, if there is one. -/
def dropComment : List Char → List Char
  | '#' :: rest => rest.dropWhile isPlain
  | cs => cs

/-- What follows the blanks, comments and line breaks at the front, which may be within a comment. -/
def dropLines (inComment : Bool) : List Char → List Char
  | [] => []
  | c :: rest =>
    if c = '\n' then dropLines false rest
    else if inComment then if isPlain c then dropLines true rest else c :: rest
    else if isSpace c then dropLines false rest
    else if c = '#' then dropLines true rest
    else c :: rest

/-- Passes over blanks, comments and line breaks. -/
def skipLines : Reader Unit := modify (dropLines false)

/-! ### Texts -/

/-- How far a text with escapes has been read. -/
inductive Progress where
  /-- Among its characters; perhaps in front of blanks and line breaks that do not count. -/
  | plain (skipping : Bool)
  /-- Behind a backslash. -/
  | opened
  /-- Behind a backslash and blanks, where the line has to end. -/
  | ending
  /-- Among the digits of a code point, with how many to come. -/
  | digits (left value : Nat)

/-- The character that a letter behind a backslash stands for. -/
def escaped? : Char → Option Char
  | 'b' => some '\x08'
  | 't' => some '\t'
  | 'n' => some '\n'
  | 'f' => some '\x0c'
  | 'r' => some '\r'
  | '"' => some '"'
  | '\\' => some '\\'
  | _ => none

/-- The character of a code point. -/
def character? (code : Nat) : Option Char := if code.isValidChar then some (Char.ofNat code) else none

/-- Whether a text over several lines goes on behind a quote that `more` quotes follow: one or two of them are part of
the text. -/
def goesOn (more : Nat) : Bool := more < 2

/-- The end of a text over several lines, at a quote that two to four quotes follow: three of them close the text, and
those in front of the three are part of it. -/
def close? (quote : Char) (done rest : List Char) : Option (List Char × List Char) :=
  let more := (rest.takeWhile (· = quote)).length
  if more < 5 then some ((List.replicate (more - 2) quote ++ done).reverse, rest.drop more) else none

/-- The rest of a text in double quotes, over several lines or on one; `done` has what was read, the last character
first. -/
def readQuoted (long : Bool) : Progress → List Char → List Char → Option (List Char × List Char)
  | _, _, [] => none
  | .plain skipping, done, c :: rest =>
    if skipping ∧ (isSpace c ∨ c = '\n') then readQuoted long (.plain true) done rest
    else if c = '\\' then readQuoted long .opened done rest
    else if c = '"' then
      if !long then some (done.reverse, rest)
      else if goesOn (rest.takeWhile (· = c)).length then readQuoted long (.plain false) (c :: done) rest
      else close? c done rest
    else if isPlain c ∨ (long ∧ c = '\n') then readQuoted long (.plain false) (c :: done) rest
    else none
  | .opened, done, c :: rest =>
    match escaped? c with
    | some d => readQuoted long (.plain false) (d :: done) rest
    | none =>
      if c = 'u' then readQuoted long (.digits 4 0) done rest
      else if c = 'U' then readQuoted long (.digits 8 0) done rest
      else if long ∧ isSpace c then readQuoted long .ending done rest
      else if long ∧ c = '\n' then readQuoted long (.plain true) done rest
      else none
  | .ending, done, c :: rest =>
    if isSpace c then readQuoted long .ending done rest
    else if c = '\n' then readQuoted long (.plain true) done rest
    else none
  | .digits left value, done, c :: rest =>
    match hexValue? c with
    | none => none
    | some d =>
      let value := 16 * value + d
      if left ≤ 1 then
        match character? value with
        | some c => readQuoted long (.plain false) (c :: done) rest
        | none => none
      else readQuoted long (.digits (left - 1) value) done rest

/-- The rest of a text in single quotes, over several lines or on one. -/
def readLiteral (long : Bool) : List Char → List Char → Option (List Char × List Char)
  | _, [] => none
  | done, c :: rest =>
    if c = '\'' then
      if !long then some (done.reverse, rest)
      else if goesOn (rest.takeWhile (· = c)).length then readLiteral long (c :: done) rest
      else close? c done rest
    else if isPlain c ∨ (long ∧ c = '\n') then readLiteral long (c :: done) rest
    else none

/-- A line break right behind the opening quotes does not count. -/
def dropFirstBreak : List Char → List Char
  | '\n' :: rest => rest
  | cs => cs

/-- A text in quotes, which may extend over several lines where that is allowed. -/
def text (mayBeLong : Bool) : Reader String := fun cs =>
  let read := match cs with
    | '"' :: '"' :: '"' :: rest =>
      if mayBeLong then readQuoted true (.plain false) [] (dropFirstBreak rest) else none
    | '"' :: rest => readQuoted false (.plain false) [] rest
    | '\'' :: '\'' :: '\'' :: rest =>
      if mayBeLong then readLiteral true [] (dropFirstBreak rest) else none
    | '\'' :: rest => readLiteral false [] rest
    | _ => none
  read.map fun (s, rest) => (String.ofList s, rest)

/-! ### Keys -/

/-- A character of a key without quotes. -/
def isKeyChar (c : Char) : Bool := c.isAlphanum || c = '_' || c = '-'

/-- A key. -/
def key : Reader String := fun cs =>
  match cs.span isKeyChar with
  | ([], _) => text false cs
  | (name, rest) => some (String.ofList name, rest)

/-- The most levels that keys in a path, or brackets around a value, may have. -/
def maxDepth : Nat := 79

/-- At most so many keys with points between them. -/
def keys : Nat → Reader (List String)
  | 0 => failure
  | left + 1 => do
    skipSpaces
    let first ← key
    skipSpaces
    if ← accept '.' then return first :: (← keys left)
    return [first]

/-- A path of keys. -/
def path : Reader (List String) := keys maxDepth

end FleetRouting.Toml
