import FleetRouting.Text.Hex
/-!
# FleetRouting.Json.Token

**The tokens of JSON.** `Token.scan` cuts a text into tokens one character at a time; `Token.text` writes a token.
Scanning ends at the first character that no token can hold, with the token `junk` in its place. An escape in a
string is kept as its number until the string ends, when surrogate pairs are joined (`joinUnits`).
-/

namespace FleetRouting.Json

open Text (hexValue? hexDigit)

/-- A token of JSON text. -/
inductive Token where
  | openBracket
  | closeBracket
  | openBrace
  | closeBrace
  | comma
  | colon
  | null
  | bool (value : Bool)
  | number (text : String)
  | string (text : Option String)
  /-- What cannot be part of a token. -/
  | junk
  deriving DecidableEq, Repr, Inhabited

/-! ### Strings -/

/-- A character of a string literal, or the number of a four-digit escape. -/
inductive Unit where
  | char (c : Char)
  | code (n : Nat)
  deriving DecidableEq, Repr

/-- The character that a one-letter escape stands for. -/
def escaped? : Char → Option Char
  | '"' => some '"'
  | '\\' => some '\\'
  | '/' => some '/'
  | 'b' => some '\x08'
  | 'f' => some '\x0c'
  | 'n' => some '\n'
  | 'r' => some '\r'
  | 't' => some '\t'
  | _ => none

/-- True for the first half of a surrogate pair. -/
def isHighHalf (n : Nat) : Bool := decide (0xD800 ≤ n ∧ n ≤ 0xDBFF)

/-- True for the second half of a surrogate pair. -/
def isLowHalf (n : Nat) : Bool := decide (0xDC00 ≤ n ∧ n ≤ 0xDFFF)

/-- The text of a string literal: the halves of a surrogate pair join into one character, and half a pair
alone is no text. -/
def joinUnits : List Unit → Option (List Char)
  | [] => some []
  | .char c :: rest => (joinUnits rest).map (c :: ·)
  | .code n :: .code m :: rest =>
    if isHighHalf n then
      if isLowHalf m then
        (joinUnits rest).map (Char.ofNat (0x10000 + (n - 0xD800) * 0x400 + (m - 0xDC00)) :: ·)
      else none
    else if isLowHalf n then none
    else (joinUnits (.code m :: rest)).map (Char.ofNat n :: ·)
  | .code n :: rest =>
    if isHighHalf n || isLowHalf n then none else (joinUnits rest).map (Char.ofNat n :: ·)

/-! ### Numbers -/

/-- How far a number has been read. -/
inductive NumberPart where
  /-- Behind the minus sign. -/
  | sign
  /-- Behind a leading zero, which no digit follows. -/
  | zero
  | whole
  /-- Behind the point. -/
  | point
  | fraction
  /-- Behind the letter of the exponent. -/
  | letter
  | exponentSign
  | exponent
  deriving DecidableEq, Repr

/-- The part that a further character belongs to, if the number can go on with it. -/
def NumberPart.next? (part : NumberPart) (c : Char) : Option NumberPart :=
  match part with
  | .sign => if c = '0' then some .zero else if c.isDigit then some .whole else none
  | .zero =>
    if c = '.' then some .point else if c = 'e' ∨ c = 'E' then some .letter else none
  | .whole =>
    if c.isDigit then some .whole
    else if c = '.' then some .point else if c = 'e' ∨ c = 'E' then some .letter else none
  | .point => if c.isDigit then some .fraction else none
  | .fraction =>
    if c.isDigit then some .fraction else if c = 'e' ∨ c = 'E' then some .letter else none
  | .letter =>
    if c.isDigit then some .exponent
    else if c = '+' ∨ c = '-' then some .exponentSign else none
  | .exponentSign => if c.isDigit then some .exponent else none
  | .exponent => if c.isDigit then some .exponent else none

/-- Whether a number may end after this part, in front of `c`. -/
def NumberPart.mayEnd (part : NumberPart) (c : Char) : Bool :=
  match part with
  | .zero => !c.isDigit
  | .whole | .fraction | .exponent => true
  | _ => false

/-! ### Scanning -/

/-- The token that is being read. -/
inductive Partial where
  | idle
  /-- A word, of which these characters are still to come. -/
  | word (missing : List Char) (token : Token)
  /-- A number, with its characters so far in reverse. -/
  | number (part : NumberPart) (chars : List Char)
  /-- A string, with its units so far in reverse. -/
  | string (units : List Unit)
  /-- Behind the backslash of an escape. -/
  | escape (units : List Unit)
  /-- Within the digits of an escape: how many are to come, and their value so far. -/
  | hex (units : List Unit) (missing : Nat) (value : Nat)
  /-- Behind a character that no token can hold. -/
  | stopped
  deriving DecidableEq, Repr

/-- A scan in progress: the finished tokens in reverse, and the unfinished one. -/
structure Scan where
  tokens : List Token := []
  current : Partial := .idle

namespace Scan

/-- Ends the scan at a character that no token can hold. -/
def stop (s : Scan) : Scan := ⟨.junk :: s.tokens, .stopped⟩

/-- One character between tokens. -/
def start (tokens : List Token) (c : Char) : Scan :=
  match c with
  | ' ' | '\n' | '\r' | '\t' => ⟨tokens, .idle⟩
  | '[' => ⟨.openBracket :: tokens, .idle⟩
  | ']' => ⟨.closeBracket :: tokens, .idle⟩
  | '\x7b' => ⟨.openBrace :: tokens, .idle⟩
  | '\x7d' => ⟨.closeBrace :: tokens, .idle⟩
  | ',' => ⟨.comma :: tokens, .idle⟩
  | ':' => ⟨.colon :: tokens, .idle⟩
  | '"' => ⟨tokens, .string []⟩
  | 'n' => ⟨tokens, .word ['u', 'l', 'l'] .null⟩
  | 't' => ⟨tokens, .word ['r', 'u', 'e'] (.bool true)⟩
  | 'f' => ⟨tokens, .word ['a', 'l', 's', 'e'] (.bool false)⟩
  | '-' => ⟨tokens, .number .sign [c]⟩
  | '0' => ⟨tokens, .number .zero [c]⟩
  | c => if c.isDigit then ⟨tokens, .number .whole [c]⟩ else stop ⟨tokens, .idle⟩

/-- One further character. -/
def step (s : Scan) (c : Char) : Scan :=
  match s.current with
  | .idle => start s.tokens c
  | .word missing token =>
    match missing with
    | [] => s.stop
    | d :: rest =>
      if c ≠ d then s.stop
      else if rest.isEmpty then ⟨token :: s.tokens, .idle⟩
      else ⟨s.tokens, .word rest token⟩
  | .number part chars =>
    match part.next? c with
    | some part => ⟨s.tokens, .number part (c :: chars)⟩
    | none =>
      if part.mayEnd c then start (.number (String.ofList chars.reverse) :: s.tokens) c
      else s.stop
  | .string units =>
    if c = '"' then ⟨.string ((joinUnits units.reverse).map String.ofList) :: s.tokens, .idle⟩
    else if c = '\\' then ⟨s.tokens, .escape units⟩
    else if c.toNat < 0x20 then s.stop
    else ⟨s.tokens, .string (.char c :: units)⟩
  | .escape units =>
    if c = 'u' then ⟨s.tokens, .hex units 4 0⟩
    else match escaped? c with
      | some d => ⟨s.tokens, .string (.char d :: units)⟩
      | none => s.stop
  | .hex units missing value =>
    match hexValue? c with
    | none => s.stop
    | some d =>
      let value := 16 * value + d
      if missing ≤ 1 then ⟨s.tokens, .string (.code value :: units)⟩
      else ⟨s.tokens, .hex units (missing - 1) value⟩
  | .stopped => s

/-- The tokens of a text that ends here. -/
def finish (s : Scan) : List Token :=
  match s.current with
  | .idle | .stopped => s.tokens.reverse
  | .number part chars =>
    if part.mayEnd ' ' then (.number (String.ofList chars.reverse) :: s.tokens).reverse
    else (.junk :: s.tokens).reverse
  | _ => (.junk :: s.tokens).reverse

end Scan

namespace Token

/-- The tokens of a text, up to the first character that no token can hold. -/
def scan (text : String) : List Token := (text.foldl Scan.step {}).finish

/-! ### Writing -/

/-- The characters that stand for `c` within a string literal. -/
def quoteChar (c : Char) : List Char :=
  match c with
  | '"' => ['\\', '"']
  | '\\' => ['\\', '\\']
  | '\x08' => ['\\', 'b']
  | '\x0c' => ['\\', 'f']
  | '\n' => ['\\', 'n']
  | '\r' => ['\\', 'r']
  | '\t' => ['\\', 't']
  | c =>
    if c.toNat < 0x20 then ['\\', 'u', '0', '0', hexDigit (c.toNat / 16), hexDigit (c.toNat % 16)]
    else [c]

/-- A string literal. -/
def quote (s : String) : String :=
  String.ofList ('"' :: (s.toList.flatMap quoteChar ++ ['"']))

/-- A token as text. Half a surrogate pair is written as one. -/
def text : Token → String
  | .openBracket => "["
  | .closeBracket => "]"
  | .openBrace => "\x7b"
  | .closeBrace => "\x7d"
  | .comma => ","
  | .colon => ":"
  | .null => "null"
  | .bool true => "true"
  | .bool false => "false"
  | .number text => text
  | .string (some s) => quote s
  | .string none => "\"\\ud800\""
  | .junk => "?"

end Token

end FleetRouting.Json
