import FleetRouting.Json.Basic
import FleetRouting.Json.Token
/-!
# FleetRouting.Json.Printer

**From a value to its tokens and its text.** The text has no blanks between tokens.
-/

namespace FleetRouting.Json

mutual

/-- The tokens of a value, in front of `rest`. -/
def emit (j : Json) (rest : List Token) : List Token :=
  match j with
  | .null => .null :: rest
  | .bool b => .bool b :: rest
  | .number text => .number text :: rest
  | .string text => .string text :: rest
  | .array items => .openBracket :: emitItems items true (.closeBracket :: rest)
  | .object members => .openBrace :: emitMembers members true (.closeBrace :: rest)
  | .broken => .junk :: rest
  | .misnamed => .junk :: rest

/-- The tokens of the items of an array; a comma stands before all but the first. -/
def emitItems (items : List Json) (first : Bool) (rest : List Token) : List Token :=
  match items with
  | [] => rest
  | j :: items =>
    let tokens := emit j (emitItems items false rest)
    if first then tokens else .comma :: tokens

/-- The tokens of the members of an object. -/
def emitMembers (members : List (Option String × Json)) (first : Bool) (rest : List Token) :
    List Token :=
  match members with
  | [] => rest
  | (name, j) :: members =>
    let tokens := .string name :: .colon :: emit j (emitMembers members false rest)
    if first then tokens else .comma :: tokens

end

/-- The tokens of a value. -/
def tokens (j : Json) : List Token := emit j []

/-- The text of a value. -/
def toText (j : Json) : String := j.tokens.foldl (fun text token => text ++ token.text) ""

end FleetRouting.Json
