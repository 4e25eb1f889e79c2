import FleetRouting.Json.Basic
import FleetRouting.Json.Token
/-!
# FleetRouting.Json.Reader

**From tokens to a value.** The reader keeps the brackets that are still open on a stack and knows what it
expects next; each token moves it one step (`Progress.step`). An unexpected token, or the end of the text, puts
`broken` where the next value, name or item would stand and closes all brackets behind it. Whatever follows a
finished value is only noted, since some callers accept it.
-/

namespace FleetRouting.Json

/-- An open bracket, with what is finished inside it in reverse. -/
inductive Frame where
  | array (items : List Json)
  | object (members : List (Option String × Json))
  /-- An object whose member `name` has no value yet. -/
  | member (members : List (Option String × Json)) (name : Option String)

/-- What may come next. -/
inductive Expect where
  | value
  /-- An item, or the end of the array. -/
  | firstItem
  /-- A comma, or the end of the array. -/
  | itemEnd
  /-- A name, or the end of the object. -/
  | firstName
  | name
  | colon
  /-- A comma, or the end of the object. -/
  | memberEnd
  deriving DecidableEq

/-- How far the reader is. -/
inductive Progress where
  | reading (stack : List Frame) (expect : Expect)
  /-- The value is complete; `rest` tells whether further tokens came. -/
  | done (value : Json) (rest : Bool)

namespace Progress

/-- Hands a finished value to the innermost open bracket. -/
def complete (value : Json) : List Frame → Progress
  | [] => .done value false
  | .array items :: stack => .reading (.array (value :: items) :: stack) .itemEnd
  | .member members name :: stack => .reading (.object ((name, value) :: members) :: stack) .memberEnd
  | .object members :: stack => .reading (.object ((none, value) :: members) :: stack) .memberEnd

/-- Closes all open brackets around `value`, which ends the text. -/
def close (value : Json) : List Frame → Json
  | [] => value
  | .array items :: stack => close (.array (value :: items).reverse) stack
  | .member members name :: stack => close (.object ((name, value) :: members).reverse) stack
  | .object members :: stack => close (.object ((none, value) :: members).reverse) stack

/-- Stops at a token that is not expected. -/
def fail (stack : List Frame) : Progress := .done (close .broken stack) true

/-- A token where a value is expected. -/
def startValue (stack : List Frame) : Token → Progress
  | .null => complete .null stack
  | .bool b => complete (.bool b) stack
  | .number text => complete (.number text) stack
  | .string text => complete (.string text) stack
  | .openBracket => .reading (.array [] :: stack) .firstItem
  | .openBrace => .reading (.object [] :: stack) .firstName
  | _ => fail stack

/-- What a token that is no name leaves in the place of a name. -/
def misname : Token → Json
  | .null | .bool _ | .openBracket | .openBrace => .misnamed
  | .number text => if numberOverflows text then .broken else .misnamed
  | _ => .broken

/-- A token where a name is expected. -/
def startMember (stack : List Frame) (token : Token) : Progress :=
  match stack, token with
  | .object members :: stack, .string name => .reading (.member members name :: stack) .colon
  | stack, token => .done (close (misname token) stack) true

/-- One further token. -/
def step : Progress → Token → Progress
  | .done value _, _ => .done value true
  | .reading stack .value, token => startValue stack token
  | .reading stack .firstItem, token =>
    match stack, token with
    | .array items :: stack, .closeBracket => complete (.array items.reverse) stack
    | stack, token => startValue stack token
  | .reading stack .itemEnd, token =>
    match stack, token with
    | .array items :: stack, .closeBracket => complete (.array items.reverse) stack
    | stack, .comma => .reading stack .value
    | stack, _ => fail stack
  | .reading stack .firstName, token =>
    match stack, token with
    | .object members :: stack, .closeBrace => complete (.object members.reverse) stack
    | stack, token => startMember stack token
  | .reading stack .name, token => startMember stack token
  | .reading stack .colon, token => if token = .colon then .reading stack .value else fail stack
  | .reading stack .memberEnd, token =>
    match stack, token with
    | .object members :: stack, .closeBrace => complete (.object members.reverse) stack
    | stack, .comma => .reading stack .name
    | stack, _ => fail stack

/-- The value read when the text ends here, and whether more followed it. -/
def finish : Progress → Json × Bool
  | .done value rest => (value, rest)
  | .reading stack _ => (close .broken stack, false)

end Progress

/-- The value at the front of a text, whatever follows it. -/
def readFront (text : String) : Json :=
  ((Token.scan text).foldl Progress.step (.reading [] .value)).finish.1

/-- The value that a text consists of; a text with anything behind the value is broken. -/
def read (text : String) : Json :=
  match ((Token.scan text).foldl Progress.step (.reading [] .value)).finish with
  | (value, false) => value
  | (_, true) => .broken

end FleetRouting.Json
