import FleetRouting.Http.Token
import FleetRouting.Text.Fold
/-!
# FleetRouting.Http.MediaType

**Media types, as far as it matters whether a body is JSON.** A media type is `type/subtype`, perhaps followed by
parameters `; name=value`. A body is JSON under `application/json` and under every application type whose
subtype ends in `+json`.
-/

namespace FleetRouting.MediaType

open Text

/-- A character that may stand in a quoted value, apart from the quote that ends it. -/
def isQuotedChar (c : Char) : Bool := 31 < c.toNat && c.toNat ≠ 127

/-- The rest behind the value of a parameter. A quoted value has one character at least, which may be a quote;
blanks may follow it. A value without quotes may be empty at the end of the text. -/
def skipValue? : List Char → Option (List Char)
  | '"' :: first :: rest =>
    if isQuotedChar first then
      match rest.span fun c => isQuotedChar c && c ≠ '"' with
      | (_, '"' :: rest) => some (rest.dropWhile (· = ' '))
      | _ => none
    else none
  | cs =>
    match takeToken cs with
    | ([], ';' :: _) => none
    | (_, rest) => some rest

/-- Whether a list of parameters is well formed; it may be empty, or end in a semicolon. The first argument bounds
the number of parameters. -/
def areParameters : Nat → List Char → Bool
  | 0, _ => false
  | bound + 1, cs =>
    match cs.dropWhile (· = ' ') with
    | [] => true
    | cs =>
      match takeToken cs with
      | (_ :: _, '=' :: rest) =>
        match skipValue? rest with
        | some [] => true
        | some (';' :: rest) => areParameters bound rest
        | _ => false
      | _ => false

/-- Whether a subtype says JSON: as a whole, or on one side of its last plus sign. -/
def saysJson (subtype : List Char) : Bool :=
  let json := "json".toList
  match subtype.reverse.span (· ≠ '+') with
  | (suffix, '+' :: name@(_ :: _)) => suffix.reverse == json || name.reverse == json
  | _ => subtype == json

/-- A character that may stand in a media type. -/
def isVisible (c : Char) : Bool := c = '\t' || (31 < c.toNat && c.toNat < 127)

/-- Whether a media type is one of JSON. -/
def isJson (contentType : String) : Bool :=
  contentType.toList.all isVisible &&
    match takeToken (fold contentType).toList with
    | (kind, '/' :: rest) =>
      match takeToken rest with
      | (subtype@(_ :: _), []) => kind == "application".toList && saysJson subtype
      | (subtype@(_ :: _), ';' :: parameters) =>
        kind == "application".toList && saysJson subtype &&
          areParameters (parameters.length + 1) parameters
      | _ => false
    | _ => false

end FleetRouting.MediaType
