import FleetRouting.Json.Printer
import FleetRouting.Json.Reader
import FleetRouting.Proofs.Json.Token
/-!
# FleetRouting.Proofs.Json.Reader

**A value reads back from its text** (`Json.read_toText`), as long as its strings and names are text and its numbers are
written as numbers. The reader is followed from token to token: the tokens of a value in a row take it from where a
value is expected to where that value is complete (`read_emit`).
-/

namespace FleetRouting.Json

mutual

/-- A value without defects, whose numbers are written as numbers. -/
def Plain : Json → Prop
  | .null => True
  | .bool _ => True
  | .number text => IsNumber text
  | .string text => text.isSome
  | .array items => PlainItems items
  | .object members => PlainMembers members
  | .broken => False
  | .misnamed => False

/-- `Plain` for the items of an array. -/
def PlainItems : List Json → Prop
  | [] => True
  | j :: items => Plain j ∧ PlainItems items

/-- `Plain` for the members of an object. -/
def PlainMembers : List (Option String × Json) → Prop
  | [] => True
  | (name, j) :: members => name.isSome ∧ Plain j ∧ PlainMembers members

end

/-! ### What is plain -/

theorem plain_str (s : String) : (str s).Plain := rfl

theorem plain_nat (n : Nat) : (nat n).Plain := isNumber_nat n

theorem plain_array {items : List Json} (h : ∀ j ∈ items, j.Plain) : (Json.array items).Plain := by
  show PlainItems items
  induction items with
  | nil => trivial
  | cons j items ih =>
      exact ⟨h j (List.mem_cons_self ..), ih fun j' hj' => h j' (List.mem_cons_of_mem j hj')⟩

theorem plain_obj {members : List (String × Json)} (h : ∀ m ∈ members, m.2.Plain) : (obj members).Plain := by
  show PlainMembers (members.map fun m => (some m.1, m.2))
  induction members with
  | nil => trivial
  | cons m members ih =>
      exact ⟨rfl, h m (List.mem_cons_self ..), ih fun m' hm' => h m' (List.mem_cons_of_mem m hm')⟩

/-! ### The tokens of a value -/

/-- Tokens that read back from their text, in front of others. -/
structure Token.Clean (ts : List Token) : Prop where
  written : ∀ t ∈ ts, t.Written
  apart : Token.Apart ts

namespace Token.Clean

theorem cons {t : Token} {ts : List Token} (ht : t.Written) (hnumber : t.isNumber = false) (hts : Clean ts) :
    Clean (t :: ts) :=
  ⟨List.forall_mem_cons.2 ⟨ht, hts.written⟩, fun h => absurd h (by rw [hnumber]; exact Bool.false_ne_true),
    hts.apart⟩

theorem cons_number {text : String} {ts : List Token} (ht : IsNumber text) (hstart : startNumber ts = false)
    (hts : Clean ts) : Clean (.number text :: ts) :=
  ⟨List.forall_mem_cons.2 ⟨ht, hts.written⟩, fun _ => hstart, hts.apart⟩

end Token.Clean

/-- What follows an item begins with a comma or ends the array. -/
theorem startNumber_emitItems (items : List Json) {rest : List Token} (h : Token.startNumber rest = false) :
    Token.startNumber (emitItems items false rest) = false := by
  cases items with
  | nil => exact h
  | cons j items => rfl

theorem startNumber_emitMembers (members : List (Option String × Json)) {rest : List Token}
    (h : Token.startNumber rest = false) : Token.startNumber (emitMembers members false rest) = false := by
  cases members with
  | nil => exact h
  | cons m members => rfl

mutual

theorem clean_emit (j : Json) (hj : j.Plain) {rest : List Token} (hrest : Token.Clean rest)
    (hstart : Token.startNumber rest = false) : Token.Clean (emit j rest) := by
  cases j with
  | null => exact hrest.cons trivial rfl
  | bool b => exact hrest.cons trivial rfl
  | number text => exact hrest.cons_number hj hstart
  | string text => exact hrest.cons hj rfl
  | array items =>
      have hend := hrest.cons (t := .closeBracket) trivial rfl
      exact (clean_emitItems items hj true hend rfl).cons trivial rfl
  | object members =>
      have hend := hrest.cons (t := .closeBrace) trivial rfl
      exact (clean_emitMembers members hj true hend rfl).cons trivial rfl
  | broken => cases hj
  | misnamed => cases hj

theorem clean_emitItems (items : List Json) (hitems : PlainItems items) (first : Bool) {rest : List Token}
    (hrest : Token.Clean rest) (hstart : Token.startNumber rest = false) :
    Token.Clean (emitItems items first rest) := by
  cases items with
  | nil => exact hrest
  | cons j items =>
      have hafter := clean_emitItems items hitems.2 false hrest hstart
      have htokens := clean_emit j hitems.1 hafter (startNumber_emitItems items hstart)
      cases first with
      | true => exact htokens
      | false => exact htokens.cons trivial rfl

theorem clean_emitMembers (members : List (Option String × Json)) (hmembers : PlainMembers members) (first : Bool)
    {rest : List Token} (hrest : Token.Clean rest) (hstart : Token.startNumber rest = false) :
    Token.Clean (emitMembers members first rest) := by
  cases members with
  | nil => exact hrest
  | cons m members =>
      obtain ⟨name, j⟩ := m
      obtain ⟨hname, hj, hmembers⟩ := hmembers
      have hafter := clean_emitMembers members hmembers false hrest hstart
      have htokens := clean_emit j hj hafter (startNumber_emitMembers members hstart)
      have hnamed := (htokens.cons (t := .colon) trivial rfl).cons (t := .string name) hname rfl
      cases first with
      | true => exact hnamed
      | false => exact hnamed.cons trivial rfl

end

/-! ### Reading them -/

/-- Where an item or the end is expected, a value is read as where a value is expected. -/
theorem foldl_firstItem (j : Json) (hj : j.Plain) (stack : List Frame) (rest : List Token) :
    (emit j rest).foldl Progress.step (.reading stack .firstItem) =
      (emit j rest).foldl Progress.step (.reading stack .value) := by
  cases j with
  | broken => cases hj
  | misnamed => cases hj
  | _ => cases stack with
      | nil => rfl
      | cons frame stack => cases frame <;> rfl

mutual

/-- The tokens of a value complete it. -/
theorem read_emit (j : Json) (hj : j.Plain) (stack : List Frame) (rest : List Token) :
    (emit j rest).foldl Progress.step (.reading stack .value) =
      rest.foldl Progress.step (Progress.complete j stack) := by
  cases j with
  | null => rfl
  | bool b => rfl
  | number text => rfl
  | string text => rfl
  | array items =>
      cases items with
      | nil => rfl
      | cons j items =>
          -- behind the bracket the first item or the end is expected
          show (emit j (emitItems items false (.closeBracket :: rest))).foldl Progress.step
            (.reading (.array [] :: stack) .firstItem) = _
          rw [foldl_firstItem j hj.1, read_emit j hj.1]
          exact read_emitItems items hj.2 [j] stack rest
  | object members =>
      cases members with
      | nil => rfl
      | cons m members =>
          obtain ⟨name, j⟩ := m
          -- brace, name and colon lead to the value of the first member
          show (emit j (emitMembers members false (.closeBrace :: rest))).foldl Progress.step
            (.reading (.member [] name :: stack) .value) = _
          rw [read_emit j hj.2.1]
          exact read_emitMembers members hj.2.2 [(name, j)] stack rest
  | broken => cases hj
  | misnamed => cases hj

/-- The tokens of further items complete an array. -/
theorem read_emitItems (items : List Json) (hitems : PlainItems items) (read : List Json) (stack : List Frame)
    (rest : List Token) :
    (emitItems items false (.closeBracket :: rest)).foldl Progress.step
        (.reading (.array read :: stack) .itemEnd) =
      rest.foldl Progress.step (Progress.complete (.array (read.reverse ++ items)) stack) := by
  cases items with
  | nil =>
      rw [List.append_nil]
      rfl
  | cons j items =>
      show (emit j (emitItems items false (.closeBracket :: rest))).foldl Progress.step
        (.reading (.array read :: stack) .value) = _
      rw [read_emit j hitems.1]
      show (emitItems items false (.closeBracket :: rest)).foldl Progress.step
        (.reading (.array (j :: read) :: stack) .itemEnd) = _
      rw [read_emitItems items hitems.2 (j :: read) stack rest, List.reverse_cons, List.append_assoc]
      rfl

/-- The tokens of further members complete an object. -/
theorem read_emitMembers (members : List (Option String × Json)) (hmembers : PlainMembers members)
    (read : List (Option String × Json)) (stack : List Frame) (rest : List Token) :
    (emitMembers members false (.closeBrace :: rest)).foldl Progress.step
        (.reading (.object read :: stack) .memberEnd) =
      rest.foldl Progress.step (Progress.complete (.object (read.reverse ++ members)) stack) := by
  cases members with
  | nil =>
      rw [List.append_nil]
      rfl
  | cons m members =>
      obtain ⟨name, j⟩ := m
      show (emit j (emitMembers members false (.closeBrace :: rest))).foldl Progress.step
        (.reading (.member read name :: stack) .value) = _
      rw [read_emit j hmembers.2.1]
      show (emitMembers members false (.closeBrace :: rest)).foldl Progress.step
        (.reading (.object ((name, j) :: read) :: stack) .memberEnd) = _
      rw [read_emitMembers members hmembers.2.2 ((name, j) :: read) stack rest, List.reverse_cons,
        List.append_assoc]
      rfl

end

/-- The text of a value is that of its tokens. -/
theorem toList_toText (j : Json) : j.toText.toList = j.tokens.flatMap fun t => t.text.toList := by
  have hfold : ∀ (ts : List Token) (text : String),
      (ts.foldl (fun text token => text ++ token.text) text).toList =
        text.toList ++ ts.flatMap fun t => t.text.toList := by
    intro ts
    induction ts with
    | nil => exact fun text => (List.append_nil _).symm
    | cons t ts ih =>
        intro text
        rw [List.foldl_cons, ih, String.toList_append, List.flatMap_cons, List.append_assoc]
  exact hfold j.tokens ""

/-- **What is written reads back.** -/
theorem read_toText {j : Json} (hj : j.Plain) : read j.toText = j := by
  have hempty : Token.Clean [] := ⟨nofun, trivial⟩
  have hclean := clean_emit j hj hempty rfl
  have hscan : Token.scan j.toText = j.tokens := Token.scan_of_written hclean.written hclean.apart (toList_toText j)
  rw [read, hscan, tokens, read_emit j hj]
  rfl

end FleetRouting.Json
