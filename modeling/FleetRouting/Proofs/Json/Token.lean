import FleetRouting.Json.Token
import Mathlib.Tactic.Common
import Mathlib.Tactic.IntervalCases
/-!
# FleetRouting.Proofs.Json.Token

**Tokens read back as they are written.** Between two tokens the scan is idle or still holds a number that the next
character ends (`Scan.Holds`). Every token that can be written takes the scan from one such state to the next, so the
text of a list of tokens in which no two numbers meet scans to that list (`Token.scan_of_written`).
-/

namespace FleetRouting.Json

open Text (hexDigit hexValue?_hexDigit)

/-! ### Between two tokens -/

/-- True for a character that no number goes on with. -/
def endsNumber (c : Char) : Bool :=
  !c.isDigit && c ≠ '.' && c ≠ 'e' && c ≠ 'E' && c ≠ '+' && c ≠ '-'

namespace Scan

/-- The scan has read `tokens`, in reverse, although it may not know yet that the last one is finished. -/
structure Holds (s : Scan) (tokens : List Token) : Prop where
  finish : s.finish = tokens.reverse
  next : ∀ c, endsNumber c → s.step c = start tokens c

theorem holds_idle (tokens : List Token) : Holds ⟨tokens, .idle⟩ tokens := ⟨rfl, fun _ _ => rfl⟩

/-- The parts that a number may end with. -/
def isComplete : NumberPart → Bool
  | .zero => true
  | .whole => true
  | .fraction => true
  | .exponent => true
  | _ => false

theorem holds_number (tokens : List Token) {part : NumberPart} (chars : List Char) (hpart : isComplete part) :
    Holds ⟨tokens, .number part chars⟩ (.number (String.ofList chars.reverse) :: tokens) where
  finish := by
    cases part with
    | zero => rfl
    | whole => rfl
    | fraction => rfl
    | exponent => rfl
    | _ => cases hpart
  next c hc := by
    simp only [endsNumber, Bool.and_eq_true, Bool.not_eq_true', decide_eq_true_eq] at hc
    obtain ⟨⟨⟨⟨⟨hdigit, hpoint⟩, he⟩, hE⟩, -⟩, -⟩ := hc
    -- the character neither belongs to the number nor comes too early for it to end
    have hnext : part.next? c = none := by
      cases part with
      | zero => simp [NumberPart.next?, hpoint, he, hE]
      | whole => simp [NumberPart.next?, hdigit, hpoint, he, hE]
      | fraction => simp [NumberPart.next?, hdigit, he, hE]
      | exponent => simp [NumberPart.next?, hdigit]
      | _ => cases hpart
    have hend : part.mayEnd c = true := by
      cases part with
      | zero => simp [NumberPart.mayEnd, hdigit]
      | whole => rfl
      | fraction => rfl
      | exponent => rfl
      | _ => cases hpart
    simp only [step, hnext, hend, if_true]

end Scan

/-! ### Strings -/

/-- What the scan keeps of a character within a string literal. -/
def quoted (c : Char) : Unit :=
  if c.toNat < 0x20 ∧ c ≠ '\x08' ∧ c ≠ '\x0c' ∧ c ≠ '\n' ∧ c ≠ '\r' ∧ c ≠ '\t' then .code c.toNat else .char c

/-- A character of a string literal is read as what is kept of it. -/
theorem scan_quoteChar (tokens : List Token) (units : List Unit) (c : Char) :
    (Token.quoteChar c).foldl Scan.step ⟨tokens, .string units⟩ = ⟨tokens, .string (quoted c :: units)⟩ := by
  unfold Token.quoteChar
  split
  -- seven characters have an escape of their own
  · rfl
  · rfl
  · rfl
  · rfl
  · rfl
  · rfl
  · rfl
  · next h1 h2 h3 h4 h5 h6 h7 =>
      split
      · next hlow =>
          have hunit : quoted c = .code c.toNat := if_pos ⟨hlow, h3, h4, h5, h6, h7⟩
          have hhigh : c.toNat / 16 < 16 := by omega
          have hlow : c.toNat % 16 < 16 := Nat.mod_lt _ (by decide)
          rw [hunit]
          show Scan.step (Scan.step ⟨tokens, .hex units 2 0⟩ (hexDigit (c.toNat / 16))) (hexDigit (c.toNat % 16)) = _
          have hvalue : 16 * (c.toNat / 16) + c.toNat % 16 = c.toNat := Nat.div_add_mod _ _
          simp [Scan.step, hexValue?_hexDigit _ hhigh, hexValue?_hexDigit _ hlow, hvalue]
      · next hhigh =>
          have hunit : quoted c = .char c := if_neg fun h => hhigh h.1
          rw [hunit]
          simp only [List.foldl_cons, List.foldl_nil, Scan.step, if_neg h1, if_neg h2, if_neg hhigh]

theorem isHighHalf_of_lt {n : Nat} (h : n < 0x20) : isHighHalf n = false := decide_eq_false (by omega)

theorem isLowHalf_of_lt {n : Nat} (h : n < 0x20) : isLowHalf n = false := decide_eq_false (by omega)

/-- What is kept of a character is itself, or the number of a control character. -/
theorem quoted_cases (c : Char) : quoted c = .char c ∨ quoted c = .code c.toNat ∧ c.toNat < 0x20 := by
  unfold quoted
  split
  · next h => exact .inr ⟨rfl, h.1⟩
  · exact .inl rfl

/-- What is kept of the characters of a text gives the text. -/
theorem joinUnits_quoted (cs : List Char) : joinUnits (cs.map quoted) = some cs := by
  induction cs with
  | nil => rfl
  | cons c cs ih =>
      rw [List.map_cons]
      rcases quoted_cases c with hc | ⟨hc, hlow⟩
      · rw [hc, joinUnits, ih]
        rfl
      · -- a control character is no half of a pair, and neither is what follows it
        rw [hc]
        cases cs with
        | nil => simp [joinUnits, isHighHalf_of_lt hlow, isLowHalf_of_lt hlow]
        | cons d cs =>
            rw [List.map_cons] at ih ⊢
            rcases quoted_cases d with hd | ⟨hd, hdlow⟩
            · rw [hd] at ih ⊢
              simpa [joinUnits, isHighHalf_of_lt hlow, isLowHalf_of_lt hlow] using ih
            · rw [hd] at ih ⊢
              rw [joinUnits, isHighHalf_of_lt hlow, isLowHalf_of_lt hlow, ih]
              simp

/-- A string literal is read as one token. -/
theorem scan_quote {s : Scan} {tokens : List Token} (hs : s.Holds tokens) (text : String) :
    (Token.quote text).toList.foldl Scan.step s = ⟨.string (some text) :: tokens, .idle⟩ := by
  have hbody : ∀ (cs : List Char) (units : List Unit),
      (cs.flatMap Token.quoteChar).foldl Scan.step ⟨tokens, .string units⟩ =
        ⟨tokens, .string ((cs.map quoted).reverse ++ units)⟩ := by
    intro cs
    induction cs with
    | nil => exact fun _ => rfl
    | cons c cs ih =>
        intro units
        rw [List.flatMap_cons, List.foldl_append, scan_quoteChar, ih]
        simp
  -- the first quotation mark ends what was held, the second one joins what was kept
  rw [Token.quote, String.toList_ofList, List.foldl_cons, hs.next '"' (by decide), List.foldl_append]
  show List.foldl Scan.step (List.foldl Scan.step ⟨tokens, .string []⟩ _) ['"'] = _
  rw [hbody, List.append_nil]
  show (⟨.string ((joinUnits (text.toList.map quoted).reverse.reverse).map String.ofList) :: tokens, .idle⟩ : Scan) = _
  rw [List.reverse_reverse, joinUnits_quoted]
  simp

/-! ### Numbers -/

/-- A text that is read as one number, whatever was read before. -/
def IsNumber (text : String) : Prop :=
  ∀ tokens, Scan.Holds (text.toList.foldl Scan.step ⟨tokens, .idle⟩) (.number text :: tokens)

/-- The digits of a positive number do not begin with zero. -/
theorem scan_toDigits (tokens : List Token) {n : Nat} (hn : 0 < n) :
    (Nat.toDigits 10 n).foldl Scan.step ⟨tokens, .idle⟩ = ⟨tokens, .number .whole (Nat.toDigits 10 n).reverse⟩ := by
  induction n using Nat.strongRecOn with
  | ind n ih =>
      -- the last digit comes after those of `n / 10`, of which there are some
      by_cases hlt : n < 10
      · rw [Nat.toDigits_of_lt_base hlt]
        interval_cases n <;> rfl
      · have hdigit : (Nat.digitChar (n % 10)).isDigit = true := by
          rw [Nat.isDigit_digitChar]
          exact decide_eq_true (Nat.mod_lt _ (by decide))
        rw [Nat.toDigits_of_base_le (by decide) (Nat.le_of_not_lt hlt), List.foldl_append,
          ih (n / 10) (by omega) (by omega)]
        simp [Scan.step, NumberPart.next?, hdigit]

theorem isNumber_nat (n : Nat) : IsNumber (toString n) := by
  intro tokens
  have htext : (toString n).toList = Nat.toDigits 10 n := Nat.toList_repr
  have hback : String.ofList (Nat.toDigits 10 n).reverse.reverse = toString n := by
    rw [List.reverse_reverse, ← htext, String.ofList_toList]
  rw [htext]
  by_cases hn : n = 0
  · subst hn
    exact Scan.holds_number tokens ['0'] rfl
  · rw [scan_toDigits tokens (Nat.pos_of_ne_zero hn), ← hback]
    exact Scan.holds_number tokens _ rfl

/-! ### Texts of tokens -/

namespace Token

/-- True for a number. -/
def isNumber : Token → Bool
  | .number _ => true
  | _ => false

/-- The tokens that can be written so that they read back. -/
def Written : Token → Prop
  | .number text => IsNumber text
  | .string text => text.isSome
  | .junk => False
  | _ => True

/-- A token other than a number is read at once. -/
theorem scan_token {s : Scan} {tokens : List Token} (hs : s.Holds tokens) {t : Token} (ht : t.Written)
    (hnumber : t.isNumber = false) : t.text.toList.foldl Scan.step s = ⟨t :: tokens, .idle⟩ := by
  have hfirst (c : Char) (cs : List Char) (hc : endsNumber c = true) :
      (c :: cs).foldl Scan.step s = cs.foldl Scan.step (Scan.start tokens c) := by
    rw [List.foldl_cons, hs.next c hc]
  cases t with
  | openBracket => exact hfirst '[' [] rfl
  | closeBracket => exact hfirst ']' [] rfl
  | openBrace => exact hfirst '\x7b' [] rfl
  | closeBrace => exact hfirst '\x7d' [] rfl
  | comma => exact hfirst ',' [] rfl
  | colon => exact hfirst ':' [] rfl
  | null => exact hfirst 'n' ['u', 'l', 'l'] rfl
  | bool value =>
      cases value with
      | true => exact hfirst 't' ['r', 'u', 'e'] rfl
      | false => exact hfirst 'f' ['a', 'l', 's', 'e'] rfl
  | number text => cases hnumber
  | string text =>
      cases text with
      | none => cases ht
      | some text => exact scan_quote hs text
  | junk => cases ht

/-- True for tokens that begin with a number. -/
def startNumber : List Token → Bool
  | t :: _ => t.isNumber
  | [] => false

/-- Tokens of which no two neighbours are numbers. -/
def Apart : List Token → Prop
  | [] => True
  | t :: ts => (t.isNumber = true → startNumber ts = false) ∧ Apart ts

/-- Reading goes on from token to token. A number has to start behind a finished token. -/
theorem holds_texts {ts : List Token} (hwritten : ∀ t ∈ ts, t.Written) (hapart : Apart ts) {s : Scan}
    {tokens : List Token} (hs : s.Holds tokens)
    (hidle : startNumber ts = true → s = ⟨tokens, .idle⟩) :
    ((ts.flatMap fun t => t.text.toList).foldl Scan.step s).Holds (ts.reverse ++ tokens) := by
  induction ts generalizing s tokens with
  | nil => exact hs
  | cons t ts ih =>
      rw [List.flatMap_cons, List.foldl_append, List.reverse_cons, List.append_assoc]
      have ht := hwritten t (List.mem_cons_self ..)
      have hrest : ∀ t ∈ ts, t.Written := fun t' ht' => hwritten t' (List.mem_cons_of_mem t ht')
      cases hnumber : t.isNumber with
      | false =>
          rw [scan_token hs ht hnumber]
          exact ih hrest hapart.2 (Scan.holds_idle _) fun _ => rfl
      | true =>
          rw [hidle hnumber]
          cases t with
          | number text =>
              -- the next token is no number, so it does not matter that this one is not finished
              refine ih hrest hapart.2 (ht tokens) fun hstart => ?_
              rw [hapart.1 rfl] at hstart
              cases hstart
          | _ => cases hnumber

/-- What is written is read. -/
theorem scan_of_written {ts : List Token} (hwritten : ∀ t ∈ ts, t.Written) (hapart : Apart ts) {text : String}
    (htext : text.toList = ts.flatMap fun t => t.text.toList) : scan text = ts := by
  have hholds := holds_texts hwritten hapart (Scan.holds_idle []) fun _ => rfl
  rw [scan, String.foldl_eq_foldl_toList, htext, hholds.finish, List.append_nil, List.reverse_reverse]

end Token

end FleetRouting.Json
