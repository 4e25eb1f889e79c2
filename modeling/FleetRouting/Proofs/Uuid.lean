import FleetRouting.Uuid
import Mathlib.Tactic.Ring
/-!
# FleetRouting.Proofs.Uuid

**An identifier is read from its own text** (`Uuid.read?_toText`). The hyphens between the groups are removed, and the
digits give the number that they were taken from, as the highest comes first and each moves the ones before it up.
-/

namespace FleetRouting.Uuid

open Text

/-! ### Groups -/

/-- The hyphens between groups are removed again. -/
theorem dehyphenate?_hyphenate {groups : List Nat} (hgroups : groups ≠ []) {ds : List Char}
    (hlength : ds.length = groups.sum) : dehyphenate? groups (hyphenate groups ds) = some ds := by
  induction groups generalizing ds with
  | nil => exact absurd rfl hgroups
  | cons n rest ih =>
      rw [List.sum_cons] at hlength
      cases rest with
      | nil =>
          rw [hyphenate, List.take_of_length_le (by simpa using hlength.le), dehyphenate?, if_pos (by simpa using hlength)]
      | cons m rest =>
          have hfirst : (ds.take n).length = n := List.length_take_of_le (by omega)
          have hrest : (ds.drop n).length = (m :: rest).sum := by
            rw [List.length_drop]
            omega
          rw [hyphenate, dehyphenate?, List.drop_left' hfirst, List.take_left' hfirst]
          · simp only [ih (List.cons_ne_nil m rest) hrest, Option.map_some, List.take_append_drop]
          · exact List.cons_ne_nil m rest
          · exact List.cons_ne_nil m rest

/-! ### Digits -/

/-- The lowest `n` digits of a number, the highest of them first, count behind what was read before them. -/
theorem foldlM_digits (bits n acc : Nat) :
    ((List.range n).reverse.map fun i => hexDigit (bits / Nat.pow 16 i % 16)).foldlM
      (fun n d => (hexValue? d).map (16 * n + ·)) acc = some (acc * 16 ^ n + bits % 16 ^ n) := by
  induction n generalizing acc with
  | zero => simp [Nat.mod_one]
  | succ n ih =>
      have hdigit : hexValue? (hexDigit (bits / Nat.pow 16 n % 16)) = some (bits / 16 ^ n % 16) :=
        hexValue?_hexDigit _ (Nat.mod_lt _ (by decide))
      rw [List.range_succ, List.reverse_append, List.reverse_singleton, List.singleton_append, List.map_cons,
        List.foldlM_cons, hdigit, Option.map_some, Option.bind_eq_bind, Option.bind_some, ih, Nat.mod_pow_succ]
      congr 1
      ring

theorem length_digits (u : Uuid) : u.digits.length = 32 := by simp [digits]

/-- The digits of an identifier are those of its number. -/
theorem ofDigits?_digits (u : Uuid) : ofDigits? u.digits = some u := by
  have hbits : u.bits.val % 16 ^ 32 = u.bits.val := Nat.mod_eq_of_lt u.bits.isLt
  have hlow : lowBits 128 u.bits.val = u.bits := Fin.ext (Nat.mod_eq_of_lt u.bits.isLt)
  rw [ofDigits?, if_pos u.length_digits, digits, foldlM_digits, hbits, Nat.zero_mul, Nat.zero_add, Option.map_some, hlow]

/-! ### Text -/

/-- A digit begins neither the name space nor a text in braces. -/
theorem unwrap_hexDigit {n : Nat} (h : n < 16) (cs : List Char) : unwrap (hexDigit n :: cs) = hexDigit n :: cs := by
  have hother : ∀ n < 16, (hexDigit n).toLower ≠ 'u' ∧ hexDigit n ≠ '\x7b' := by decide
  obtain ⟨hurn, hbrace⟩ := hother n h
  have hspace : ¬((hexDigit n :: cs).take 9).map Char.toLower = "urn:uuid:".toList := fun heq => hurn (List.cons.inj heq).1
  rw [unwrap, if_neg hspace]
  exact fun _ heq => hbrace (List.cons.inj heq).1

/-- **An identifier is read from its own text.** -/
theorem read?_toText (u : Uuid) : read? u.toText = some u := by
  have hunwrap : unwrap (hyphenate groups u.digits) = hyphenate groups u.digits :=
    unwrap_hexDigit (Nat.mod_lt _ (by decide)) _
  have hgroups : dehyphenate? groups (hyphenate groups u.digits) = some u.digits :=
    dehyphenate?_hyphenate (List.cons_ne_nil _ _) u.length_digits
  rw [read?, toText, String.toList_ofList, hunwrap, hgroups]
  exact ofDigits?_digits u

end FleetRouting.Uuid
