import FleetRouting.Binary64.Reader
import FleetRouting.Proofs.Binary64.Printer
import FleetRouting.Proofs.Text.Fold
/-!
# FleetRouting.Proofs.Binary64.Text

**What is printed is read back** (`read?_toText`), whatever the value is: words as words, and a finite value as digits
with a point, whose number lies in the interval of that value. Printing moves the point and drops zeros behind it,
which does not change the number (`Decimal.positional_eq`).
-/

namespace FleetRouting.Binary64

open Text

/-! ### Digits and points -/

/-- Digits, and behind a point further ones if there are any. -/
def decimalChars (whole fraction : List Char) : List Char :=
  if fraction.isEmpty then whole else whole ++ '.' :: fraction

theorem decimalChars_eq_cons {whole : List Char} (hwhole : whole ≠ []) (fraction : List Char) :
    ∃ c cs, decimalChars whole fraction = c :: cs ∧ c ∈ whole := by
  obtain ⟨c, cs, rfl⟩ := List.exists_cons_of_ne_nil hwhole
  unfold decimalChars
  split
  · exact ⟨c, cs, rfl, List.mem_cons_self ..⟩
  · exact ⟨c, cs ++ '.' :: fraction, rfl, List.mem_cons_self ..⟩

theorem decimalChars_eq_concat {whole : List Char} (hwhole : whole ≠ []) (fraction : List Char) :
    ∃ front d, decimalChars whole fraction = front ++ [d] ∧ d ∈ whole ++ fraction := by
  rcases List.eq_nil_or_concat fraction with rfl | ⟨front, d, rfl⟩
  · obtain ⟨front, d, rfl⟩ := (List.eq_nil_or_concat whole).resolve_left hwhole
    exact ⟨front, d, by simp [decimalChars], by simp⟩
  · exact ⟨whole ++ '.' :: front, d, by simp [decimalChars], by simp⟩

theorem mem_decimalChars {whole fraction : List Char} {c : Char} (h : c ∈ decimalChars whole fraction) :
    c = '.' ∨ c ∈ whole ++ fraction := by
  unfold decimalChars at h
  split at h
  · exact .inr (List.mem_append_left _ h)
  · rcases List.mem_append.1 h with h | h
    · exact .inr (List.mem_append_left _ h)
    · exact (List.mem_cons.1 h).imp id (List.mem_append_right _)

theorem digitsValue_append_zeros (ds : List Char) (k : Nat) :
    digitsValue (ds ++ List.replicate k '0') = digitsValue ds * 10 ^ k := by
  show Nat.ofDigitChars 10 (ds ++ List.replicate k '0') 0 = _
  rw [Nat.ofDigitChars_append, Nat.ofDigitChars_replicate_zero, Nat.mul_comm]
  rfl

theorem digitsValue_zeros_append (k : Nat) (ds : List Char) :
    digitsValue (List.replicate k '0' ++ ds) = digitsValue ds := by
  show Nat.ofDigitChars 10 (List.replicate k '0' ++ ds) 0 = _
  rw [Nat.ofDigitChars_append, Nat.ofDigitChars_replicate_zero, Nat.mul_zero]
  rfl

theorem digitsValue_toDigits (n : Nat) : digitsValue (Nat.toDigits 10 n) = n := Nat.ofDigitChars_ten_toDigits

/-- A list is what is left without the zeros at its end, and those zeros. -/
theorem exists_zeros (ds : List Char) :
    ∃ k, ds = (ds.reverse.dropWhile (· = '0')).reverse ++ List.replicate k '0' := by
  have hzeros : ∀ c ∈ ds.reverse.takeWhile (· = '0'), c = '0' := by
    intro c hc
    simpa using List.all_eq_true.1 List.all_takeWhile c hc
  refine ⟨(ds.reverse.takeWhile (· = '0')).length, ?_⟩
  have hsplit := congrArg List.reverse (List.takeWhile_append_dropWhile (p := (· = '0')) (l := ds.reverse))
  rw [List.reverse_append, List.reverse_reverse, List.eq_replicate_of_mem hzeros, List.reverse_replicate] at hsplit
  simpa using hsplit.symm

/-- A decimal whose digits are followed by zeros, written with fewer places. -/
theorem Decimal.units_shift (digits k : Nat) (e : Int) :
    Decimal.units ⟨digits * 10 ^ k, e - k⟩ = Decimal.units ⟨digits, e⟩ := by
  have hshift : (digits * 10 ^ k * (10 ^ e / 10 ^ k) : ℚ) = digits * 10 ^ e := by
    field_simp
  rw [Decimal.units, Decimal.units, zpow_sub₀ (by norm_num), zpow_natCast, Nat.cast_mul, Nat.cast_pow,
    Nat.cast_ofNat, hshift]

/-- Digits with so many of them behind the point, without the zeros at the end. -/
theorem exists_point {ds : List Char} {places : Nat} (hplaces : places < ds.length) {whole fraction : List Char}
    (hwhole : ds.take (ds.length - places) = whole)
    (hfraction : ((ds.drop (ds.length - places)).reverse.dropWhile (· = '0')).reverse = fraction) :
    whole ≠ [] ∧ ∃ k, ds = whole ++ fraction ++ List.replicate k '0' ∧ fraction.length + k = places := by
  constructor
  · intro hnil
    have hlength := congrArg List.length hwhole
    rw [hnil, List.length_take, List.length_nil] at hlength
    omega
  · obtain ⟨k, hk⟩ := exists_zeros (ds.drop (ds.length - places))
    rw [hfraction] at hk
    refine ⟨k, ?_, ?_⟩
    · rw [List.append_assoc, ← hk, ← hwhole, List.take_append_drop]
    · have hlength := congrArg List.length hk
      rw [List.length_drop, List.length_append, List.length_replicate] at hlength
      omega

theorem isDigit_of_mem_padded {k n : Nat} {c : Char} (hc : c ∈ List.replicate k '0' ++ Nat.toDigits 10 n) :
    c.isDigit := by
  rcases List.mem_append.1 hc with hc | hc
  · rw [List.eq_of_mem_replicate hc]
    rfl
  · exact Nat.isDigit_of_mem_toDigits (by decide) (by decide) hc

/-- A decimal is written by its digits, or by as many as count, and stands for the same number. -/
theorem Decimal.positional_eq (d : Decimal) :
    ∃ whole fraction : List Char, d.positional = String.ofList (decimalChars whole fraction) ∧ whole ≠ [] ∧
      (∀ c ∈ whole ++ fraction, c.isDigit) ∧
      Decimal.units ⟨digitsValue (whole ++ fraction), 0 - fraction.length⟩ = d.units := by
  unfold positional
  simp only
  split
  · next hexponent =>
      refine ⟨Nat.toDigits 10 d.digits ++ List.replicate d.exponent.toNat '0', [], rfl, ?_, ?_, ?_⟩
      · exact List.append_ne_nil_of_left_ne_nil Nat.toDigits_ne_nil _
      · intro c hc
        rw [List.append_nil, List.mem_append, or_comm, ← List.mem_append] at hc
        exact isDigit_of_mem_padded hc
      · have hshift := units_shift d.digits d.exponent.toNat d.exponent
        rw [Int.toNat_of_nonneg hexponent, Int.sub_self] at hshift
        rw [List.append_nil, digitsValue_append_zeros, digitsValue_toDigits]
        exact hshift
  · next hexponent =>
      generalize hpadded : List.replicate ((-d.exponent).toNat + 1 - (Nat.toDigits 10 d.digits).length) '0' ++
        Nat.toDigits 10 d.digits = padded
      have hvalue : digitsValue padded = d.digits := by
        rw [← hpadded, digitsValue_zeros_append, digitsValue_toDigits]
      have hlength : (-d.exponent).toNat < padded.length := by
        rw [← hpadded, List.length_append, List.length_replicate]
        omega
      obtain ⟨hwhole, k, hsplit, hplaces⟩ := exists_point hlength rfl rfl
      generalize padded.take (padded.length - (-d.exponent).toNat) = whole at *
      generalize ((padded.drop (padded.length - (-d.exponent).toNat)).reverse.dropWhile (· = '0')).reverse =
        fraction at *
      refine ⟨whole, fraction, ?_, hwhole, fun c hc => ?_, ?_⟩
      · unfold decimalChars
        split <;> rfl
      · have hmem : c ∈ padded := hsplit ▸ List.mem_append_left _ hc
        rw [← hpadded] at hmem
        exact isDigit_of_mem_padded hmem
      · have hd : d = ⟨digitsValue (whole ++ fraction) * 10 ^ k, 0 - fraction.length - k⟩ := by
          have hexponent' : d.exponent = 0 - fraction.length - k := by omega
          rw [← digitsValue_append_zeros, ← hsplit, hvalue, ← hexponent']
        rw [hd, units_shift]

/-! ### Reading -/

theorem takeDigits_append {ds : List Char} (hds : ∀ c ∈ ds, c.isDigit) (rest : List Char)
    (hrest : ∀ c ∈ rest.head?, c.isDigit = false) : takeDigits (ds ++ rest) = (ds, rest) := by
  rw [takeDigits, List.takeWhile_append_of_pos hds, List.dropWhile_append_of_pos hds]
  cases rest with
  | nil => rw [List.takeWhile_nil, List.dropWhile_nil, List.append_nil]
  | cons c rest =>
      have hc : ¬ c.isDigit = true := by simpa using hrest c rfl
      rw [List.takeWhile_cons_of_neg hc, List.dropWhile_cons_of_neg hc, List.append_nil]

/-- Digits with a point are read as a decimal. -/
theorem readMagnitude?_decimalChars {whole fraction : List Char} (hwhole : whole ≠ [])
    (hdigits : ∀ c ∈ whole ++ fraction, c.isDigit) (negative : Bool) :
    readMagnitude? negative (decimalChars whole fraction) =
      some (ofDecimal negative (digitsValue (whole ++ fraction)) (0 - fraction.length)) := by
  have hwholeDigits : ∀ c ∈ whole, c.isDigit := fun c hc => hdigits c (List.mem_append_left _ hc)
  have hfractionDigits : ∀ c ∈ fraction, c.isDigit := fun c hc => hdigits c (List.mem_append_right _ hc)
  unfold readMagnitude? decimalChars
  cases fraction with
  | nil =>
      have htake := takeDigits_append hwholeDigits [] nofun
      rw [List.append_nil] at htake
      simp [htake, hwhole, readExponent?]
  | cons d fraction =>
      have htake := takeDigits_append hwholeDigits ('.' :: d :: fraction) (by simp)
      have htake' := takeDigits_append hfractionDigits [] nofun
      rw [List.append_nil] at htake'
      simp [htake, htake', hwhole, readExponent?]

theorem toNat_of_isDigit {c : Char} (hc : c.isDigit) : 48 ≤ c.toNat ∧ c.toNat ≤ 57 := by
  simpa [Char.isDigit, UInt32.le_iff_toNat_le] using hc

/-- A text that begins with a digit, behind its sign, is no word. -/
theorem read?_signed (negative : Bool) {c : Char} {cs : List Char} (hc : c.isDigit) :
    read? (signed negative (String.ofList (c :: cs))) = readMagnitude? negative (c :: cs) := by
  have hsign : takeSign (signed negative (String.ofList (c :: cs))).toList = (negative, c :: cs) := by
    cases negative with
    | false =>
        rw [signed, if_neg Bool.false_ne_true, String.toList_ofList, takeSign.eq_3]
        · rintro rest hminus
          obtain ⟨rfl, -⟩ := List.cons.inj hminus
          cases hc
        · rintro rest hplus
          obtain ⟨rfl, -⟩ := List.cons.inj hplus
          cases hc
    | true =>
        simp [signed, takeSign]
  have hword (first : Char) (rest : List Char) (hfirst : first.isDigit = false)
      (hfold : fold (String.ofList (c :: cs)) = String.ofList (first :: rest)) : False := by
    have hchars := congrArg String.toList hfold
    rw [fold, String.toList_map, String.toList_ofList, String.toList_ofList, List.map_cons,
      toLower_eq_self (.inl (by have := toNat_of_isDigit hc; omega))] at hchars
    obtain ⟨rfl, -⟩ := List.cons.inj hchars
    rw [hc] at hfirst
    cases hfirst
  unfold read?
  rw [hsign]
  simp only
  split
  · next h => exact (hword 'i' ['n', 'f'] rfl h).elim
  · next h => exact (hword 'i' ['n', 'f', 'i', 'n', 'i', 't', 'y'] rfl h).elim
  · next h => exact (hword 'n' ['a', 'n'] rfl h).elim
  · rfl

/-! ### Printing and reading -/

/-- A finite value is printed as digits with a point, which are read as the value. -/
theorem exists_chars {units : Nat} (hvalue : IsValue units) (hsmall : units < overflow) :
    ∃ whole fraction : List Char, whole ≠ [] ∧ (∀ c ∈ whole ++ fraction, c.isDigit) ∧ ∀ negative,
      (finite negative units).toText = signed negative (String.ofList (decimalChars whole fraction)) ∧
        ofDecimal negative (digitsValue (whole ++ fraction)) (0 - fraction.length) = .finite negative units := by
  rcases Nat.eq_zero_or_pos units with rfl | hpos
  · refine ⟨['0'], [], List.cons_ne_nil _ _, fun c hc => ?_, fun negative => ⟨rfl, rfl⟩⟩
    rw [List.append_nil, List.mem_singleton] at hc
    rw [hc]
    rfl
  · have hrounds := (readsBack_iff hvalue hpos _).1 (readsBack_shortest hvalue hpos)
    obtain ⟨whole, fraction, htext, hwhole, hdigits, hunits⟩ := (shortest units).positional_eq
    rw [← hunits] at hrounds
    refine ⟨whole, fraction, hwhole, hdigits, fun negative => ⟨?_, ?_⟩⟩
    · rw [toText, if_neg hpos.ne', htext]
    · exact ofDecimal_of_rounds hvalue hpos hsmall hrounds negative

/-- **What is printed is read back.** -/
theorem read?_toText {a : Binary64} (ha : a.InFormat) : read? a.toText = some a := by
  cases ha with
  | nan => decide +kernel
  | infinite negative => cases negative <;> decide +kernel
  | @finite negative units hvalue hsmall =>
      obtain ⟨whole, fraction, hwhole, hdigits, hchars⟩ := exists_chars hvalue hsmall
      obtain ⟨htext, hread⟩ := hchars negative
      obtain ⟨c, cs, hcs, hc⟩ := decimalChars_eq_cons hwhole fraction
      have hfirst : c.isDigit := hdigits c (List.mem_append_left _ hc)
      rw [htext, hcs, read?_signed negative hfirst, ← hcs, readMagnitude?_decimalChars hwhole hdigits, hread]

/-- Whole numbers are decimals without places behind the point. -/
theorem ofDecimal_nat {n : Nat} (hn : n ≤ 2 ^ 53) : ofDecimal false n 0 = ofNat n := by
  rcases Nat.eq_zero_or_pos n with rfl | hpos
  · rw [ofNat, Nat.zero_mul, round_zero]
    rfl
  · have hlength : (Nat.toDigits 10 n).length ≤ 16 :=
      (Nat.length_toDigits_le_iff (by decide) (by decide)).2 (by omega)
    have hsmall : ¬(n = 0 ∨ ((Nat.toDigits 10 n).length + 0 : Int) < -400) := by omega
    have hlarge : ¬((Nat.toDigits 10 n).length + 0 : Int) > 400 := by omega
    have hpow : n * Nat.pow 10 (0 : Int).toNat = n := Nat.mul_one n
    rw [ofDecimal, if_neg hsmall, if_neg hlarge, if_neg (by decide), hpow, ofNat]

/-- The digits of a whole number are read as the number. -/
theorem read?_nat {n : Nat} (hn : n ≤ 2 ^ 53) : read? (toString n) = some (ofNat n) := by
  have hdigits : ∀ c ∈ Nat.toDigits 10 n, c.isDigit :=
    fun c hc => Nat.isDigit_of_mem_toDigits (by decide) (by decide) hc
  have hne : Nat.toDigits 10 n ≠ [] := Nat.toDigits_ne_nil
  have hread : readMagnitude? false (decimalChars (Nat.toDigits 10 n) []) = some (ofDecimal false _ _) :=
    readMagnitude?_decimalChars hne (by simpa using hdigits) false
  rw [List.append_nil, digitsValue_toDigits] at hread
  obtain ⟨c, cs, hcs⟩ := List.exists_cons_of_ne_nil hne
  have htext : toString n = signed false (String.ofList (c :: cs)) := by
    rw [← hcs]
    rfl
  rw [htext, read?_signed false (hdigits c (hcs ▸ List.mem_cons_self ..)), ← hcs, ← ofDecimal_nat hn]
  exact hread

/-- Finite values are printed without letters and blanks, and end with a digit. -/
theorem toText_chars {units : Nat} (hvalue : IsValue units) (hsmall : units < overflow) (negative : Bool) :
    (∀ c ∈ (finite negative units).toText.toList, 45 ≤ c.toNat ∧ c.toNat ≤ 57) ∧
      ∃ d, (finite negative units).toText.toList.getLast? = some d ∧ d.isDigit := by
  obtain ⟨whole, fraction, hwhole, hdigits, hchars⟩ := exists_chars hvalue hsmall
  have htext : (finite negative units).toText.toList =
      (if negative then ['-'] else []) ++ decimalChars whole fraction := by
    rw [(hchars negative).1, signed]
    cases negative <;> simp
  rw [htext]
  constructor
  · intro c hc
    rcases List.mem_append.1 hc with hc | hc
    · cases negative with
      | false => cases hc
      | true =>
          rw [List.mem_singleton.1 hc]
          decide
    · rcases mem_decimalChars hc with rfl | hc
      · decide
      · obtain ⟨hlow, hhigh⟩ := toNat_of_isDigit (hdigits c hc)
        exact ⟨(by decide : 45 ≤ 48).trans hlow, hhigh⟩
  · obtain ⟨front, d, hfront, hd⟩ := decimalChars_eq_concat hwhole fraction
    refine ⟨d, ?_, hdigits d hd⟩
    rw [hfront, ← List.append_assoc, List.getLast?_concat]

end FleetRouting.Binary64
