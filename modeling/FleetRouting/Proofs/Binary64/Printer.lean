import FleetRouting.Binary64.Printer
import FleetRouting.Proofs.Binary64.Rounding
import Mathlib.Data.Nat.Cast.Order.Field
/-!
# FleetRouting.Proofs.Binary64.Printer

**Printed decimals lie where they are rounded to the value that is printed.** The test that a decimal reads back
compares exactly with the ends of the interval of rounding (`readsBack_iff`). Among decimals of seventeen digits there
is always one that passes it (`isSome_nearest?`), as such a decimal is closer to a value than its neighbours are, so
the shortest decimal reads back (`readsBack_shortest`) and is read as the value (`ofDecimal_of_rounds`).
-/

namespace FleetRouting.Binary64

/-! ### Decimals as numbers -/

/-- How many units a decimal stands for. -/
def Decimal.units (d : Decimal) : ℚ := d.digits * 10 ^ d.exponent * unitsPerOne

theorem zpow_of_neg {e : Int} (h : e < 0) : (10 : ℚ) ^ e = ((10 : ℚ) ^ (-e).toNat)⁻¹ := by
  rw [← zpow_natCast, Int.toNat_of_nonneg (by omega), zpow_neg, inv_inv]

theorem zpow_of_nonneg {e : Int} (h : ¬ e < 0) : (10 : ℚ) ^ e = (10 : ℚ) ^ e.toNat := by
  rw [← zpow_natCast, Int.toNat_of_nonneg (by omega)]

theorem scaled_pos (a : Nat) (e : Int) {b : Nat} (hb : 0 < b) : 0 < (scaled a e b).2 := by
  unfold scaled
  split
  · exact Nat.mul_pos hb (Nat.pow_pos (by decide))
  · exact hb

/-- Two whole numbers for a power of ten. -/
theorem scaled_eq (a : Nat) (e : Int) (b : Nat) :
    ((scaled a e b).1 / (scaled a e b).2 : ℚ) = a * 10 ^ e / b := by
  unfold scaled
  split
  · next h =>
      rw [zpow_of_neg h, Nat.pow_eq]
      push_cast
      field_simp
  · next h =>
      rw [zpow_of_nonneg h, Nat.pow_eq]
      push_cast
      rfl

/-- A product is compared with a number as the factor is with their quotient. -/
theorem compare_div {a x scale : Nat} (hscale : 0 < scale) :
    (a * scale ≤ x ↔ (a : ℚ) ≤ x / scale) ∧ (a * scale < x ↔ (a : ℚ) < x / scale) ∧
      (x ≤ a * scale ↔ (x / scale : ℚ) ≤ a) ∧ (x < a * scale ↔ (x / scale : ℚ) < a) := by
  have hscaleq : (0 : ℚ) < scale := Nat.cast_pos.2 hscale
  rw [le_div_iff₀ hscaleq, lt_div_iff₀ hscaleq, div_le_iff₀ hscaleq, div_lt_iff₀ hscaleq]
  norm_cast

/-- Reading back is being in the interval of rounding. -/
theorem readsBack_iff {units : Nat} (hvalue : IsValue units) (hpos : 0 < units) (d : Decimal) :
    readsBack units d ↔ Rounds units d.units := by
  have hstep := hvalue.spacing_le hpos
  have hscale := scaled_pos (d.digits * (4 * unitsPerOne)) d.exponent Nat.one_pos
  have hx : ((scaled (d.digits * (4 * unitsPerOne)) d.exponent 1).1 /
      (scaled (d.digits * (4 * unitsPerOne)) d.exponent 1).2 : ℚ) = 4 * d.units := by
    rw [scaled_eq, Decimal.units]
    push_cast
    ring
  have hlow : ((4 * units - (if units = spacing units * bitSpan 52 ∧ 1 < spacing units then spacing units
      else 2 * spacing units) : ℕ) : ℚ) = 4 * (units - reachBelow units) := by
    unfold reachBelow
    split_ifs
    · rw [Nat.cast_sub (by omega)]
      push_cast
      ring
    · rw [Nat.cast_sub (by omega)]
      push_cast
      ring
  have hhigh : ((4 * units + 2 * spacing units : ℕ) : ℚ) = 4 * (units + spacing units / 2) := by
    push_cast
    ring
  have hfour : (0 : ℚ) < 4 := by norm_num
  -- both sides of the comparisons are four times what the interval compares
  obtain ⟨hle, hlt, -, -⟩ := compare_div (a := 4 * units - (if units = spacing units * bitSpan 52 ∧
    1 < spacing units then spacing units else 2 * spacing units))
    (x := (scaled (d.digits * (4 * unitsPerOne)) d.exponent 1).1) hscale
  obtain ⟨-, -, hge, hgt⟩ := compare_div (a := 4 * units + 2 * spacing units)
    (x := (scaled (d.digits * (4 * unitsPerOne)) d.exponent 1).1) hscale
  rw [hx, hlow, mul_le_mul_iff_right₀ hfour] at hle
  rw [hx, hlow, mul_lt_mul_iff_right₀ hfour] at hlt
  rw [hx, hhigh, mul_le_mul_iff_right₀ hfour] at hge
  rw [hx, hhigh, mul_lt_mul_iff_right₀ hfour] at hgt
  unfold readsBack Rounds
  simp only
  split
  · next heven =>
      rw [Bool.and_eq_true, decide_eq_true_eq, decide_eq_true_eq, hle, hge]
      exact ⟨fun h => ⟨h, fun hodd => by omega⟩, And.left⟩
  · next hodd =>
      rw [Bool.and_eq_true, decide_eq_true_eq, decide_eq_true_eq, hlt, hgt]
      exact ⟨fun h => ⟨⟨h.1.le, h.2.le⟩, fun _ => h⟩, fun h => h.2 (by omega)⟩

/-! ### Decimals in the interval of a value -/

/-- Four hundred places are more than the format has on either side of the point. -/
theorem bounds_of_places :
    (2 * unitsPerOne : ℚ) ≤ 10 ^ (400 : ℤ) ∧ (3 * overflow : ℚ) ≤ 2 * (10 ^ (400 : ℤ) * unitsPerOne) := by
  have hone : 2 * unitsPerOne ≤ 10 ^ 400 := by decide +kernel
  have htop : 3 * overflow ≤ 2 * (10 ^ 400 * unitsPerOne) := by decide +kernel
  rw [show (400 : ℤ) = (400 : ℕ) from rfl, zpow_natCast]
  exact ⟨by exact_mod_cast hone, by exact_mod_cast htop⟩

/-- What is rounded to a value is between the half and the double of it. -/
theorem Rounds.bounds {units : Nat} {x : ℚ} (h : Rounds units x) (hvalue : IsValue units) (hpos : 0 < units) :
    (units / 2 : ℚ) ≤ x ∧ x ≤ 3 * units / 2 := by
  have hstep : (spacing units : ℚ) ≤ units := Nat.cast_le.2 (hvalue.spacing_le hpos)
  have hreach := reachBelow_le units
  obtain ⟨⟨hlow, hhigh⟩, -⟩ := h
  constructor <;> linarith

/-- A number has as many digits as it takes. -/
theorem pow_length_le {n : Nat} (hn : n ≠ 0) : 10 ^ ((Nat.toDigits 10 n).length - 1) ≤ n := by
  by_contra hlt
  rcases Nat.eq_zero_or_pos ((Nat.toDigits 10 n).length - 1) with hone | hmore
  · rw [hone] at hlt
    omega
  · have hfew := (Nat.length_toDigits_le_iff (by decide) hmore).2 (Nat.lt_of_not_le hlt)
    omega

/-- The place of the first digit bounds a decimal. -/
theorem Decimal.bounds {d : Decimal} (hdigits : d.digits ≠ 0) :
    (10 : ℚ) ^ ((Nat.toDigits 10 d.digits).length + d.exponent - 1) ≤ d.digits * 10 ^ d.exponent ∧
      (d.digits * 10 ^ d.exponent : ℚ) < 10 ^ ((Nat.toDigits 10 d.digits).length + d.exponent) := by
  have hten : (0 : ℚ) < 10 ^ d.exponent := by positivity
  have hten' : (10 : ℚ) ≠ 0 := by norm_num
  have hlength : 0 < (Nat.toDigits 10 d.digits).length := List.length_pos_iff.2 Nat.toDigits_ne_nil
  constructor
  · have hlowq : (10 : ℚ) ^ ((Nat.toDigits 10 d.digits).length - 1) ≤ d.digits := by
      exact_mod_cast pow_length_le hdigits
    have hexponent : ((Nat.toDigits 10 d.digits).length + d.exponent - 1 : ℤ) =
        ((Nat.toDigits 10 d.digits).length - 1 : ℕ) + d.exponent := by omega
    rw [hexponent, zpow_add₀ hten', zpow_natCast]
    exact mul_le_mul_of_nonneg_right hlowq hten.le
  · have hhigh : d.digits < 10 ^ (Nat.toDigits 10 d.digits).length :=
      (Nat.length_toDigits_le_iff (by decide) hlength).1 le_rfl
    have hhighq : (d.digits : ℚ) < 10 ^ (Nat.toDigits 10 d.digits).length := by exact_mod_cast hhigh
    rw [zpow_add₀ hten', zpow_natCast]
    exact mul_lt_mul_of_pos_right hhighq hten

/-- A decimal in the interval of a value is read as the value. -/
theorem ofDecimal_of_rounds {units : Nat} (hvalue : IsValue units) (hpos : 0 < units) (hsmall : units < overflow)
    {d : Decimal} (hrounds : Rounds units d.units) (negative : Bool) :
    ofDecimal negative d.digits d.exponent = .finite negative units := by
  have hone : (0 : ℚ) < unitsPerOne := Nat.cast_pos.2 unitsPerOne_pos
  have hunits : (1 : ℚ) ≤ units := by exact_mod_cast hpos
  obtain ⟨hlow, hhigh⟩ := hrounds.bounds hvalue hpos
  have hdigits : d.digits ≠ 0 := by
    intro hzero
    rw [Decimal.units, hzero, Nat.cast_zero, zero_mul, zero_mul] at hlow
    linarith
  obtain ⟨hbelow, habove⟩ := Decimal.bounds hdigits
  unfold ofDecimal
  simp only
  rw [if_neg, if_neg]
  · split_ifs with hexponent
    · refine round_eq_of_rounds (Nat.pow_pos (by decide)) hvalue hpos hsmall ?_ negative
      rw [Decimal.units, zpow_of_neg hexponent] at hrounds
      push_cast
      rwa [div_eq_mul_inv, mul_right_comm]
    · refine round_eq_of_rounds Nat.one_pos hvalue hpos hsmall ?_ negative
      rw [Decimal.units, zpow_of_nonneg hexponent] at hrounds
      rw [Nat.pow_eq]
      push_cast
      rwa [div_one]
  · intro hplace
    have hpow : (10 : ℚ) ^ (400 : ℤ) ≤ 10 ^ ((Nat.toDigits 10 d.digits).length + d.exponent - 1) :=
      zpow_le_zpow_right₀ (by norm_num) (by omega)
    have hlarge : (10 ^ (400 : ℤ) * unitsPerOne : ℚ) ≤ d.units :=
      mul_le_mul_of_nonneg_right (hpow.trans hbelow) hone.le
    have hsmallq : (units : ℚ) < overflow := Nat.cast_lt.2 hsmall
    linarith [bounds_of_places.2]
  · rintro (hzero | hplace)
    · exact hdigits hzero
    · have hpow : (10 : ℚ) ^ ((Nat.toDigits 10 d.digits).length + d.exponent) ≤ 10 ^ (-400 : ℤ) :=
        zpow_le_zpow_right₀ (by norm_num) (by omega)
      have htiny : d.units < 10 ^ (-400 : ℤ) * unitsPerOne :=
        mul_lt_mul_of_pos_right (habove.trans_le hpow) hone
      have hhalf : (10 ^ (-400 : ℤ) * unitsPerOne : ℚ) ≤ 1 / 2 := by
        rw [zpow_neg, inv_mul_le_iff₀ (by positivity)]
        linarith [bounds_of_places.1]
      linarith

/-! ### Shortest decimals -/

/-- A value is not smaller than its first place. -/
theorem pow_places_le {units : Nat} (hpos : 0 < units) : (10 ^ (places units - 1) * unitsPerOne : ℚ) ≤ units := by
  unfold places
  split
  · next hone =>
      have hwhole : units / unitsPerOne ≠ 0 := (Nat.div_pos hone unitsPerOne_pos).ne'
      have hlength : 0 < (Nat.toDigits 10 (units / unitsPerOne)).length := List.length_pos_iff.2 Nat.toDigits_ne_nil
      have hmul := (Nat.mul_le_mul_right unitsPerOne (pow_length_le hwhole)).trans (Nat.div_mul_le_self _ _)
      rw [← Nat.cast_pred hlength, zpow_natCast]
      exact_mod_cast hmul
  · split
    · next zeros hfind =>
        have hle : unitsPerOne ≤ units * Nat.pow 10 (zeros + 1) := by simpa using List.find?_some hfind
        have hleq : (unitsPerOne : ℚ) ≤ units * 10 ^ (zeros + 1) := by exact_mod_cast hle
        have hexponent : (-zeros - 1 : ℤ) = -((zeros + 1 : ℕ) : ℤ) := by
          push_cast
          ring
        rw [hexponent, zpow_neg, zpow_natCast, inv_mul_le_iff₀ (by positivity), mul_comm]
        exact hleq
    · next hfind =>
        have hnone (j : Nat) (hj : j < 330) : ¬ unitsPerOne ≤ units * Nat.pow 10 (j + 1) := by
          simpa using List.find?_eq_none.1 hfind j (List.mem_range.2 hj)
        -- the smallest value is larger than that
        have htiny : unitsPerOne ≤ Nat.pow 10 (329 + 1) := by decide +kernel
        exact absurd (htiny.trans (Nat.le_mul_of_pos_left _ hpos)) (hnone 329 (by decide))

/-- A value is separated from its neighbours by the part of it that 54 binary places tell apart. -/
theorem le_reach (units : Nat) :
    (units / 2 ^ 54 : ℚ) ≤ reachBelow units ∧ (units / 2 ^ 54 : ℚ) ≤ spacing units / 2 := by
  have hdigits : (units : ℚ) < 2 ^ 53 * spacing units := by exact_mod_cast lt_pow_mul_spacing units
  have habove : (units / 2 ^ 54 : ℚ) ≤ spacing units / 2 := by
    rw [div_le_iff₀ (by positivity)]
    linarith
  refine ⟨?_, habove⟩
  unfold reachBelow
  split
  · next hpower =>
      have hunits : (units : ℚ) = spacing units * 2 ^ 52 := by exact_mod_cast hpower.1
      rw [div_le_iff₀ (by positivity)]
      linarith
  · exact habove

/-- What is closer to a value than all its reach is rounded to it. -/
theorem rounds_of_lt {units : Nat} {x : ℚ} (hlow : units - units / 2 ^ 54 < x)
    (hhigh : x < units + (units / 2 ^ 54 : ℚ)) : Rounds units x := by
  obtain ⟨hbelow, habove⟩ := le_reach units
  exact ⟨⟨by linarith, by linarith⟩, fun _ => ⟨by linarith, by linarith⟩⟩

theorem readsBack_of_nearest? {units n : Nat} {d : Decimal} (h : nearest? units n = some d) : readsBack units d := by
  unfold nearest? at h
  simp only at h
  split at h
  · next hlow hhigh =>
      split_ifs at h
      · exact Option.some.inj h ▸ hlow
      · exact Option.some.inj h ▸ hhigh
  · next hlow _ => exact Option.some.inj h ▸ hlow
  · next _ hhigh => exact Option.some.inj h ▸ hhigh
  · cases h

/-- A decimal of seventeen digits reads back if no other one is nearer. -/
theorem readsBack_of_near {units : Nat} (hvalue : IsValue units) (hpos : 0 < units) {step : ℚ} {digits : Nat}
    {exponent : Int} (hstep : step = 10 ^ exponent * unitsPerOne) (hfine : step * 10 ^ 16 ≤ units)
    (hlow : units - step / 2 ≤ digits * step) (hhigh : digits * step ≤ units + step / 2) :
    readsBack units ⟨digits, exponent⟩ := by
  have hunits : Decimal.units ⟨digits, exponent⟩ = digits * step := by
    rw [Decimal.units, hstep, mul_assoc]
  have hunitsq : (0 : ℚ) < units := Nat.cast_pos.2 hpos
  have hless : step / 2 < units / 2 ^ 54 := by
    rw [lt_div_iff₀ (by positivity)]
    linarith
  rw [readsBack_iff hvalue hpos, hunits]
  exact rounds_of_lt (by linarith) (by linarith)

/-- **Seventeen digits suffice:** one of the two decimals around a value reads back. -/
theorem isSome_nearest? {units : Nat} (hvalue : IsValue units) (hpos : 0 < units) : (nearest? units 17).isSome := by
  have hden := scaled_pos units (-(places units - 17)) unitsPerOne_pos
  have hquot := scaled_eq units (-(places units - 17)) unitsPerOne
  have hplaces := pow_places_le hpos
  have hexponent : places units - 1 = places units - 17 + (16 : ℕ) := by
    push_cast
    ring
  rw [hexponent, zpow_add₀ (by norm_num), zpow_natCast] at hplaces
  unfold nearest?
  simp only [Nat.cast_ofNat]
  generalize places units - 17 = e at *
  generalize scaled units (-e) unitsPerOne = q at *
  -- a step of seventeen digits, and the value in such steps
  obtain ⟨step, hstep⟩ : ∃ step : ℚ, step = 10 ^ e * unitsPerOne := ⟨_, rfl⟩
  have hone : (0 : ℚ) < unitsPerOne := Nat.cast_pos.2 unitsPerOne_pos
  have hsteps : (q.1 / q.2 : ℚ) * step = units := by
    rw [hquot, hstep, zpow_neg]
    field_simp
  have hfine : step * 10 ^ 16 ≤ units := by
    rw [hstep]
    linarith
  have hpositive : 0 < step := by
    rw [hstep]
    exact mul_pos (by positivity) hone
  have hfloor : ((q.1 / q.2 : ℕ) : ℚ) ≤ q.1 / q.2 := Nat.cast_div_le
  have hceil : (q.1 / q.2 : ℚ) < (q.1 / q.2 + 1 : ℕ) := by
    rw [div_lt_iff₀ (Nat.cast_pos.2 hden), mul_comm]
    exact_mod_cast Nat.lt_mul_div_succ q.1 hden
  generalize q.1 / q.2 = c at *
  generalize (q.1 / q.2 : ℚ) = y at *
  rcases le_total (y - c) (1 / 2) with hnear | hnear
  · have hback : readsBack units ⟨c, e⟩ := by
      have hbelow := mul_nonneg (sub_nonneg.2 hfloor) hpositive.le
      have habove := mul_le_mul_of_nonneg_right hnear hpositive.le
      rw [sub_mul, hsteps] at hbelow habove
      exact readsBack_of_near hvalue hpos hstep hfine (by linarith only [habove]) (by linarith only [hbelow, hpositive])
    rw [hback]
    cases readsBack units ⟨c + 1, e⟩ with
    | true => split_ifs <;> rfl
    | false => rfl
  · have hback : readsBack units ⟨c + 1, e⟩ := by
      have hbelow := mul_le_mul_of_nonneg_right hnear hpositive.le
      have habove := mul_lt_mul_of_pos_right hceil hpositive
      rw [sub_mul, hsteps] at hbelow
      rw [hsteps] at habove
      refine readsBack_of_near hvalue hpos hstep hfine ?_ ?_
      · push_cast at habove ⊢
        linarith only [habove, hpositive]
      · push_cast
        linarith only [hbelow]
    rw [hback]
    cases readsBack units ⟨c, e⟩ with
    | true => split_ifs <;> rfl
    | false => rfl

/-- The shortest decimal reads back. -/
theorem readsBack_shortest {units : Nat} (hvalue : IsValue units) (hpos : 0 < units) :
    readsBack units (shortest units) := by
  unfold shortest
  cases hfind : (List.range 17).findSome? fun n => nearest? units (n + 1) with
  | some d =>
      obtain ⟨n, -, hn⟩ := List.exists_of_findSome?_eq_some hfind
      exact readsBack_of_nearest? hn
  | none =>
      have hnone := List.findSome?_eq_none_iff.1 hfind 16 (List.mem_range.2 (by decide))
      have hsome := isSome_nearest? hvalue hpos
      rw [hnone] at hsome
      cases hsome

end FleetRouting.Binary64
