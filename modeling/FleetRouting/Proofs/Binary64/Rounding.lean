import FleetRouting.Binary64.Basic
import Mathlib.Algebra.Order.Field.Power
import Mathlib.Data.Nat.Log
import Mathlib.Tactic.FieldSimp
import Mathlib.Tactic.Linarith
import Mathlib.Tactic.Positivity
import Mathlib.Tactic.Ring
/-!
# FleetRouting.Proofs.Binary64.Rounding

**Which numbers are rounded to which value.** The numbers that are rounded to a value form an interval around it
(`Rounds`), whose ends lie half way to its neighbours; just above a power of two the lower neighbour is half as far away
as the upper one. Rounding gives values of the format only (`isValue_of_round`), and a value is rounded to itself
(`round_self`).
-/

namespace FleetRouting.Binary64

theorem unitsPerOne_pos : 0 < unitsPerOne := by
  unfold unitsPerOne
  exact bitSpan_pos _

theorem spacing_pos (units : Nat) : 0 < spacing units := bitSpan_pos _

/-! ### Nearest integers -/

/-- The nearest integer is at a distance of at most a half, and of less than that if it is odd. -/
theorem roundDiv_eq {num den q : Nat} (hden : 0 < den) (hlow : 2 * (q * den) ≤ 2 * num + den)
    (hhigh : 2 * num ≤ 2 * (q * den) + den)
    (hodd : q % 2 = 1 → 2 * (q * den) < 2 * num + den ∧ 2 * num < 2 * (q * den) + den) : roundDiv num den = q := by
  have hnum : num / den * den + num % den = num := Nat.div_add_mod' num den
  have hrest : num % den < den := Nat.mod_lt num hden
  have hge : num / den ≤ q := by
    by_contra hlt
    have hmul : (q + 1) * den ≤ num / den * den := Nat.mul_le_mul_right den (by omega)
    rw [Nat.add_mul] at hmul
    omega
  have hle : q ≤ num / den + 1 := by
    by_contra hgt
    have hmul : (num / den + 2) * den ≤ q * den := Nat.mul_le_mul_right den (by omega)
    rw [Nat.add_mul] at hmul
    omega
  unfold roundDiv
  simp only
  rcases (by omega : q = num / den ∨ q = num / den + 1) with rfl | rfl
  · split_ifs <;> omega
  · rw [Nat.add_mul] at hlow hodd
    split_ifs <;> omega

/-! ### Values of the format -/

/-- Numbers of units that make a value of the format, as long as they are not too large. -/
def IsValue (units : Nat) : Prop := spacing units ∣ units

theorem IsValue.spacing_le {units : Nat} (h : IsValue units) (hpos : 0 < units) : spacing units ≤ units :=
  Nat.le_of_dvd hpos h

/-- What has no more than 53 digits in front of a place is spaced at most as that place. -/
theorem spacing_dvd_of_lt {n k : Nat} (hn : n < 2 ^ (53 + k)) : spacing n ∣ 2 ^ k := by
  refine Nat.pow_dvd_pow 2 ?_
  rcases Nat.eq_zero_or_pos n with rfl | hpos
  · rw [Nat.log2_zero]
    omega
  · have hlog := (Nat.log2_lt hpos.ne').2 hn
    omega

theorem spacing_dvd_two_pow_log2 (n : Nat) : spacing n ∣ 2 ^ n.log2 :=
  Nat.pow_dvd_pow 2 (Nat.sub_le _ _)

theorem isValue_two_pow (k : Nat) : IsValue (2 ^ k) := by
  rw [IsValue, spacing, Nat.log2_two_pow]
  exact Nat.pow_dvd_pow 2 (Nat.sub_le k 52)

/-- At most `2 ^ 53` steps of a power of two are a value. -/
theorem isValue_mul_two_pow {q k : Nat} (hq : q ≤ 2 ^ 53) : IsValue (q * 2 ^ k) := by
  rcases Nat.lt_or_eq_of_le hq with hlt | rfl
  · have hn : q * 2 ^ k < 2 ^ (53 + k) := by
      rw [Nat.pow_add]
      exact Nat.mul_lt_mul_of_pos_right hlt (Nat.two_pow_pos k)
    exact (spacing_dvd_of_lt hn).trans (Nat.dvd_mul_left _ q)
  · rw [← Nat.pow_add]
    exact isValue_two_pow _

/-- A number has at most 53 digits in front of its last place. -/
theorem lt_pow_mul_spacing (n : Nat) : n < 2 ^ 53 * spacing n := by
  rw [spacing, bitSpan, Nat.pow_eq, ← Nat.pow_add]
  exact Nat.lt_log2_self.trans_le (Nat.pow_le_pow_right Nat.two_pos (by omega))

theorem roundDiv_le {num den bound : Nat} (hden : 0 < den) (h : num < bound * den) : roundDiv num den ≤ bound := by
  have hquot : num / den < bound := (Nat.div_lt_iff_lt_mul hden).2 h
  unfold roundDiv
  simp only
  split_ifs <;> omega

/-- What is rounded is a value of the format. -/
theorem isValue_of_round {negative sign : Bool} {num den units : Nat} (hden : 0 < den)
    (h : round negative num den = .finite sign units) : IsValue units ∧ units < overflow := by
  unfold round at h
  simp only at h
  split at h
  · next hsmall =>
      injection h with hsign hunits
      rw [hunits] at hsmall
      refine ⟨?_, hsmall⟩
      rw [← hunits]
      refine isValue_mul_two_pow (roundDiv_le (Nat.mul_pos hden (spacing_pos _)) ?_)
      -- the quotient has at most 53 digits in front of its last place
      have hquot := lt_pow_mul_spacing (num / den)
      have hnum : num < den * (num / den + 1) := Nat.lt_mul_div_succ num hden
      calc num < den * (num / den + 1) := hnum
        _ ≤ den * (2 ^ 53 * spacing (num / den)) := Nat.mul_le_mul_left den hquot
        _ = 2 ^ 53 * (den * spacing (num / den)) := Nat.mul_left_comm _ _ _
  · cases h

/-! ### Intervals of rounding -/

/-- How far below a value the numbers lie that are still rounded to it. -/
def reachBelow (units : Nat) : ℚ :=
  if units = spacing units * bitSpan 52 ∧ 1 < spacing units then spacing units / 4 else spacing units / 2

/-- The numbers of units that are rounded to a value: at the ends of the interval only if its last digit is even. -/
def Rounds (units : Nat) (x : ℚ) : Prop :=
  (units - reachBelow units ≤ x ∧ x ≤ units + spacing units / 2) ∧
    (units / spacing units % 2 = 1 → units - reachBelow units < x ∧ x < units + spacing units / 2)

theorem reachBelow_pos (units : Nat) : 0 < reachBelow units := by
  have hstep : (0 : ℚ) < spacing units := Nat.cast_pos.2 (spacing_pos units)
  unfold reachBelow
  split_ifs <;> linarith

theorem reachBelow_le (units : Nat) : reachBelow units ≤ spacing units / 2 := by
  have hstep : (0 : ℚ) < spacing units := Nat.cast_pos.2 (spacing_pos units)
  unfold reachBelow
  split_ifs <;> linarith

/-- A value is in its own interval. -/
theorem rounds_self (units : Nat) : Rounds units units := by
  have hstep : (0 : ℚ) < spacing units := Nat.cast_pos.2 (spacing_pos units)
  have hbelow := reachBelow_pos units
  exact ⟨⟨by linarith, by linarith⟩, fun _ => ⟨by linarith, by linarith⟩⟩

/-- Rounding to multiples of the last place of a quotient. -/
theorem round_eq_of_spacing {num den units : Nat} (hden : 0 < den) (hdvd : spacing (num / den) ∣ units)
    (hsmall : units < overflow)
    (hnear : (units - spacing (num / den) / 2 : ℚ) ≤ num / den ∧ (num / den : ℚ) ≤ units + spacing (num / den) / 2)
    (hodd : units / spacing (num / den) % 2 = 1 →
      (units - spacing (num / den) / 2 : ℚ) < num / den ∧ (num / den : ℚ) < units + spacing (num / den) / 2)
    (negative : Bool) : round negative num den = .finite negative units := by
  have hdenq : (0 : ℚ) < den := Nat.cast_pos.2 hden
  obtain ⟨q, hq⟩ := hdvd
  have hpos := spacing_pos (num / den)
  generalize hstep : spacing (num / den) = step at *
  -- the distance to the units, with the denominator cleared
  rw [le_div_iff₀ hdenq, div_le_iff₀ hdenq] at hnear
  rw [lt_div_iff₀ hdenq, div_lt_iff₀ hdenq] at hodd
  have hlast : units / step = q := by rw [hq, Nat.mul_div_cancel_left q hpos]
  have hcleared : (q * (den * step) : ℚ) = units * den := by
    rw [hq]
    push_cast
    ring
  have hquot : roundDiv num (den * step) = q := by
    refine roundDiv_eq (Nat.mul_pos hden hpos) ?_ ?_ fun hq2 => ?_
    · have hlow : (2 * (q * (den * step)) : ℚ) ≤ 2 * num + den * step := by linarith [hnear.1]
      exact_mod_cast hlow
    · have hhigh : (2 * num : ℚ) ≤ 2 * (q * (den * step)) + den * step := by linarith [hnear.2]
      exact_mod_cast hhigh
    · obtain ⟨hlow, hhigh⟩ := hodd (by rw [hlast, hq2])
      have hlow' : (2 * (q * (den * step)) : ℚ) < 2 * num + den * step := by linarith
      have hhigh' : (2 * num : ℚ) < 2 * (q * (den * step)) + den * step := by linarith
      exact ⟨by exact_mod_cast hlow', by exact_mod_cast hhigh'⟩
  simp only [round, hstep, hquot]
  rw [Nat.mul_comm q, ← hq, if_pos hsmall]

/-- Multiples of a step are at least a step apart. -/
theorem add_le_of_dvd {step a b : Nat} (ha : step ∣ a) (hb : step ∣ b) (h : a < b) : a + step ≤ b := by
  have hle := Nat.le_of_dvd (Nat.sub_pos_of_lt h) (Nat.dvd_sub hb ha)
  omega

theorem log2_eq {n k : Nat} (hlow : 2 ^ k ≤ n) (hhigh : n < 2 ^ (k + 1)) : n.log2 = k :=
  (Nat.log2_eq_iff (Nat.lt_of_lt_of_le (Nat.two_pow_pos k) hlow).ne').2 ⟨hlow, hhigh⟩

/-- A number just below a power of two that has more than 53 digits is spaced half as far as the power. -/
theorem round_two_pow {num den k : Nat} (hden : 0 < den) (hsmall : 2 ^ (k + 53) < overflow)
    (hlow : (2 ^ (k + 53) - 2 ^ k / 2 : ℚ) ≤ num / den) (hhigh : num / den < 2 ^ (k + 53)) (negative : Bool) :
    round negative num den = .finite negative (2 ^ (k + 53)) := by
  have hstep : spacing (num / den) = 2 ^ k := by
    have hfloor : 2 ^ (k + 52) ≤ num / den := by
      rw [Nat.le_div_iff_mul_le hden]
      have hdenq : (0 : ℚ) < den := Nat.cast_pos.2 hden
      have hhalf : (2 ^ (k + 52) : ℚ) ≤ num / den := by
        have hpow : (0 : ℚ) < 2 ^ k := by positivity
        rw [pow_add] at hlow ⊢
        linarith
      rw [le_div_iff₀ hdenq] at hhalf
      exact_mod_cast hhalf
    rw [spacing, log2_eq hfloor hhigh]
    rfl
  have hquot : (num / den : ℚ) < 2 ^ (k + 53) := by
    have hdenq : (0 : ℚ) < den := Nat.cast_pos.2 hden
    rw [div_lt_iff₀ hdenq]
    exact_mod_cast (Nat.div_lt_iff_lt_mul hden).1 hhigh
  have hpow : (0 : ℚ) < 2 ^ k := by positivity
  refine round_eq_of_spacing hden ?_ hsmall ?_ ?_ negative
  · rw [hstep]
    exact Nat.pow_dvd_pow 2 (Nat.le_add_right k 53)
  · rw [hstep]
    push_cast
    exact ⟨hlow, by linarith⟩
  · -- the last digit of a power is even
    rw [hstep, Nat.pow_add, Nat.mul_div_cancel_left _ (Nat.two_pow_pos k)]
    intro hodd
    exact absurd hodd (by decide)

section

variable {num den units : Nat} (hden : 0 < den) (hvalue : IsValue units) (hpos : 0 < units)
  (hrounds : Rounds units (num / den))

include hden

theorem le_quotient_iff {k : Nat} : k ≤ num / den ↔ (k : ℚ) ≤ num / den := by
  rw [Nat.le_div_iff_mul_le hden, le_div_iff₀ (Nat.cast_pos.2 hden)]
  exact_mod_cast Iff.rfl

include hvalue hrounds

/-- The interval of a value does not reach the next power of two. -/
theorem quotient_lt_of_rounds : num / den < 2 ^ (units.log2 + 1) := by
  have hstep : (0 : ℚ) < spacing units := Nat.cast_pos.2 (spacing_pos units)
  by_contra hge
  have hbeyond := (le_quotient_iff hden).1 (Nat.le_of_not_lt hge)
  have hnext := add_le_of_dvd hvalue (Nat.pow_dvd_pow 2 (by omega : units.log2 - 52 ≤ units.log2 + 1))
    Nat.lt_log2_self
  have hnextq : (units + spacing units : ℚ) ≤ (2 ^ (units.log2 + 1) : ℕ) := by exact_mod_cast hnext
  linarith [hrounds.1.2]

include hpos

/-- Only the interval of a power of two reaches below that power. -/
theorem eq_two_pow_of_rounds (hbelow : num / den < 2 ^ units.log2) : units = 2 ^ units.log2 := by
  have hstep : (0 : ℚ) < spacing units := Nat.cast_pos.2 (spacing_pos units)
  have hle : 2 ^ units.log2 ≤ units := Nat.log2_self_le hpos.ne'
  by_contra hne
  have hgap := add_le_of_dvd (spacing_dvd_two_pow_log2 units) hvalue (lt_of_le_of_ne hle (Ne.symm hne))
  have hgapq : ((2 ^ units.log2 : ℕ) + spacing units : ℚ) ≤ units := by exact_mod_cast hgap
  have hreach := reachBelow_le units
  exact absurd ((le_quotient_iff hden).2 (by linarith [hrounds.1.1])) (Nat.not_le_of_lt hbelow)

end

/-- **The numbers in the interval of a value are rounded to it.** -/
theorem round_eq_of_rounds {num den units : Nat} (hden : 0 < den) (hvalue : IsValue units) (hpos : 0 < units)
    (hsmall : units < overflow) (hrounds : Rounds units (num / den)) (negative : Bool) :
    round negative num den = .finite negative units := by
  have htop := quotient_lt_of_rounds hden hvalue hrounds
  have hreach := reachBelow_le units
  by_cases hsame : spacing (num / den) = spacing units
  · refine round_eq_of_spacing hden (hsame ▸ hvalue) hsmall ?_ ?_ negative
    · rw [hsame]
      exact ⟨by linarith [hrounds.1.1], hrounds.1.2⟩
    · rw [hsame]
      intro hodd
      obtain ⟨hlow, hhigh⟩ := hrounds.2 hodd
      exact ⟨by linarith, hhigh⟩
  · -- the number lies below the power of two at which the spacing of the value begins
    have hbelow : num / den < 2 ^ units.log2 := by
      by_contra hge
      refine hsame ?_
      rw [spacing, spacing, log2_eq (Nat.le_of_not_lt hge) htop]
    have hunits := eq_two_pow_of_rounds hden hvalue hpos hrounds hbelow
    obtain ⟨k, hk⟩ : ∃ k, units.log2 = k + 53 := by
      refine ⟨units.log2 - 53, ?_⟩
      by_contra hfew
      have hone {n : Nat} (hn : n < 2 ^ (units.log2 + 1)) : spacing n = 1 := by
        refine Nat.dvd_one.1 (spacing_dvd_of_lt (k := 0) (hn.trans_le ?_))
        exact Nat.pow_le_pow_right Nat.two_pos (by omega)
      exact hsame ((hone htop).trans (hone Nat.lt_log2_self).symm)
    have hspacing : spacing units = 2 ^ (k + 1) := by
      rw [spacing, hk]
      rfl
    have hquarter : reachBelow units = spacing units / 4 := by
      refine if_pos ⟨?_, ?_⟩
      · rw [hspacing, bitSpan, Nat.pow_eq, ← Nat.pow_add, hunits, hk]
      · rw [hspacing]
        exact Nat.one_lt_two_pow (Nat.succ_ne_zero k)
    have hlow := hrounds.1.1
    rw [hk] at hunits hbelow
    rw [hquarter, hspacing, hunits] at hlow
    rw [hunits] at hsmall ⊢
    refine round_two_pow hden hsmall ?_ hbelow negative
    push_cast at hlow
    rw [pow_succ _ k] at hlow
    linarith

theorem round_zero (negative : Bool) (den : Nat) : round negative 0 den = .finite negative 0 := by
  have hquot (den : Nat) : roundDiv 0 den = 0 := by
    unfold roundDiv
    simp only [Nat.zero_div, Nat.zero_mod]
    split_ifs <;> omega
  have hsmall : 0 < overflow := by
    unfold overflow
    exact bitSpan_pos _
  simp only [round, hquot, Nat.zero_mul, if_pos hsmall]

/-- A value is rounded to itself. -/
theorem round_self {den units : Nat} (hden : 0 < den) (hvalue : IsValue units) (hsmall : units < overflow)
    (negative : Bool) : round negative (units * den) den = .finite negative units := by
  rcases Nat.eq_zero_or_pos units with rfl | hpos
  · rw [Nat.zero_mul, round_zero]
  · refine round_eq_of_rounds hden hvalue hpos hsmall ?_ negative
    have hdenq : (den : ℚ) ≠ 0 := Nat.cast_ne_zero.2 hden.ne'
    rw [Nat.cast_mul, mul_div_cancel_right₀ _ hdenq]
    exact rounds_self units

/-! ### Values and operations -/

/-- The values that the format has: the others that can be written down are never computed. -/
inductive InFormat : Binary64 → Prop
  | nan : InFormat .nan
  | infinite (negative : Bool) : InFormat (.infinite negative)
  | finite (negative : Bool) {units : Nat} (value : IsValue units) (small : units < overflow) :
      InFormat (.finite negative units)

theorem inFormat_round (negative : Bool) (num : Nat) {den : Nat} (hden : 0 < den) :
    (round negative num den).InFormat := by
  cases hround : round negative num den with
  | nan => exact .nan
  | infinite sign => exact .infinite sign
  | finite sign units =>
      obtain ⟨hvalue, hsmall⟩ := isValue_of_round hden hround
      exact .finite sign hvalue hsmall

theorem inFormat_mul (a b : Binary64) : (a * b).InFormat := by
  show (a.mul b).InFormat
  unfold mul
  split
  · exact inFormat_round _ _ unitsPerOne_pos
  · exact .infinite _
  · split_ifs
    · exact .nan
    · exact .infinite _
  · split_ifs
    · exact .nan
    · exact .infinite _
  · exact .nan

theorem isValue_mul_bitSpan {q k : Nat} (hq : q ≤ 2 ^ 53) : IsValue (q * bitSpan k) := isValue_mul_two_pow hq

theorem mul_bitSpan_lt {q j k : Nat} (hq : q ≤ 2 ^ 53) (h : 53 + j < k) : q * bitSpan j < bitSpan k := by
  have hmul : 2 ^ 53 * 2 ^ j < 2 ^ k := by
    rw [← Nat.pow_add]
    exact Nat.pow_lt_pow_right Nat.one_lt_two h
  exact (Nat.mul_le_mul_right (2 ^ j) hq).trans_lt hmul

/-- Whole numbers of up to 53 digits are values of the format. -/
theorem ofNat_eq {n : Nat} (hn : n ≤ 2 ^ 53) : ofNat n = .finite false (n * unitsPerOne) := by
  have hvalue : IsValue (n * unitsPerOne) := by
    unfold unitsPerOne
    exact isValue_mul_bitSpan hn
  have hsmall : n * unitsPerOne < overflow := by
    unfold unitsPerOne overflow
    exact mul_bitSpan_lt hn (by decide)
  have hself := round_self Nat.one_pos hvalue hsmall false
  rw [Nat.mul_one] at hself
  rw [ofNat, hself]

theorem finite_mul_finite (s t : Bool) (u v : Nat) :
    finite s u * finite t v = round (s != t) (u * v) unitsPerOne := by
  show (finite s u).mul (finite t v) = _
  rw [mul]

/-- A finite value times one is itself. -/
theorem mul_ofNat_one {a : Binary64} (ha : a.InFormat) (hfinite : a.isFinite) : a * ofNat 1 = a := by
  cases ha with
  | nan => cases hfinite
  | infinite negative => cases hfinite
  | finite negative hvalue hsmall =>
      rw [ofNat_eq (by decide), finite_mul_finite, Nat.one_mul, round_self unitsPerOne_pos hvalue hsmall,
        Bool.bne_false]

theorem zero_le_finite (units : Nat) : Binary64.zero.le (finite false units) := by
  simp [zero, le, rank?]

/-- What is rounded from a number that is not negative is not negative. -/
theorem round_of_nonneg {negative : Bool} {num : Nat} (h : negative = false ∨ num = 0) (den : Nat) :
    (round negative num den).isFinite ∧ Binary64.zero.le (round negative num den) ∨
      round negative num den = .infinite false := by
  rcases h with rfl | rfl
  · unfold round
    simp only
    split
    · exact .inl ⟨rfl, zero_le_finite _⟩
    · exact .inr rfl
  · rw [round_zero]
    cases negative with
    | false => exact .inl ⟨rfl, rfl⟩
    | true => exact .inl ⟨rfl, rfl⟩

end FleetRouting.Binary64
