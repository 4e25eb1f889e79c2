import FleetRouting.Time.Calendar
import Mathlib.Tactic.IntervalCases
/-!
# FleetRouting.Proofs.Time.Calendar

**Numbering the days of the calendar is reversible** (`Date.toDays_ofDays`), and gives dates of the calendar
(`Date.isValid_ofDays`). Days of an era of four hundred years are found in their year by a quotient that grows with the
day (`Date.yearOfEra_mono`), so it is enough to look at the first and the last day of each year.
-/

namespace FleetRouting.Date

/-- The days of an era before its year `n`. Years start in March, so that year ends with the February of the next. -/
def yearStart (n : Nat) : Nat := n * 365 + n / 4 - n / 100 + n / 400

/-- The year of an era that a day of the era lies in. -/
def yearOfEra (day : Nat) : Nat := (day - day / 1460 + day / 36524 - day / 146096) / 365

/-! ### Years -/

/-- The last day of an era apart, later days lie in later years. -/
theorem yearOfEra_mono {a b : Nat} (h : a ≤ b) (hb : b < 146096) : yearOfEra a ≤ yearOfEra b := by
  refine Nat.div_le_div_right ?_
  have hshorter : a - a / 1460 ≤ b - b / 1460 := by omega
  have hcentury : a / 36524 ≤ b / 36524 := Nat.div_le_div_right h
  omega

/-- The first and the last day of a year lie in it. -/
theorem yearOfEra_bounds : ∀ n < 400, yearOfEra (yearStart n) = n ∧ yearOfEra (yearStart (n + 1) - 1) = n := by
  decide +kernel

theorem yearStart_lt_succ (n : Nat) : yearStart n < yearStart (n + 1) := by
  unfold yearStart
  omega

theorem yearStart_mono {m n : Nat} (h : m ≤ n) : yearStart m ≤ yearStart n := by
  induction h with
  | refl => exact Nat.le_refl _
  | step _ ih => exact Nat.le_trans ih (Nat.le_of_lt (yearStart_lt_succ _))

/-- A day of an era lies between the first days of its year and of the next. -/
theorem yearOfEra_spec {day : Nat} (h : day < 146097) :
    yearOfEra day < 400 ∧ yearStart (yearOfEra day) ≤ day ∧ day < yearStart (yearOfEra day + 1) := by
  by_cases hlast : day = 146096
  · subst hlast
    decide
  · have hday : day < 146096 := by omega
    have hlt : yearOfEra day < 400 :=
      Nat.lt_of_le_of_lt (yearOfEra_mono (show day ≤ 146095 by omega) (by decide)) (by decide)
    refine ⟨hlt, ?_, ?_⟩
    · -- before the first day of its year, a day would lie in the year before
      by_contra hbefore
      obtain ⟨n, hn⟩ : ∃ n, yearOfEra day = n + 1 := by
        refine Nat.exists_eq_succ_of_ne_zero fun hzero => hbefore ?_
        rw [hzero]
        exact Nat.zero_le day
      have hyear := (yearOfEra_bounds n (by omega)).2
      have hle := yearOfEra_mono (show day ≤ yearStart (n + 1) - 1 by rw [← hn]; omega) <|
        Nat.lt_of_le_of_lt (Nat.sub_le_sub_right (yearStart_mono (show n + 1 ≤ 399 by omega)) 1) (by decide)
      omega
    · by_contra hafter
      have hnext : yearOfEra day + 1 < 400 := by
        by_contra hlater
        have h400 : yearOfEra day + 1 = 400 := by omega
        rw [h400] at hafter
        exact hafter (Nat.lt_trans hday (by decide))
      have hyear := (yearOfEra_bounds _ hnext).1
      have hle := yearOfEra_mono (Nat.le_of_not_lt hafter) hday
      omega

/-- A year is one day longer than 365 when the February at its end belongs to a leap year. -/
theorem isLeapYear_of_long {era : Int} {n : Nat} (hn : n < 400) (h : yearStart n + 366 ≤ yearStart (n + 1)) :
    isLeapYear (era * 400 + n + 1) = true := by
  have hleap : (n + 1) % 4 = 0 ∧ ((n + 1) % 100 ≠ 0 ∨ (n + 1) % 400 = 0) := by
    unfold yearStart at h
    omega
  have hfour : (era * 400 + n + 1).emod 4 = 0 := by
    show (era * 400 + n + 1) % 4 = 0
    omega
  have hhundred : (era * 400 + n + 1).emod 100 ≠ 0 ∨ (era * 400 + n + 1).emod 400 = 0 := by
    show (era * 400 + n + 1) % 100 ≠ 0 ∨ (era * 400 + n + 1) % 400 = 0
    omega
  simpa [isLeapYear, hfour] using hhundred

theorem yearStart_succ_le (n : Nat) : yearStart (n + 1) ≤ yearStart n + 366 := by
  unfold yearStart
  omega

/-! ### Days of a year -/

/-- The date of a day of a year that starts in March. -/
def ofYearDay (year : Int) (day : Nat) : Date :=
  let shifted := (5 * day + 2) / 153
  let month := if shifted < 10 then shifted + 3 else shifted - 9
  ⟨if month ≤ 2 then year + 1 else year, month, day - (153 * shifted + 2) / 5 + 1⟩

/-- The date of a day is found in the year of its era. -/
theorem ofDays_eq {days era : Int} {day : Nat} (h : days + 719468 = era * 146097 + day) (hday : day < 146097) :
    ofDays days = ofYearDay (era * 400 + yearOfEra day) (day - yearStart (yearOfEra day)) := by
  have hlt := (yearOfEra_spec hday).1
  -- quotient and remainder of the eras, and then the same terms on both sides
  have hera : (days + 719468).fdiv 146097 = era := by
    rw [Int.fdiv_eq_ediv_of_nonneg _ (by decide), h]
    omega
  have hdayOfEra : (days + 719468 - era * 146097).toNat = day := by omega
  have hstart : yearStart (yearOfEra day) =
      365 * yearOfEra day + yearOfEra day / 4 - yearOfEra day / 100 := by
    unfold yearStart
    omega
  simp only [ofDays, ofYearDay, hera, hdayOfEra, hstart]
  rfl

/-- Months have thirty or thirty-one days in an order that makes every month begin where the quotient says. -/
theorem toDays_ofYearDay (era : Int) {n day : Nat} (hn : n < 400) (hday : day ≤ 365) :
    (ofYearDay (era * 400 + n) day).toDays = era * 146097 + (yearStart n + day : Nat) - 719468 := by
  have hshifted : (5 * day + 2) / 153 < 12 := by omega
  have hfirst : (153 * ((5 * day + 2) / 153) + 2) / 5 ≤ day := by omega
  have hstart : yearStart n = n * 365 + n / 4 - n / 100 := by
    unfold yearStart
    omega
  have hera : (era * 400 + n).fdiv 400 = era := by
    rw [Int.fdiv_eq_ediv_of_nonneg _ (by decide)]
    omega
  have hyearOfEra : (era * 400 + n - era * 400).toNat = n := by omega
  generalize hmonth : (5 * day + 2) / 153 = shifted at hshifted hfirst
  simp only [toDays, ofYearDay, hmonth]
  -- the last two months of the year are January and February of the next
  by_cases hearly : shifted < 10
  · have hback : (shifted + 3 + 9) % 12 = shifted := by omega
    rw [if_pos hearly, if_neg (show ¬ shifted + 3 ≤ 2 by omega), if_neg (show ¬ shifted + 3 ≤ 2 by omega), hera,
      hyearOfEra, hback, ← hstart]
    omega
  · have hback : (shifted - 9 + 9) % 12 = shifted := by omega
    rw [if_neg hearly, if_pos (show shifted - 9 ≤ 2 by omega), if_pos (show shifted - 9 ≤ 2 by omega),
      Int.add_sub_cancel, hera, hyearOfEra, hback, ← hstart]
    omega

/-- January and February belong to the year that follows. -/
theorem year_ofYearDay (year : Int) {day : Nat} (hday : day ≤ 365) :
    (ofYearDay year day).year = if 306 ≤ day then year + 1 else year := by
  by_cases hlate : 306 ≤ day
  · simp only [ofYearDay, if_pos hlate, if_neg (show ¬ (5 * day + 2) / 153 < 10 by omega)]
    exact if_pos (by omega)
  · simp only [ofYearDay, if_neg hlate, if_pos (show (5 * day + 2) / 153 < 10 by omega)]
    exact if_neg (by omega)

/-- A day of a year is a day of a month, if there is a leap day when the day asks for one. -/
theorem isValid_ofYearDay {year : Int} {day : Nat} (hday : day ≤ 365)
    (hleap : day = 365 → isLeapYear (year + 1) = true) (hfirst : firstYear ≤ (ofYearDay year day).year)
    (hlast : (ofYearDay year day).year ≤ lastYear) : (ofYearDay year day).isValid = true := by
  refine decide_eq_true ⟨hfirst, hlast, ?_⟩
  have hshifted : (5 * day + 2) / 153 < 12 := by omega
  generalize hmonth : (5 * day + 2) / 153 = shifted at hshifted
  simp only [ofYearDay, daysInMonth, hmonth]
  by_cases hfebruary : shifted = 11
  · subst hfebruary
    by_cases hlong : day = 365
    · simp [hlong, hleap hlong]
    · have hshort : day ≤ 364 := by omega
      simp only [show ¬ 11 < 10 by decide, if_false, Nat.reduceSub, Nat.le_refl, if_true]
      split <;> omega
  · interval_cases shifted
    all_goals simp
    all_goals omega

/-! ### All days -/

/-- Every day has an era and a day in it. -/
theorem exists_era (days : Int) : ∃ (era : Int) (day : Nat), days + 719468 = era * 146097 + day ∧ day < 146097 :=
  ⟨(days + 719468) / 146097, ((days + 719468) % 146097).toNat, by omega, by omega⟩

/-- **The date of a day has the number of that day.** -/
theorem toDays_ofDays (days : Int) : (ofDays days).toDays = days := by
  obtain ⟨era, day, hdays, hday⟩ := exists_era days
  obtain ⟨hyear, hstart, hnext⟩ := yearOfEra_spec hday
  have hlong := yearStart_succ_le (yearOfEra day)
  rw [ofDays_eq hdays hday, toDays_ofYearDay era hyear (by omega), Nat.add_sub_cancel' hstart]
  omega

/-- **The date of a day is a date of the calendar**, unless its year is out of range. -/
theorem isValid_ofDays {days : Int} (hfirst : firstYear ≤ (ofDays days).year) (hlast : (ofDays days).year ≤ lastYear) :
    (ofDays days).isValid = true := by
  obtain ⟨era, day, hdays, hday⟩ := exists_era days
  obtain ⟨hyear, hstart, hnext⟩ := yearOfEra_spec hday
  have hlong := yearStart_succ_le (yearOfEra day)
  rw [ofDays_eq hdays hday] at hfirst hlast ⊢
  refine isValid_ofYearDay (by omega) (fun h365 => ?_) hfirst hlast
  exact isLeapYear_of_long hyear (by omega)

/-- Days from the first of the first year to the last of the last have dates in those years. -/
theorem year_ofDays {days : Int} (hfirst : -96465292 ≤ days) (hlast : days ≤ 95026236) :
    firstYear ≤ (ofDays days).year ∧ (ofDays days).year ≤ lastYear := by
  obtain ⟨era, day, hdays, hday⟩ := exists_era days
  obtain ⟨hyear, hstart, hnext⟩ := yearOfEra_spec hday
  have hlong := yearStart_succ_le (yearOfEra day)
  rw [ofDays_eq hdays hday, year_ofYearDay _ (by omega), firstYear, lastYear]
  generalize yearOfEra day = n at *
  have hlow : -656 ≤ era := by omega
  have hhigh : era ≤ 655 := by omega
  -- only in the outermost eras does the day matter
  by_cases hfirstEra : era = -656
  · have h256 : 256 ≤ n := by
      by_contra hless
      have hle : yearStart (n + 1) ≤ yearStart 256 := yearStart_mono (by omega)
      have h256 : yearStart 256 = 93502 := by decide
      omega
    have h93502 : n = 256 → yearStart n = 93502 := fun h => h ▸ by decide
    split <;> omega
  · by_cases hlastEra : era = 655
    · have h142 : n ≤ 142 := by
        by_contra hmore
        have hle : yearStart 143 ≤ yearStart n := yearStart_mono (by omega)
        have h143 : yearStart 143 = 52229 := by decide
        omega
      have h51864 : n = 142 → yearStart n = 51864 := fun h => h ▸ by decide
      split <;> omega
    · split <;> omega

end FleetRouting.Date
