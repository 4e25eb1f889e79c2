import FleetRouting.Proofs.Time.Calendar
import FleetRouting.Time.Rfc3339
/-!
# FleetRouting.Proofs.Time.Rfc3339

**A timestamp reads back from its text** (`Timestamp.read?_toText`): the text is read from part to part, and each part
that is written ends at a character that is no digit, so its digits are read to the last one.
-/

namespace FleetRouting.Timestamp

open Text

/-- A timestamp that a clock can show: in the range of seconds, and beyond the last nanosecond of its second only in a
leap second at the end of a minute. -/
structure Valid (t : Timestamp) : Prop where
  first : firstSecond ≤ t.seconds
  last : t.seconds ≤ lastSecond
  nanos : t.nanos < nanosPerSecond ∨ t.nanos < 2 * nanosPerSecond ∧ t.secondOfDay % 60 = 59

/-! ### Numbers -/

/-- What ends the digits of a part: a character that is no digit, and whatever follows. -/
def Ends (cs : List Char) : Prop := ∃ c rest, cs = c :: rest ∧ c.isDigit = false

theorem ends_cons {c : Char} {rest : List Char} (h : c.isDigit = false) : Ends (c :: rest) := ⟨c, rest, rfl, h⟩

theorem isDigit_of_mem_padded {width n : Nat} {c : Char} (h : c ∈ (padded width n).toList) : c.isDigit = true := by
  rw [padded, String.toList_ofList, List.mem_append] at h
  rcases h with h | h
  · rw [List.eq_of_mem_replicate h]
    rfl
  · exact Nat.isDigit_of_mem_toDigits (by decide) (by decide) h

theorem length_padded {width n : Nat} (hwidth : 0 < width) (hn : n < 10 ^ width) :
    (padded width n).toList.length = width := by
  have hle := (Nat.length_toDigits_le_iff (by decide) hwidth).2 hn
  rw [padded, String.toList_ofList, List.length_append, List.length_replicate]
  omega

theorem padded_ne_nil (width n : Nat) : (padded width n).toList ≠ [] := by
  rw [padded, String.toList_ofList]
  exact List.append_ne_nil_of_right_ne_nil _ Nat.toDigits_ne_nil

/-- Zeros in front do not change a number. -/
theorem ofDigitChars_padded (width n : Nat) : Nat.ofDigitChars 10 (padded width n).toList 0 = n := by
  rw [padded, String.toList_ofList, Nat.ofDigitChars_append, Nat.ofDigitChars_replicate_zero, Nat.mul_zero,
    Nat.ofDigitChars_ten_toDigits]

theorem isBlank_of_isDigit {c : Char} (h : c.isDigit = true) : isBlank c = false := by
  have hrange : 48 ≤ c.toNat ∧ c.toNat ≤ 57 := by
    simpa [Char.isDigit, UInt32.le_iff_toNat_le] using h
  exact isBlank_eq_false (by omega) (by omega)

/-- No blank stands in front of a number. -/
theorem skipBlanks_padded (width n : Nat) (rest : List Char) :
    skipBlanks ((padded width n).toList ++ rest) = (padded width n).toList ++ rest := by
  obtain ⟨c, cs, hcs⟩ := List.exists_cons_of_ne_nil (padded_ne_nil width n)
  have hdigit : c.isDigit = true := isDigit_of_mem_padded (hcs ▸ List.mem_cons_self ..)
  rw [hcs, List.cons_append, skipBlanks,
    List.dropWhile_cons_of_neg (by rw [isBlank_of_isDigit hdigit]; exact Bool.false_ne_true)]

/-- A number is read to its last digit. -/
theorem takeNumber?_padded {width w n : Nat} {rest : List Char} (hlength : (padded w n).toList.length ≤ width)
    (hrest : Ends rest) : takeNumber? width ((padded w n).toList ++ rest) = some (n, rest) := by
  obtain ⟨c, rest, rfl, hc⟩ := hrest
  have htake : (((padded w n).toList ++ c :: rest).take width).takeWhile Char.isDigit = (padded w n).toList := by
    rw [List.take_append, List.take_of_length_le hlength,
      List.takeWhile_append_of_pos fun d hd => isDigit_of_mem_padded hd]
    -- the digits end at `c`, or where no more of them may be read
    cases width - (padded w n).toList.length with
    | zero => exact List.append_nil _
    | succ k => rw [List.take_succ_cons, List.takeWhile_cons_of_neg (by rw [hc]; exact Bool.false_ne_true), List.append_nil]
  have hvalue : (padded w n).toList.foldl (fun n d => 10 * n + (d.toNat - '0'.toNat)) 0 = n :=
    ofDigitChars_padded w n
  simp only [takeNumber?, htake, hvalue, List.isEmpty_iff, padded_ne_nil, if_false, List.drop_left]

/-! ### Parts -/

/-- A field of two digits is read. -/
theorem takeField?_padded {n : Nat} (hn : n < 100) {rest : List Char} (hrest : Ends rest) :
    takeField? ((padded 2 n).toList ++ rest) = some (n, rest) := by
  rw [takeField?, skipBlanks_padded]
  exact takeNumber?_padded (Nat.le_of_eq (length_padded (by decide) hn)) hrest

/-- In front of a digit no sign is read. -/
theorem takeYear?_of_isDigit {c : Char} (hc : c.isDigit = true) (rest : List Char) :
    takeYear? (c :: rest) = (takeNumber? 4 (c :: rest)).map fun (y, rest) => ((y : Int), rest) := by
  have hskip : skipBlanks (c :: rest) = c :: rest :=
    List.dropWhile_cons_of_neg (by rw [isBlank_of_isDigit hc]; exact Bool.false_ne_true)
  rw [takeYear?, hskip]
  split
  · next heq =>
      obtain ⟨rfl, -⟩ := List.cons.inj heq
      exact absurd hc (by decide)
  · next heq =>
      obtain ⟨rfl, -⟩ := List.cons.inj heq
      exact absurd hc (by decide)
  · rfl

/-- Behind a minus the year counts backwards. -/
theorem takeYear?_minus (rest : List Char) :
    takeYear? ('-' :: rest) = (takeNumber? rest.length rest).map fun (y, rest) => (-(y : Int), rest) := by
  have hskip : skipBlanks ('-' :: rest) = '-' :: rest := List.dropWhile_cons_of_neg (by decide)
  rw [takeYear?, hskip]
  rfl

theorem takeYear?_plus (rest : List Char) :
    takeYear? ('+' :: rest) = (takeNumber? rest.length rest).map fun (y, rest) => ((y : Int), rest) := by
  have hskip : skipBlanks ('+' :: rest) = '+' :: rest := List.dropWhile_cons_of_neg (by decide)
  rw [takeYear?, hskip]
  rfl

theorem minus_toList : "-".toList = ['-'] := rfl

theorem plus_toList : "+".toList = ['+'] := rfl

theorem point_toList : ".".toList = ['.'] := rfl

/-- The year is read, with its sign where it has one. -/
theorem takeYear?_yearText (year : Int) {rest : List Char} (hrest : Ends rest) :
    takeYear? ((yearText year).toList ++ rest) = some (year, rest) := by
  by_cases hplain : 0 ≤ year ∧ year ≤ 9999
  · have hnumber : takeNumber? 4 ((padded 4 year.toNat).toList ++ rest) = some (year.toNat, rest) :=
      takeNumber?_padded (Nat.le_of_eq (length_padded (by decide) (by omega))) hrest
    obtain ⟨c, cs, hcs⟩ := List.exists_cons_of_ne_nil (padded_ne_nil 4 year.toNat)
    have hdigit : c.isDigit = true := isDigit_of_mem_padded (hcs ▸ List.mem_cons_self ..)
    rw [hcs, List.cons_append] at hnumber
    rw [yearText, if_pos hplain, hcs, List.cons_append, takeYear?_of_isDigit hdigit, hnumber]
    show some ((year.toNat : Int), rest) = some (year, rest)
    rw [Int.toNat_of_nonneg hplain.1]
  · have hnumber : takeNumber? ((padded 4 year.natAbs).toList ++ rest).length ((padded 4 year.natAbs).toList ++ rest) =
        some (year.natAbs, rest) :=
      takeNumber?_padded (by rw [List.length_append]; exact Nat.le_add_right ..) hrest
    by_cases hneg : year < 0
    · rw [yearText, if_neg hplain, if_pos hneg, String.toList_append, List.append_assoc, minus_toList,
        List.singleton_append, takeYear?_minus, hnumber]
      show some (-(year.natAbs : Int), rest) = some (year, rest)
      rw [Int.ofNat_natAbs_of_nonpos (by omega), Int.neg_neg]
    · rw [yearText, if_neg hplain, if_neg hneg, String.toList_append, List.append_assoc, plus_toList,
        List.singleton_append, takeYear?_plus, hnumber]
      show some ((year.natAbs : Int), rest) = some (year, rest)
      rw [Int.natAbs_of_nonneg (by omega)]

/-- So many digits behind the point are read as nanoseconds. -/
theorem takeFraction?_point {width n : Nat} (hwidth : 0 < width) (hmax : width ≤ 9) (hn : n < 10 ^ width) :
    takeFraction? (("." ++ padded width n).toList ++ ['Z']) = some (n * Nat.pow 10 (9 - width), ['Z']) := by
  have hlength := length_padded hwidth hn
  have hnumber : takeNumber? 9 ((padded width n).toList ++ ['Z']) = some (n, ['Z']) :=
    takeNumber?_padded (by omega) (ends_cons rfl)
  have hdigits : ((padded width n).toList ++ ['Z']).length - ['Z'].length = width := by
    rw [List.length_append, Nat.add_sub_cancel, hlength]
  rw [String.toList_append, point_toList, List.append_assoc, List.singleton_append, takeFraction?, hnumber]
  show some (n * Nat.pow 10 (9 - (((padded width n).toList ++ ['Z']).length - ['Z'].length)), ['Z']) = _
  rw [hdigits]

/-- The fraction of a second is read. -/
theorem takeFraction?_fractionText {nanos : Nat} (hnanos : nanos < nanosPerSecond) :
    takeFraction? ((fractionText nanos).toList ++ ['Z']) = some (nanos, ['Z']) := by
  unfold nanosPerSecond at hnanos
  unfold fractionText
  split
  · next hzero =>
      rw [hzero]
      rfl
  · split
    · next hmillis =>
        have hpoint := takeFraction?_point (show 0 < 3 by decide) (by decide) (show nanos / 1000000 < 10 ^ 3 by omega)
        rw [hpoint, show Nat.pow 10 (9 - 3) = 1000000 from rfl, Nat.div_mul_cancel (Nat.dvd_of_mod_eq_zero hmillis)]
    · split
      · next hmicros =>
          have hpoint := takeFraction?_point (show 0 < 6 by decide) (by decide) (show nanos / 1000 < 10 ^ 6 by omega)
          rw [hpoint, show Nat.pow 10 (9 - 6) = 1000 from rfl, Nat.div_mul_cancel (Nat.dvd_of_mod_eq_zero hmicros)]
      · have hpoint := takeFraction?_point (show 0 < 9 by decide) (by decide) (show nanos < 10 ^ 9 by omega)
        rw [hpoint, show Nat.pow 10 (9 - 9) = 1 from rfl, Nat.mul_one]

/-! ### The whole text -/

/-- A separator is passed. -/
theorem takeMark?_cons {c : Char} (hc : isBlank c = false) (rest : List Char) :
    takeMark? c (c :: rest) = some rest := by
  have hskip : skipBlanks (c :: rest) = c :: rest :=
    List.dropWhile_cons_of_neg (by rw [hc]; exact Bool.false_ne_true)
  rw [takeMark?, hskip]
  exact if_pos rfl

/-- The text of a date and a time of day in UTC, where the sixtieth second is a leap second. -/
def dateTimeText (date : Date) (hour minute second nanos : Nat) : String :=
  yearText date.year ++ "-" ++ padded 2 date.month ++ "-" ++ padded 2 date.day ++ "T" ++
    padded 2 hour ++ ":" ++ padded 2 minute ++ ":" ++ padded 2 second ++ fractionText nanos ++ "Z"

theorem toList_dateTimeText (date : Date) (hour minute second nanos : Nat) :
    (dateTimeText date hour minute second nanos).toList =
      (yearText date.year).toList ++ '-' :: ((padded 2 date.month).toList ++ '-' :: ((padded 2 date.day).toList ++
        'T' :: ((padded 2 hour).toList ++ ':' :: ((padded 2 minute).toList ++ ':' :: ((padded 2 second).toList ++
          ((fractionText nanos).toList ++ ['Z'])))))) := by
  have hcolon : ":".toList = [':'] := rfl
  have htime : "T".toList = ['T'] := rfl
  have hutc : "Z".toList = ['Z'] := rfl
  simp only [dateTimeText, String.toList_append, List.append_assoc, minus_toList, hcolon, htime, hutc,
    List.cons_append, List.nil_append]

/-- A fraction begins with its point, and the end of the text with a letter. -/
theorem ends_fractionText (nanos : Nat) : Ends ((fractionText nanos).toList ++ ['Z']) := by
  unfold fractionText
  split
  · exact ends_cons rfl
  · split
    · rw [String.toList_append, point_toList]
      exact ends_cons rfl
    · split
      · rw [String.toList_append, point_toList]
        exact ends_cons rfl
      · rw [String.toList_append, point_toList]
        exact ends_cons rfl

/-- The parts of a date and a time of day are read one after the other. -/
theorem read?_dateTimeText {date : Date} (hdate : date.isValid = true) {hour minute second nanos : Nat}
    (hhour : hour < 24) (hminute : minute < 60) (hsecond : second ≤ 60) (hnanos : nanos < nanosPerSecond)
    {seconds : Int} (hseconds : date.toDays * secondsPerDay + (hour * 3600 + minute * 60 + min second 59 : Nat) = seconds)
    (hfirst : firstSecond ≤ seconds) (hlast : seconds ≤ lastSecond) :
    read? (dateTimeText date hour minute second nanos) =
      some ⟨seconds, if second = 60 then nanos + nanosPerSecond else nanos⟩ := by
  obtain ⟨-, -, -, hmonth, -, hday⟩ := of_decide_eq_true hdate
  have hdays : Date.daysInMonth date.year date.month ≤ 31 := by
    unfold Date.daysInMonth
    split
    · split <;> decide
    · split <;> decide
  have hminus : isBlank '-' = false := by decide
  have hcolon : isBlank ':' = false := by decide
  rw [read?, toList_dateTimeText]
  -- the date
  refine Option.bind_eq_some_iff.2 ⟨_, takeYear?_yearText _ (ends_cons rfl), ?_⟩
  refine Option.bind_eq_some_iff.2 ⟨_, takeMark?_cons hminus _, ?_⟩
  refine Option.bind_eq_some_iff.2 ⟨_, takeField?_padded (by omega) (ends_cons rfl), ?_⟩
  refine Option.bind_eq_some_iff.2 ⟨_, takeMark?_cons hminus _, ?_⟩
  refine Option.bind_eq_some_iff.2 ⟨_, takeField?_padded (by omega) (ends_cons rfl), ?_⟩
  -- the time of day, behind its mark
  refine Option.bind_eq_some_iff.2 ⟨_, rfl, ?_⟩
  refine Option.bind_eq_some_iff.2 ⟨_, takeField?_padded (by omega) (ends_cons rfl), ?_⟩
  refine Option.bind_eq_some_iff.2 ⟨_, takeMark?_cons hcolon _, ?_⟩
  refine Option.bind_eq_some_iff.2 ⟨_, takeField?_padded (by omega) (ends_cons rfl), ?_⟩
  refine Option.bind_eq_some_iff.2 ⟨_, takeMark?_cons hcolon _, ?_⟩
  refine Option.bind_eq_some_iff.2 ⟨_, takeField?_padded (by omega) (ends_fractionText nanos), ?_⟩
  refine Option.bind_eq_some_iff.2 ⟨_, takeFraction?_fractionText hnanos, ?_⟩
  -- no offset from UTC, and nothing behind it
  refine Option.bind_eq_some_iff.2 ⟨(0, []), rfl, ?_⟩
  refine Option.bind_eq_some_iff.2 ⟨(), rfl, ?_⟩
  have hguard : (date.isValid && hour < 24 && minute < 60 && second ≤ 60 : Bool) = true := by
    simp only [hdate, decide_eq_true hhour, decide_eq_true hminute, decide_eq_true hsecond, Bool.and_self]
  refine Option.bind_eq_some_iff.2 ⟨(), if_pos hguard, ?_⟩
  refine Option.bind_eq_some_iff.2 ⟨(), if_pos ?_, ?_⟩
  · rw [hseconds, Int.sub_zero]
    exact ⟨hfirst, hlast⟩
  · rw [hseconds, Int.sub_zero]
    rfl

/-- **A timestamp reads back from its text.** -/
theorem read?_toText {t : Timestamp} (ht : t.Valid) : read? t.toText = some t := by
  obtain ⟨hfirst, hlast, hnanos⟩ := ht
  have hday : t.seconds.fdiv secondsPerDay = t.seconds / 86400 := Int.fdiv_eq_ediv_of_nonneg _ (by decide)
  have hsecondOfDay : t.secondOfDay = t.seconds % 86400 := rfl
  have hdays := Date.toDays_ofDays (t.seconds / 86400)
  have hvalid : (Date.ofDays (t.seconds / 86400)).isValid = true := by
    unfold firstSecond at hfirst
    unfold lastSecond at hlast
    have hyear := @Date.year_ofDays (t.seconds / 86400) (by omega) (by omega)
    exact Date.isValid_ofDays hyear.1 hyear.2
  unfold toText
  rw [hday, hsecondOfDay]
  rw [hsecondOfDay] at hnanos
  generalize htime : (t.seconds % 86400).toNat = time
  have hunit : secondsPerDay = 86400 := rfl
  -- beyond its last nanosecond a second is the leap second behind it, and written as the sixtieth of the minute
  unfold nanosPerSecond at hnanos ⊢
  have hread := @read?_dateTimeText _ hvalid (time / 3600) (time / 60 % 60) (time % 60 + t.nanos / 1000000000)
    (t.nanos % 1000000000) (by omega) (by omega) (by omega) (Nat.mod_lt _ (by decide)) t.seconds
    (by rw [hdays, hunit]; omega) hfirst hlast
  have hfraction : (if time % 60 + t.nanos / 1000000000 = 60 then t.nanos % 1000000000 + 1000000000
      else t.nanos % 1000000000) = t.nanos := by
    split <;> omega
  exact hread.trans (congrArg (fun nanos => some (Timestamp.mk t.seconds nanos)) hfraction)

/-! ### Times that are read -/

/-- Digits behind a number write less than the next number with zeros in their place. -/
theorem foldl_digits_lt {ds : List Char} (hds : ∀ d ∈ ds, d.isDigit = true) (n : Nat) :
    ds.foldl (fun n d => 10 * n + (d.toNat - '0'.toNat)) n < (n + 1) * 10 ^ ds.length := by
  induction ds generalizing n with
  | nil => simp
  | cons d ds ih =>
      have hdigit : d.toNat - '0'.toNat < 10 := by
        have hrange : 48 ≤ d.toNat ∧ d.toNat ≤ 57 := by
          simpa [Char.isDigit, UInt32.le_iff_toNat_le] using hds d (List.mem_cons_self ..)
        show d.toNat - 48 < 10
        omega
      have hrest := ih (fun d hd => hds d (List.mem_cons_of_mem _ hd)) (10 * n + (d.toNat - '0'.toNat))
      have hfactor : 10 * n + (d.toNat - '0'.toNat) + 1 ≤ (n + 1) * 10 := by omega
      rw [List.foldl_cons, List.length_cons, Nat.pow_succ', ← Nat.mul_assoc]
      exact hrest.trans_le (Nat.mul_le_mul_right _ hfactor)

/-- A number is less than its digits allow, and no more of them are read than may be. -/
theorem takeNumber?_spec {width n : Nat} {cs rest : List Char} (h : takeNumber? width cs = some (n, rest)) :
    cs.length - rest.length ≤ width ∧ n < 10 ^ (cs.length - rest.length) := by
  have hprefix : ((cs.take width).takeWhile Char.isDigit).length ≤ (cs.take width).length :=
    (List.takeWhile_sublist _).length_le
  have hdigits : ∀ d ∈ (cs.take width).takeWhile Char.isDigit, d.isDigit = true :=
    fun d hd => List.all_eq_true.1 List.all_takeWhile d hd
  simp only [takeNumber?] at h
  generalize (cs.take width).takeWhile Char.isDigit = ds at h hprefix hdigits
  split at h
  · cases h
  · obtain ⟨rfl, rfl⟩ := Prod.mk.inj (Option.some.inj h)
    have hlt := foldl_digits_lt hdigits 0
    rw [Nat.zero_add, Nat.one_mul] at hlt
    have hlength : cs.length - (cs.drop ds.length).length = ds.length := by
      rw [List.length_take] at hprefix
      rw [List.length_drop]
      omega
    rw [hlength]
    rw [List.length_take] at hprefix
    exact ⟨by omega, hlt⟩

/-- A fraction is less than a second. -/
theorem takeFraction?_lt {cs rest : List Char} {nanos : Nat} (h : takeFraction? cs = some (nanos, rest)) :
    nanos < nanosPerSecond := by
  unfold takeFraction? at h
  split at h
  · next digits =>
      obtain ⟨⟨n, after⟩, hnumber, heq⟩ := Option.map_eq_some_iff.1 h
      obtain ⟨rfl, -⟩ := Prod.mk.inj heq
      obtain ⟨hwidth, hn⟩ := takeNumber?_spec hnumber
      have hspan : 10 ^ (digits.length - after.length) * 10 ^ (9 - (digits.length - after.length)) = 10 ^ 9 := by
        rw [← Nat.pow_add, Nat.add_sub_cancel' hwidth]
      calc n * Nat.pow 10 (9 - (digits.length - after.length))
          < 10 ^ (digits.length - after.length) * 10 ^ (9 - (digits.length - after.length)) :=
            Nat.mul_lt_mul_of_pos_right hn (Nat.pow_pos (by decide))
        _ = nanosPerSecond := hspan
  · obtain ⟨rfl, -⟩ := Prod.mk.inj (Option.some.inj h)
    decide

/-- An offset is a whole number of minutes. -/
theorem takeOffset?_minutes {cs rest : List Char} {offset : Int} (h : takeOffset? cs = some (offset, rest)) :
    offset % 60 = 0 := by
  unfold takeOffset? at h
  split at h
  · obtain ⟨rfl, -⟩ := Prod.mk.inj (Option.some.inj h)
    rfl
  · obtain ⟨rfl, -⟩ := Prod.mk.inj (Option.some.inj h)
    rfl
  · obtain ⟨rfl, -⟩ := Prod.mk.inj (Option.some.inj h)
    rfl
  · obtain ⟨⟨sign, rest'⟩, -, h⟩ := Option.bind_eq_some_iff.1 h
    obtain ⟨⟨hours, rest'⟩, -, h⟩ := Option.bind_eq_some_iff.1 h
    obtain ⟨⟨minutes, rest'⟩, -, h⟩ := Option.bind_eq_some_iff.1 h
    simp only at h
    split at h
    · obtain ⟨rfl, -⟩ := Prod.mk.inj (Option.some.inj h)
      have hminutes : ((hours * 3600 + minutes * 60 : Nat) : Int) = (hours * 60 + minutes) * 60 := by
        omega
      rw [hminutes, ← Int.mul_assoc]
      exact Int.mul_emod_left _ _
    · cases h

/-- **A time that is read is one that a clock can show.** -/
theorem valid_of_read? {s : String} {t : Timestamp} (h : read? s = some t) : t.Valid := by
  unfold read? at h
  obtain ⟨⟨year, cs⟩, -, h⟩ := Option.bind_eq_some_iff.1 h
  obtain ⟨cs, -, h⟩ := Option.bind_eq_some_iff.1 h
  obtain ⟨⟨month, cs⟩, -, h⟩ := Option.bind_eq_some_iff.1 h
  obtain ⟨cs, -, h⟩ := Option.bind_eq_some_iff.1 h
  obtain ⟨⟨day, cs⟩, -, h⟩ := Option.bind_eq_some_iff.1 h
  obtain ⟨cs, -, h⟩ := Option.bind_eq_some_iff.1 h
  obtain ⟨⟨hour, cs⟩, -, h⟩ := Option.bind_eq_some_iff.1 h
  obtain ⟨cs, -, h⟩ := Option.bind_eq_some_iff.1 h
  obtain ⟨⟨minute, cs⟩, -, h⟩ := Option.bind_eq_some_iff.1 h
  obtain ⟨cs, -, h⟩ := Option.bind_eq_some_iff.1 h
  obtain ⟨⟨second, cs⟩, -, h⟩ := Option.bind_eq_some_iff.1 h
  obtain ⟨⟨nanos, cs⟩, hfraction, h⟩ := Option.bind_eq_some_iff.1 h
  obtain ⟨⟨offset, cs⟩, hoffset, h⟩ := Option.bind_eq_some_iff.1 h
  obtain ⟨-, -, h⟩ := Option.bind_eq_some_iff.1 h
  obtain ⟨-, -, h⟩ := Option.bind_eq_some_iff.1 h
  obtain ⟨_, hrange, h⟩ := Option.bind_eq_some_iff.1 h
  have hnanos := takeFraction?_lt hfraction
  have hminutes := takeOffset?_minutes hoffset
  have hday : (secondsPerDay : Int) = 86400 := rfl
  obtain rfl := Option.some.inj h
  have hbounds := (Option.guard_eq_some' _).1 hrange
  refine ⟨hbounds.1, hbounds.2, ?_⟩
  unfold nanosPerSecond at hnanos ⊢
  -- the sixtieth second is kept in the nanoseconds of the second before it, and no offset moves it within its minute
  split
  · next hleap =>
      refine .inr ⟨Nat.add_lt_add_right hnanos _, ?_⟩
      show ((_ - offset) % (secondsPerDay : Int)) % 60 = 59
      rw [hday, hleap]
      omega
  · exact .inl hnanos

end FleetRouting.Timestamp
