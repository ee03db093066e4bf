import HttpExchange.Time.Calendar
import Mathlib.Algebra.Order.Group.Nat

/-! # Days and dates

    Every day has one date: the number of the date that is found for a day is
    that day, and within the years 1 to 9999 the calendar has the date.

    * `daysBeforeYear_succ` says how long a year is, so the days before the
      years are in order (`daysBeforeYear_le`);
    * `exists_year` is the arithmetic of the cycles of 400, 100, 4 and 1 years,
      and `splitMonth_eq` goes through the months of one year;
    * `number_ofNumber` and `isValid_ofNumber` put them together. -/

namespace HttpExchange.Calendar

variable {n year : Nat} {d : Date}

/-! ## Years -/

/-- The days of a year. -/
def yearLength (year : Nat) : Nat := if isLeap year then 366 else 365

theorem isLeap_iff (year : Nat) :
    isLeap year = true ↔ year % 4 = 0 ∧ (year % 100 ≠ 0 ∨ year % 400 = 0) := by
  rw [isLeap, Bool.and_eq_true, Bool.or_eq_true, beq_iff_eq, bne_iff_ne, beq_iff_eq]

theorem daysBeforeYear_succ (hyear : 0 < year) :
    daysBeforeYear (year + 1) = daysBeforeYear year + yearLength year := by
  obtain ⟨y, rfl⟩ : ∃ y, year = y + 1 := ⟨year - 1, by omega⟩
  have hhundreds : y / 100 ≤ y := Nat.div_le_self _ _
  -- a quotient grows by one at the multiples of the divisor
  have hquotient : ∀ k, (y + 1) / k = y / k + if (y + 1) % k = 0 then 1 else 0 := by
    intro k
    rw [Nat.succ_div]
    simp only [Nat.dvd_iff_mod_eq_zero]
  simp only [daysBeforeYear, yearLength, isLeap_iff, Nat.add_sub_cancel, hquotient]
  generalize y / 4 = fours
  generalize y / 100 = hundreds at *
  generalize y / 400 = cycles
  split <;> split <;> split <;> split <;> omega

theorem daysBeforeYear_le {a b : Nat} (h : a ≤ b) : daysBeforeYear a ≤ daysBeforeYear b := by
  induction h with
  | refl => exact Nat.le_refl _
  | @step b h ih =>
      refine ih.trans ?_
      cases b with
      | zero => exact Nat.le_refl _
      | succ b =>
          rw [Nat.succ_eq_add_one, daysBeforeYear_succ (Nat.succ_pos b)]
          exact Nat.le_add_right _ _

/-- A day before the start of a year lies in an earlier one. -/
theorem lt_of_daysBeforeYear_lt {a b : Nat} (h : daysBeforeYear a < daysBeforeYear b) : a < b :=
  Nat.lt_of_not_le fun hle => Nat.not_le.mpr h (daysBeforeYear_le hle)

/-- The months make up the year. -/
theorem total_monthLengths (year : Nat) : total (monthLengths year) = yearLength year := by
  rw [monthLengths, yearLength]
  split <;> rfl

/-! ## The date of a day -/

/-- The days before a year that is counted in cycles of 400, 100, 4 and 1. -/
theorem daysBeforeYear_cycles {b c e : Nat} (a : Nat) (hb : b ≤ 3) (hc : c ≤ 24) (he : e ≤ 3) :
    daysBeforeYear (a * 400 + b * 100 + c * 4 + e + 1)
      = a * 146097 + b * 36524 + c * 1461 + e * 365 := by
  have hfours : (a * 400 + b * 100 + c * 4 + e) / 4 = a * 100 + b * 25 + c := by omega
  have hhundreds : (a * 400 + b * 100 + c * 4 + e) / 100 = a * 4 + b := by omega
  have hcycles : (a * 400 + b * 100 + c * 4 + e) / 400 = a := by omega
  rw [daysBeforeYear, Nat.add_sub_cancel, hfours, hhundreds, hcycles]
  omega

/-- The last year of four is a leap year, unless it is the last of a hundred
    and not of 400. -/
theorem isLeap_cycles {b c : Nat} (a : Nat) (hc : c ≤ 24) (h : b = 3 ∨ c ≤ 23) :
    isLeap (a * 400 + b * 100 + c * 4 + 3 + 1) = true := by
  have hfour : (a * 400 + b * 100 + c * 4 + 3 + 1) % 4 = 0 := by omega
  refine (isLeap_iff _).mpr ⟨hfour, ?_⟩
  by_cases hlast : c ≤ 23
  · exact Or.inl (by omega)
  · exact Or.inr (by omega)

/-- **The year of a day**: the cycles leave a day within the year. -/
theorem exists_year (n : Nat) :
    ∃ year rest, 0 < year ∧ daysBeforeYear year + rest = n ∧ rest < yearLength year ∧
      Date.ofNumber n
        = ⟨year, (splitMonth 1 (monthLengths year) rest).1,
            (splitMonth 1 (monthLengths year) rest).2⟩ := by
  -- the cycles of 400, 100 and 4 years, and the years of the last one
  obtain ⟨a, ha⟩ : ∃ a, a = n / 146097 := ⟨_, rfl⟩
  obtain ⟨b, hb⟩ : ∃ b, b = min (n % 146097 / 36524) 3 := ⟨_, rfl⟩
  obtain ⟨r, hr⟩ : ∃ r, r = n % 146097 - b * 36524 := ⟨_, rfl⟩
  obtain ⟨c, hc⟩ : ∃ c, c = r / 1461 := ⟨_, rfl⟩
  obtain ⟨e, he⟩ : ∃ e, e = min (r % 1461 / 365) 3 := ⟨_, rfl⟩
  have hdate : Date.ofNumber n = ⟨a * 400 + b * 100 + c * 4 + e + 1,
      (splitMonth 1 (monthLengths (a * 400 + b * 100 + c * 4 + e + 1)) (r % 1461 - e * 365)).1,
      (splitMonth 1 (monthLengths (a * 400 + b * 100 + c * 4 + e + 1))
        (r % 1461 - e * 365)).2⟩ := by
    rw [ha, he, hc, hr, hb]
    rfl
  have hb3 : b ≤ 3 := by omega
  have he3 : e ≤ 3 := by omega
  have hr' : r ≤ 36523 ∨ b = 3 ∧ r ≤ 36524 := by omega
  have hc24 : c ≤ 24 := by omega
  refine ⟨_, _, Nat.succ_pos _, ?_, ?_, hdate⟩
  · rw [daysBeforeYear_cycles a hb3 hc24 he3]
    omega
  · rw [yearLength]
    by_cases hlast : r % 1461 = 1460
    · -- the last day of four years is the 366th of a leap year
      obtain rfl : e = 3 := by omega
      rw [if_pos (isLeap_cycles a hc24 (by omega))]
      omega
    · split <;> omega

/-- **The month and the day** that a day of a year is split into. -/
theorem splitMonth_eq {lengths : List Nat} {n : Nat} (h : n < total lengths) (first : Nat) :
    ∃ i k, i < lengths.length ∧ k < lengths.getD i 0 ∧ total (lengths.take i) + k = n ∧
      splitMonth first lengths n = (first + i, k + 1) := by
  induction lengths generalizing n first with
  | nil => exact absurd h (Nat.not_lt_zero n)
  | cons length lengths ih =>
      rw [splitMonth]
      by_cases hn : n < length
      · rw [if_pos hn]
        exact ⟨0, n, Nat.succ_pos _, hn, Nat.zero_add n, rfl⟩
      · have hrest : n - length < total lengths := by
          have htotal : total (length :: lengths) = length + total lengths := rfl
          omega
        obtain ⟨i, k, hi, hk, htotal, hsplit⟩ := ih hrest (first + 1)
        rw [if_neg hn, hsplit]
        refine ⟨i + 1, k, Nat.succ_lt_succ hi, hk, ?_, ?_⟩
        · show length + total (lengths.take i) + k = n
          omega
        · rw [Nat.add_assoc, Nat.add_comm 1 i]

/-- The date of a day, with its month and its day counted from zero. -/
theorem exists_ofNumber (n : Nat) :
    ∃ year i k, Date.ofNumber n = ⟨year, i + 1, k + 1⟩ ∧ 0 < year ∧ i < 12 ∧
      k < (monthLengths year).getD i 0 ∧
      daysBeforeYear year + total ((monthLengths year).take i) + k = n ∧
      n < daysBeforeYear (year + 1) := by
  obtain ⟨year, rest, hpos, hrest, hlt, hdate⟩ := exists_year n
  have hmonths : rest < total (monthLengths year) := by
    rw [total_monthLengths]
    exact hlt
  obtain ⟨i, k, hi, hk, htotal, hsplit⟩ := splitMonth_eq hmonths 1
  refine ⟨year, i, k, ?_, hpos, hi, hk, ?_, ?_⟩
  · rw [hdate, hsplit, Nat.add_comm 1 i]
  · omega
  · rw [daysBeforeYear_succ hpos]
    omega

/-- **The number of the date of a day is the day.** -/
theorem number_ofNumber (n : Nat) : (Date.ofNumber n).number = n := by
  obtain ⟨year, i, k, hdate, -, -, -, htotal, -⟩ := exists_ofNumber n
  rw [hdate]
  exact htotal

/-- **The calendar has the date of a day** of the years 1 to 9999. -/
theorem isValid_ofNumber (h : n < dayCount) : (Date.ofNumber n).isValid = true := by
  obtain ⟨year, i, k, hdate, hpos, hi, hk, htotal, -⟩ := exists_ofNumber n
  have hyear : year < 10000 := by
    refine lt_of_daysBeforeYear_lt ?_
    rw [daysBeforeYear_tenThousand]
    omega
  rw [hdate, Date.isValid]
  simp only [Bool.and_eq_true, decide_eq_true_eq, Nat.add_sub_cancel]
  omega

/-- A day that does not lie before a year is dated in that year or later. -/
theorem le_year_ofNumber (h : daysBeforeYear year ≤ n) : year ≤ (Date.ofNumber n).year := by
  obtain ⟨found, i, k, hdate, -, -, -, -, hlt⟩ := exists_ofNumber n
  rw [hdate]
  exact Nat.lt_succ_iff.mp (lt_of_daysBeforeYear_lt (Nat.lt_of_le_of_lt h hlt))

/-! ## The days of the calendar -/

/-- No month has more than 31 days. -/
theorem getD_monthLengths_le (year i : Nat) : (monthLengths year).getD i 0 ≤ 31 := by
  have hall : ∀ length ∈ monthLengths year, length ≤ 31 := by
    rw [monthLengths]
    split <;> decide
  rw [List.getD_eq_getElem?_getD]
  cases h : (monthLengths year)[i]? with
  | none => exact Nat.zero_le 31
  | some length => exact hall length (List.mem_of_getElem? h)

/-- What comes before a month and within it is part of the year. -/
theorem total_take_add_le (lengths : List Nat) (i : Nat) :
    total (lengths.take i) + lengths.getD i 0 ≤ total lengths := by
  induction lengths generalizing i with
  | nil => rw [List.take_nil]; exact Nat.le_refl 0
  | cons length lengths ih =>
      cases i with
      | zero =>
          show 0 + length ≤ length + total lengths
          omega
      | succ i =>
          have h := ih i
          show length + total (lengths.take i) + lengths.getD i 0 ≤ length + total lengths
          omega

/-- The dates that the calendar has are days of the years 1 to 9999. -/
theorem number_lt_dayCount (h : d.isValid = true) : d.number < dayCount := by
  simp only [Date.isValid, Bool.and_eq_true, decide_eq_true_eq] at h
  obtain ⟨⟨⟨⟨⟨hyear, hlast⟩, -⟩, -⟩, hday⟩, hmonth⟩ := h
  have htotal := total_take_add_le (monthLengths d.year) (d.month - 1)
  have hnext := daysBeforeYear_le (Nat.succ_le_succ hlast)
  rw [total_monthLengths] at htotal
  rw [Nat.succ_eq_add_one, daysBeforeYear_succ hyear, Nat.succ_eq_add_one,
    daysBeforeYear_tenThousand] at hnext
  rw [Date.number]
  omega

end HttpExchange.Calendar
