import HttpExchange.Proofs.Number.IntegerReading
import HttpExchange.Proofs.Time.Calendar
import HttpExchange.Time.HttpDate

/-! # What written dates denote

    A written date is a date of the calendar and a time of day in the fixed
    form.  The date that is written for a second denotes that second, and an
    expiry date denotes the second in which something ends, as long as the
    years 1 to 9999 have the moment that it is counted from and the one at
    which it ends.  Every other expiry date is the last one. -/

namespace HttpExchange.HttpDate

open Calendar

/-! ## Dates with a time of day -/

/-- A date of the calendar with a time of day. -/
structure Stamp where
  date : Date
  hour : Nat
  minute : Nat
  second : Nat
  isValid_date : date.isValid = true
  hour_lt : hour < 24
  minute_lt : minute < 60
  second_lt : second < 60

namespace Stamp

/-- The seconds from the start of year 1. -/
def seconds (s : Stamp) : Nat := ((s.date.number * 24 + s.hour) * 60 + s.minute) * 60 + s.second

/-- The time of day as it is written. -/
def timeText (s : Stamp) : List Char :=
  Integer.padded 2 s.hour ++ ':' :: (Integer.padded 2 s.minute ++ ':' :: Integer.padded 2 s.second)

/-- The fixed form: the day of the week, the date, the time of day, in GMT. -/
def text (s : Stamp) : List Char :=
  ((dayNames.getD (weekday s.date.number) "").toList ++ [',']) ++ ' ' ::
    (Integer.padded 2 s.date.day ++ ' ' ::
      ((monthNames.getD (s.date.month - 1) "").toList ++ ' ' ::
        (Integer.padded 4 s.date.year ++ ' ' :: (s.timeText ++ ' ' :: "GMT".toList))))

theorem seconds_le (s : Stamp) : s.seconds ≤ latest := by
  have hday : s.date.number < 3652059 := number_lt_dayCount s.isValid_date
  have hlast : latest = 3652059 * 86400 - 1 := rfl
  have hhour := s.hour_lt
  have hminute := s.minute_lt
  have hsecond := s.second_lt
  rw [seconds, hlast]
  omega

/-- The date and the time of day of a second. -/
def ofSeconds (seconds : Nat) (h : seconds ≤ latest) : Stamp where
  date := Date.ofNumber (seconds / 86400)
  hour := seconds / 3600 % 24
  minute := seconds / 60 % 60
  second := seconds % 60
  isValid_date := isValid_ofNumber <| by
    rw [Nat.div_lt_iff_lt_mul (by decide)]
    exact Nat.lt_of_le_of_lt h (by decide)
  hour_lt := Nat.mod_lt _ (by decide)
  minute_lt := Nat.mod_lt _ (by decide)
  second_lt := Nat.mod_lt _ (by decide)

/-- They are those of the second. -/
theorem seconds_ofSeconds {seconds : Nat} (h : seconds ≤ latest) :
    (ofSeconds seconds h).seconds = seconds := by
  rw [Stamp.seconds, ofSeconds, number_ofNumber]
  dsimp only
  omega

theorem text_ofSeconds {seconds : Nat} (h : seconds ≤ latest) :
    (ofSeconds seconds h).text = HttpDate.ofSeconds seconds := by
  rw [Stamp.text, timeText, ofSeconds, number_ofNumber, HttpDate.ofSeconds]
  simp only [List.append_assoc, List.cons_append, List.nil_append]
  rfl

/-! ## The characters of a date -/

theorem month_sub_one_lt (s : Stamp) : 1 ≤ s.date.month ∧ s.date.month - 1 < 12 := by
  have h := s.isValid_date
  simp only [Date.isValid, Bool.and_eq_true, decide_eq_true_eq] at h
  omega

/-- May the character stand in a date?  Dates are written with letters, digits,
    blanks, commas and colons. -/
def isLetter (c : Char) : Bool :=
  c.isAlpha || Integer.isDigit c || c == ' ' || c == ',' || c == ':'

theorem isLetter_padded (width n : Nat) : (Integer.padded width n).all isLetter = true := by
  rw [List.all_eq_true]
  intro c hc
  rw [isLetter, Integer.isDigits_padded width n c hc]
  simp only [Bool.or_true, Bool.true_or]

theorem isLetter_text (s : Stamp) : s.text.all isLetter = true := by
  have hday : ∀ i < 7, (dayNames.getD i "").toList.all isLetter = true := by decide
  have hmonth : ∀ i < 12, (monthNames.getD i "").toList.all isLetter = true := by decide
  have hgmt : "GMT".toList.all isLetter = true := by decide
  have hsigns : isLetter ' ' = true ∧ isLetter ',' = true ∧ isLetter ':' = true := by decide
  have hweekday : weekday s.date.number < 7 := Nat.mod_lt _ (by decide)
  simp only [text, timeText, List.all_append, List.all_cons, List.all_nil, isLetter_padded,
    hday _ hweekday, hmonth _ s.month_sub_one_lt.2, hgmt, hsigns, Bool.and_self]

/-- A date starts and ends with something that is not blank. -/
theorem text_ends (s : Stamp) :
    ∃ first middle, Text.isBlank first = false ∧ s.text = first :: (middle ++ ['T']) := by
  have hday : ∀ i < 7, (dayNames.getD i "").toList ≠ [] ∧
      Text.isBlank ((dayNames.getD i "").toList.headD ' ') = false := by
    decide
  have hweekday : weekday s.date.number < 7 := Nat.mod_lt _ (by decide)
  have hgmt : "GMT".toList = ['G', 'M'] ++ ['T'] := rfl
  obtain ⟨hne, hblank⟩ := hday _ hweekday
  obtain ⟨first, rest, hname⟩ := List.exists_cons_of_ne_nil hne
  rw [hname] at hblank
  refine ⟨first, rest ++ ',' :: ' ' :: (Integer.padded 2 s.date.day ++ ' ' ::
    ((monthNames.getD (s.date.month - 1) "").toList ++ ' ' ::
      (Integer.padded 4 s.date.year ++ ' ' :: (s.timeText ++ ' ' :: ['G', 'M'])))), hblank, ?_⟩
  rw [text, hname, hgmt]
  simp only [List.append_assoc, List.cons_append, List.nil_append]

end Stamp

/-- Does the text denote the second, counted from the start of year 1?  It is
    the fixed form of a date and a time of day that make up the second. -/
def Denotes (text : List Char) (seconds : Nat) : Prop :=
  ∃ s : Stamp, s.text = text ∧ s.seconds = seconds

/-- **The date that is written for a second denotes it.** -/
theorem denotes_ofSeconds {seconds : Nat} (h : seconds ≤ latest) :
    Denotes (ofSeconds seconds) seconds :=
  ⟨Stamp.ofSeconds seconds h, Stamp.text_ofSeconds h, Stamp.seconds_ofSeconds h⟩

/-- The last date. -/
theorem ofSeconds_latest : ofSeconds latest = "Fri, 31 Dec 9999 23:59:59 GMT".toList := by decide

/-! ## Expiry dates -/

variable {now : Moment} {age : Int}

theorem inSpan_iff (t : Int) : Moment.inSpan t = true ↔ 0 ≤ t ∧ t < Moment.span := by
  rw [Moment.inSpan, Bool.and_eq_true, decide_eq_true_eq, decide_eq_true_eq]

theorem inSpan_of_le_latest {second : Nat} (h : second ≤ latest) :
    Moment.inSpan (second * Moment.micros) = true := by
  have hspan : Moment.span = 315537897600 * 1000000 := rfl
  have hlast : latest = 315537897600 - 1 := rfl
  have hmicros : Moment.micros = 1000000 := rfl
  rw [inSpan_iff, hspan, hmicros]
  omega

/-- What the years 1 to 9999 have both ends of ends in its own second. -/
theorem expirySecond_of_inSpan (hnow : Moment.inSpan now.instant = true)
    (hend : Moment.inSpan (now.instant + age * Moment.micros) = true) :
    expirySecond now age = ((now.instant + age * Moment.micros) / Moment.micros).toNat := by
  rw [expirySecond, Moment.utc?, if_pos hnow]
  exact if_pos hend

/-- Anything else ends in the last second. -/
theorem expirySecond_of_not_inSpan (h : ¬ (Moment.inSpan now.instant = true ∧
    Moment.inSpan (now.instant + age * Moment.micros) = true)) :
    expirySecond now age = latest := by
  rw [expirySecond, Moment.utc?]
  by_cases hnow : Moment.inSpan now.instant = true
  · rw [if_pos hnow]
    exact if_neg fun hend => h ⟨hnow, hend⟩
  · rw [if_neg hnow]

theorem expirySecond_le (now : Moment) (age : Int) : expirySecond now age ≤ latest := by
  by_cases h : Moment.inSpan now.instant = true ∧
      Moment.inSpan (now.instant + age * Moment.micros) = true
  · rw [expirySecond_of_inSpan h.1 h.2]
    have hend := (inSpan_iff _).mp h.2
    have hspan : Moment.span = 315537897600 * 1000000 := rfl
    have hlast : latest = 315537897600 - 1 := rfl
    have hmicros : Moment.micros = 1000000 := rfl
    rw [hspan, hmicros] at hend
    rw [hlast, hmicros]
    omega
  · rw [expirySecond_of_not_inSpan h]

/-- **The second in which an age runs out** is that many seconds behind the one
    in which an age of zero does, and never later than the last one. -/
theorem expirySecond_eq_min (now : Moment) (hage : 0 ≤ age) :
    (expirySecond now age : Int) = min (expirySecond now 0 + age) latest := by
  have hyears : Moment.span = 315537897600 * 1000000 := rfl
  have hlast : latest = 315537897600 - 1 := rfl
  have hmicros : Moment.micros = 1000000 := rfl
  have hzero : now.instant + 0 * Moment.micros = now.instant := by omega
  by_cases hnow : Moment.inSpan now.instant = true
  · have hstart := (inSpan_iff _).mp hnow
    have hcount := expirySecond_of_inSpan hnow (hzero.symm ▸ hnow)
    rw [hzero, hmicros] at hcount
    by_cases hend : Moment.inSpan (now.instant + age * Moment.micros) = true
    · have hbound := (inSpan_iff _).mp hend
      rw [expirySecond_of_inSpan hnow hend, hcount]
      rw [hyears, hmicros] at hbound
      rw [hlast, hmicros]
      omega
    · rw [expirySecond_of_not_inSpan (fun h => hend h.2), hcount]
      rw [inSpan_iff, hyears, hmicros] at hend
      rw [hyears] at hstart
      rw [hlast]
      omega
  · rw [expirySecond_of_not_inSpan (fun h => hnow h.1),
      expirySecond_of_not_inSpan (fun h => hnow h.1)]
    omega

/-- Every expiry date is in the fixed form. -/
theorem exists_text_expiry (now : Moment) (age : Int) : ∃ s : Stamp, s.text = expiry now age :=
  ⟨.ofSeconds _ (expirySecond_le now age), Stamp.text_ofSeconds _⟩

/-- **An expiry date denotes the second in which something ends**, if the years
    1 to 9999 have both ends. -/
theorem denotes_expiry (hnow : Moment.inSpan now.instant = true)
    (hend : Moment.inSpan (now.instant + age * Moment.micros) = true) :
    Denotes (expiry now age) ((now.instant + age * Moment.micros) / Moment.micros).toNat := by
  rw [← expirySecond_of_inSpan hnow hend]
  exact denotes_ofSeconds (expirySecond_le now age)

/-- **Any other expiry date is the last one.** -/
theorem expiry_eq_latest (h : ¬ (Moment.inSpan now.instant = true ∧
    Moment.inSpan (now.instant + age * Moment.micros) = true)) :
    expiry now age = "Fri, 31 Dec 9999 23:59:59 GMT".toList := by
  rw [expiry, expirySecond_of_not_inSpan h, ofSeconds_latest]

end HttpExchange.HttpDate
