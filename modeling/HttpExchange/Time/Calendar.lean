/-! # The Gregorian calendar

    Days are numbered from the first of January of year 1, which is day 0 and
    a Monday. -/

namespace HttpExchange.Calendar

/-- Has the year a 29th of February? -/
def isLeap (year : Nat) : Bool := year % 4 == 0 && (year % 100 != 0 || year % 400 == 0)

/-- The lengths of the months of a year. -/
def monthLengths (year : Nat) : List Nat :=
  [31, if isLeap year then 29 else 28, 31, 30, 31, 30, 31, 31, 30, 31, 30, 31]

/-- The number of the first day of a year. -/
def daysBeforeYear (year : Nat) : Nat :=
  let n := year - 1
  n * 365 + n / 4 - n / 100 + n / 400

/-- A date: the year, the month from 1 and the day from 1. -/
structure Date where
  year : Nat
  month : Nat
  day : Nat
  deriving DecidableEq, Repr

/-- Does the calendar have the date, in the years 1 to 9999? -/
def Date.isValid (d : Date) : Bool :=
  1 ≤ d.year && d.year ≤ 9999 && 1 ≤ d.month && d.month ≤ 12 && 1 ≤ d.day &&
    d.day ≤ (monthLengths d.year).getD (d.month - 1) 0

/-- The days in months with the given lengths. -/
def total (lengths : List Nat) : Nat := lengths.foldr (· + ·) 0

/-- The number of a date. -/
def Date.number (d : Date) : Nat :=
  daysBeforeYear d.year + total ((monthLengths d.year).take (d.month - 1)) + (d.day - 1)

/-- The month, counted from the given one, and the day for a day counted
    from the start of that month. -/
def splitMonth (month : Nat) : List Nat → Nat → Nat × Nat
  | [], n => (month, n + 1)
  | length :: lengths, n =>
    if n < length then (month, n + 1) else splitMonth (month + 1) lengths (n - length)

/-- The date with a number.  Years repeat in cycles of 400, 100, 4 and 1; the
    last cycle of 100 and of 1 may be a day longer. -/
def Date.ofNumber (n : Nat) : Date :=
  let r400 := n % 146097
  let n100 := min (r400 / 36524) 3
  let r100 := r400 - n100 * 36524
  let r4 := r100 % 1461
  let n1 := min (r4 / 365) 3
  let year := n / 146097 * 400 + n100 * 100 + r100 / 1461 * 4 + n1 + 1
  let (month, day) := splitMonth 1 (monthLengths year) (r4 - n1 * 365)
  ⟨year, month, day⟩

/-- The days of the years 1 to 9999. -/
def dayCount : Nat := 3652059

/-- The number of the day of the week of a day, from Monday as 0. -/
def weekday (n : Nat) : Nat := n % 7

/-- The calendar ends with the year 9999. -/
theorem daysBeforeYear_tenThousand : daysBeforeYear 10000 = dayCount := by decide

end HttpExchange.Calendar
