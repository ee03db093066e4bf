import HttpExchange.Number.Integer
import HttpExchange.Time.Moment

/-! # Dates in headers

    The fixed form in which an expiry date is written, in GMT. -/

namespace HttpExchange.HttpDate

open Calendar

/-- The names of the days of the week, from Monday. -/
def dayNames : List String := ["Mon", "Tue", "Wed", "Thu", "Fri", "Sat", "Sun"]

/-- The names of the months. -/
def monthNames : List String :=
  ["Jan", "Feb", "Mar", "Apr", "May", "Jun", "Jul", "Aug", "Sep", "Oct", "Nov", "Dec"]

/-- The date of a count of seconds from the start of year 1. -/
def ofSeconds (seconds : Nat) : List Char :=
  let day := seconds / 86400
  let date := Date.ofNumber day
  (dayNames.getD (weekday day) "").toList ++ ',' :: ' ' :: Integer.padded 2 date.day
    ++ ' ' :: (monthNames.getD (date.month - 1) "").toList ++ ' ' :: Integer.padded 4 date.year
    ++ ' ' :: Integer.padded 2 (seconds / 3600 % 24) ++ ':' :: Integer.padded 2 (seconds / 60 % 60)
    ++ ':' :: Integer.padded 2 (seconds % 60) ++ " GMT".toList

/-- The last second of the year 9999. -/
def latest : Nat := Calendar.dayCount * 86400 - 1

/-- The second at which something ends that lasts for some seconds from a
    moment on.  What does not fit into the years 1 to 9999 ends with their
    last second. -/
def expirySecond (now : Moment) (age : Int) : Nat :=
  match now.utc? with
  | none => latest
  | some t =>
    let e := t + age * Moment.micros
    if Moment.inSpan e then (e / Moment.micros).toNat else latest

/-- The date at which something ends that lasts for some seconds. -/
def expiry (now : Moment) (age : Int) : List Char := ofSeconds (expirySecond now age)

end HttpExchange.HttpDate
