import HttpExchange.Number.Integer
import HttpExchange.Text.Case
import HttpExchange.Time.Moment

/-! # Reading dates

    Expiry dates come in the many forms of mail headers: with or without the
    day of the week, with the month before or after the day, with hyphens,
    with the zone as a name, as a number or missing, and with the year in two
    digits.  A date that can be read may still be out of range in two ways:
    no calendar date (unreadable) or beyond the machine's integers. -/

namespace HttpExchange.MailDate

open Text Calendar

/-- Why a date is not read. -/
inductive Fault where
  /-- No date, or none that the calendar has. -/
  | unreadable
  /-- A number is beyond what a date can be computed with. -/
  | overflow
  deriving DecidableEq, Repr

/-- The names of the days of the week. -/
def dayNames : List (List Char) :=
  ["mon", "tue", "wed", "thu", "fri", "sat", "sun"].map String.toList

/-- The short and the full names of the months. -/
def monthNames : List (List Char) :=
  ["jan", "feb", "mar", "apr", "may", "jun", "jul", "aug", "sep", "oct", "nov", "dec",
    "january", "february", "march", "april", "may", "june", "july", "august", "september",
    "october", "november", "december"].map String.toList

/-- The number of the month with a name. -/
def month? (name : List Char) : Option Nat := (monthNames.idxOf? name).map (· % 12 + 1)

/-- The named zones, as hours times hundred. -/
def zones : List (List Char × Int) :=
  [("UT", 0), ("UTC", 0), ("GMT", 0), ("Z", 0), ("AST", -400), ("ADT", -300), ("EST", -500),
    ("EDT", -400), ("CST", -600), ("CDT", -500), ("MST", -700), ("MDT", -600), ("PST", -800),
    ("PDT", -700)].map fun (name, offset) => (name.toList, offset)

/-- The words of a date with the day of the week dropped from the front; one
    that is attached to the next word ends at the last comma. -/
def dropDayName : List (List Char) → List (List Char)
  | [] => []
  | word :: rest =>
    if word.getLast? = some ',' ∨ lower word ∈ dayNames then rest
    else (partitionLast ',' word).2 :: rest

/-- Cut a word before its first plus sign, or before its first hyphen if it
    has none; not at the very start. -/
def cutZone (word : List Char) : List (List Char) :=
  let mark := if '+' ∈ word then '+' else '-'
  let before := word.takeWhile (· ≠ mark)
  if before.isEmpty ∨ before.length = word.length then [word, []]
  else [before, word.drop before.length]

/-- The five fields of a date: day, month, year, time and zone, in the order
    in which they stand. -/
def fields? (text : List Char) : Option (List Char × List Char × List Char × List Char ×
    List Char) :=
  let ws := dropDayName (words text)
  let ws := match ws with
    | [date, time, zone] =>
      match pieces '-' date with
      | [d, m, y] => [d, m, y, time, zone]
      | _ => ws
    | _ => ws
  let ws := match ws with
    | [d, m, y, time] => d :: m :: y :: cutZone time
    | _ => ws
  match ws with
  | d :: m :: y :: time :: zone :: _ =>
    if d.isEmpty ∨ m.isEmpty ∨ y.isEmpty then none else some (d, m, y, time, zone)
  | _ => none

/-- A word without a comma at its end. -/
def dropComma (word : List Char) : List Char :=
  if word.getLast? = some ',' then word.dropLast else word

/-- The hour, minute and second as they are written. -/
def timeParts? (time : List Char) : Option (List Char × List Char × List Char) :=
  match pieces ':' time with
  | [h, m] => some (h, m, ['0'])
  | [h, m, s] => some (h, m, s)
  | [only] =>
    match pieces '.' only with
    | [h, m] => some (h, m, ['0'])
    | [h, m, s] => some (h, m, s)
    | _ => none
  | _ => none

/-- A year in two digits lies between 1969 and 2068. -/
def fullYear (y : Int) : Int := if y < 100 then (if 68 < y then y + 1900 else y + 2000) else y

/-- The offset of a zone in seconds, if the zone is known.  A number counts
    hours times hundred and minutes; minus zero says that it is unknown. -/
def zoneOffset? (zone : List Char) : Option Int :=
  let name := upper zone
  let hundreds : Option Int :=
    match zones.lookup name with
    | some offset => some offset
    | none =>
      match Integer.read name with
      | .ok n => if n = 0 ∧ name.head? = some '-' then none else some n
      | .error _ => none
  hundreds.map fun n =>
    let size := n.natAbs
    let seconds : Int := (size / 100 * 3600 + size % 100 * 60 : Nat)
    if n < 0 then -seconds else seconds

/-- The numbers of a date as they are written, not yet checked. -/
structure Numbers where
  year : Int
  month : Nat
  day : Int
  hour : Int
  minute : Int
  second : Int
  offset : Option Int
  deriving DecidableEq, Repr

/-- Order day and month: the month is the one that has a month's name. -/
def dayMonth? (d m : List Char) : Option (List Char × Nat) :=
  match month? (lower m) with
  | some month => some (d, month)
  | none => (month? (lower d)).map fun month => (lower m, month)

/-- Order year and time: the time is the one with a colon inside. -/
def yearTime (y time : List Char) : List Char × List Char :=
  if ':' ∈ y.drop 1 ∧ y.head? ≠ some ':' then (time, y) else (y, time)

/-- Read the numbers of a date. -/
def numbers? (text : List Char) : Option Numbers := do
  let (d, m, y, time, zone) ← fields? text
  let (d, month) ← dayMonth? d m
  let d := dropComma d
  let (y, time) := yearTime y time
  let y := dropComma y
  let first ← y.head?
  let (y, zone) := if isDigitLike first then (y, zone) else (zone, y)
  let (h, min, s) ← timeParts? (dropComma time)
  let year ← (Integer.read y).toOption
  let day ← (Integer.read d).toOption
  let hour ← (Integer.read h).toOption
  let minute ← (Integer.read min).toOption
  let second ← (Integer.read s).toOption
  return ⟨fullYear year, month, day, hour, minute, second, zoneOffset? zone⟩

/-- Does the number fit into a machine integer? -/
def isSmall (n : Int) : Bool := -2147483648 ≤ n && n ≤ 2147483647

/-- Check the numbers of a date and form the moment. -/
def Numbers.moment (n : Numbers) : Except Fault Moment :=
  let offset := n.offset.getD 0
  if 999999999 < (offset.fdiv 86400).natAbs then .error .overflow
  else if 86400 ≤ offset.natAbs then .error .unreadable
  else if !([n.year, n.day, n.hour, n.minute, n.second].all isSmall) then .error .overflow
  else
    let date : Date := ⟨n.year.toNat, n.month, n.day.toNat⟩
    let inDay : Bool := 0 ≤ n.hour && n.hour < 24 && 0 ≤ n.minute && n.minute < 60 &&
      0 ≤ n.second && n.second < 60
    if 0 < n.year ∧ 0 < n.day ∧ date.isValid ∧ inDay then
      .ok (Moment.ofClock date n.hour.toNat n.minute.toNat n.second.toNat 0 n.offset)
    else .error .unreadable

/-- Read a date. -/
def read (text : List Char) : Except Fault Moment :=
  match numbers? text with
  | none => .error .unreadable
  | some n => n.moment

end HttpExchange.MailDate
