import HttpExchange.Number.Binary64
import HttpExchange.Time.Calendar

/-! # Moments

    A moment is a reading of a wall clock, in microseconds from the start of
    year 1, with the clock's offset from UTC if that is known.  A clock
    without offset is taken to show UTC.  A clock that counts seconds shows a
    moment only while the calendar has a date for it. -/

namespace HttpExchange

/-- A reading of a wall clock. -/
structure Moment where
  /-- Microseconds from the start of year 1 on that clock. -/
  wall : Int
  /-- How many microseconds the clock is ahead of UTC. -/
  offset : Option Int
  deriving DecidableEq, Repr

namespace Moment

/-- Microseconds in a second. -/
def micros : Int := 1000000

/-- Microseconds in the years 1 to 9999. -/
def span : Int := Calendar.dayCount * 86400 * micros

/-- Is the count of microseconds within the years 1 to 9999? -/
def inSpan (t : Int) : Bool := 0 ≤ t && t < span

/-- The moment as microseconds of UTC from the start of year 1, whether or
    not that lies within the years 1 to 9999. -/
def instant (m : Moment) : Int := m.wall - m.offset.getD 0

/-- The moment in UTC, if that lies within the years 1 to 9999. -/
def utc? (m : Moment) : Option Int := if inSpan m.instant then some m.instant else none

/-- The reading of a clock: date, time of day with microseconds, and an offset
    in seconds. -/
def ofClock (date : Calendar.Date) (hour minute second micro : Nat) (offset : Option Int) :
    Moment :=
  ⟨(((date.number * 24 + hour) * 60 + minute) * 60 + second : Nat) * micros + micro,
    offset.map (· * micros)⟩

/-- The start of 1970 in seconds from the start of year 1. -/
def epoch : Int := 62135596800

/-- Why the reading of a clock gives no moment. -/
inductive ClockFault where
  /-- It is no number, or lies outside the years 1 to 9999. -/
  | undated
  /-- Its year does not fit into the fields of a calendar date. -/
  | yearTooLarge
  /-- Its seconds do not fit into a machine integer. -/
  | beyondCounting
  deriving DecidableEq, Repr

/-- Check a count of microseconds from the start of 1970.  A calendar date
    holds its year in 32 bits, counted from 1900. -/
def ofCount (count : Int) : Except ClockFault Moment :=
  let seconds := count.fdiv micros
  if seconds < -9223372036854775808 ∨ 9223372036854775807 < seconds then .error .beyondCounting
  else if seconds < -67768040609740800 ∨ 67768036191676799 < seconds then .error .yearTooLarge
  else if inSpan (epoch * micros + count) then .ok ⟨epoch * micros + count, some 0⟩
  else .error .undated

/-- The fraction `num / den` of a second in microseconds: the product is a
    double, and is then rounded to an integer. -/
def fractionMicros (num den : Nat) : Nat :=
  let (mantissa, exponent) := Binary64.nearest (num * 1000000) den
  Binary64.divNearestEven mantissa (twoTo (-exponent).toNat)

end Moment

/-- What the current moment is known from: it is given, or a clock was read. -/
abbrev Reading := Except Moment.ClockFault Moment

/-- The moment that a clock shows which counts seconds from the start of
    1970. -/
def Reading.ofSeconds (t : Float) : Reading :=
  match Binary64.view t with
  | .nan => .error .undated
  | .infinite _ => .error .beyondCounting
  | .finite negative mantissa exponent =>
    let den := twoTo (-exponent).toNat
    let count := Binary64.integerPart mantissa exponent * 1000000
      + (if exponent < 0 then Moment.fractionMicros (mantissa % den) den else 0)
    Moment.ofCount (if negative then -(count : Int) else count)

end HttpExchange
