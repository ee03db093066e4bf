import HttpExchange.Number.Integer
import HttpExchange.Number.Power

/-! # Durations in settings

    A duration is a number of seconds or a text: periods with designators
    such as `PT1M30S`, days with a time such as `2 days, 01:00:00`, or a time
    alone.  Its parts are words of 32 bits, and a part beyond that is refused
    like any other text that denotes no duration. -/

namespace HttpExchange.Settings.Duration

open Text

/-- The parts of a duration, before they are carried over. -/
structure Parts where
  days : Nat
  seconds : Nat
  micros : Nat
  deriving DecidableEq, Repr

/-- A number that fits into a word. -/
def word? (n : Nat) : Option Nat := if n < 4294967296 then some n else none

/-- Carry seconds and microseconds over; there are at most 999999999 days. -/
def Parts.carry? (p : Parts) : Option Parts := do
  let seconds ← word? (p.seconds + p.micros / 1000000)
  let days ← word? (p.days + seconds / 86400)
  if days ≤ 999999999 then some ⟨days, seconds % 86400, p.micros % 1000000⟩ else none

/-- The duration in microseconds. -/
def Parts.total (p : Parts) : Nat := (p.days * 86400 + p.seconds) * 1000000 + p.micros

/-! ## Numbers -/

/-- Read a number that fits into a word. -/
def number? (cs : List Char) : Option (Nat × List Char) :=
  let digits := cs.takeWhile Integer.isDigit
  if digits.isEmpty then none
  else (word? (Integer.digitsValue digits)).map fun n => (n, cs.dropWhile Integer.isDigit)

/-- The fraction that digits after a point denote. -/
def fractionOf (digits : List Char) : Float :=
  let step (p : Float × Float) (c : Char) : Float × Float :=
    (p.1 * 10.0 + Float.ofNat (c.toNat - 48), p.2 * 10.0)
  let (num, den) := digits.foldl step (0.0, 1.0)
  num / den

/-- Read the fraction of a number, if there is one. -/
def takeFraction (cs : List Char) : Option Float × List Char :=
  match cs with
  | c :: rest =>
    if c = '.' ∨ c = ',' then
      (some (fractionOf (rest.takeWhile Integer.isDigit)), rest.dropWhile Integer.isDigit)
    else (none, cs)
  | [] => (none, [])

/-- The whole part of a number that is not negative, and the rest. -/
def wholeAndRest (x : Float) : Nat × Float := (x.floor.toUInt32.toNat, x - x.floor)

/-- A number of millionths to the nearest whole. -/
def millionths (x : Float) : Nat := (x * 1000000.0).round.toUInt32.toNat

/-! ## Periods with designators -/

/-- The days that a date designator stands for. -/
def dateUnit? (c : Char) : Option Nat :=
  match c with
  | 'Y' => some 365
  | 'M' => some 30
  | 'W' => some 7
  | 'D' => some 1
  | _ => none

/-- The seconds that a time designator stands for. -/
def timeUnit? (c : Char) : Option Nat :=
  match c with
  | 'H' => some 3600
  | 'M' => some 60
  | 'S' => some 1
  | _ => none

/-- Add a number of days, with a fraction of it, in a unit. -/
def Parts.addDays? (p : Parts) (n unit : Nat) (fraction : Option Float) : Option Parts := do
  let days ← word? (p.days + (← word? (n * unit)))
  match fraction with
  | none => return { p with days }
  | some x =>
    let (extraDays, restDays) := wholeAndRest (x * Float.ofNat unit)
    let (extraSeconds, restSeconds) := wholeAndRest (restDays * 86400.0)
    return ⟨← word? (days + extraDays), ← word? (p.seconds + extraSeconds),
      ← word? (p.micros + millionths restSeconds)⟩

/-- Add a number of seconds, with a fraction of it, in a unit. -/
def Parts.addSeconds? (p : Parts) (n unit : Nat) (fraction : Option Float) : Option Parts := do
  let seconds ← word? (p.seconds + (← word? (n * unit)))
  match fraction with
  | none => return { p with seconds }
  | some x =>
    let (extra, rest) := wholeAndRest (x * Float.ofNat unit)
    return ⟨p.days, ← word? (seconds + extra), ← word? (p.micros + millionths rest)⟩

/-- Read the numbers with their designators; the first number bounds the
    steps.  Only the last number may have a fraction. -/
def readPeriod (steps : Nat) (inTime : Bool) (p : Parts) (cs : List Char) : Option Parts :=
  match steps, cs with
  | _, [] => some p
  | 0, _ => none
  | steps + 1, 'T' :: rest => if inTime then none else readPeriod steps true p rest
  | steps + 1, cs => do
    let (n, rest) ← number? cs
    let (fraction, rest) := takeFraction rest
    match rest with
    | [] => none
    | c :: rest =>
      let p ← if inTime then p.addSeconds? n (← timeUnit? c) fraction
        else p.addDays? n (← dateUnit? c) fraction
      if fraction.isSome ∧ rest.any (· ≠ 'T') then none else readPeriod steps inTime p rest

/-! ## Times -/

/-- Read two digits of a number below sixty. -/
def sixtieth? : List Char → Option (Nat × List Char)
  | a :: b :: rest =>
    if Integer.isDigit a ∧ Integer.isDigit b ∧ Integer.digitsValue [a, b] < 60 then
      some (Integer.digitsValue [a, b], rest)
    else none
  | _ => none

/-- Read digits as millionths: up to six of them, and nothing after them. -/
def readMicros? (digits : List Char) : Option Nat :=
  if digits.isEmpty ∨ !digits.all Integer.isDigit then none
  else
    let kept := digits.take 6
    some (Integer.digitsValue kept * tenTo (6 - kept.length))

/-- Read minutes, and the seconds with their fraction if they are given. -/
def minutesAndSeconds? (cs : List Char) : Option (Nat × Nat) := do
  let (minutes, rest) ← sixtieth? cs
  match rest with
  | [] => return (minutes * 60, 0)
  | ':' :: rest =>
    let (seconds, rest) ← sixtieth? rest
    match rest with
    | [] => return (minutes * 60 + seconds, 0)
    | c :: digits =>
      if c = '.' ∨ c = ',' then return (minutes * 60 + seconds, ← readMicros? digits) else none
  | _ => none

/-- The longest text after the hours that is looked at. -/
def afterHoursLimit : Nat := 12

/-- Read a time: hours up to ten digits, minutes, and seconds.  What stands
    after the microseconds is not looked at. -/
def readTime (cs : List Char) : Option Parts :=
  if cs.length < 5 then none
  else match partition ':' cs with
    | (_, none) => none
    | (hours, some rest) =>
      if 10 < hours.length ∨ !hours.all Integer.isDigit then none
      else
        let hour := Integer.digitsValue hours
        if 2400000000 < hour then none
        else (minutesAndSeconds? (rest.take afterHoursLimit)).map fun (seconds, micros) =>
          ⟨hour / 24, seconds + hour % 24 * 3600, micros⟩

/-! ## Days with a time -/

/-- Drop one of the characters from the front, if it is there. -/
def dropOne (choices : List Char) (cs : List Char) : List Char :=
  match cs with
  | c :: rest => if c ∈ choices then rest else cs
  | [] => []

/-- Drop the letters after the `d` of days: none of them, or the first two
    and perhaps the third.  They are all small or all capital. -/
def dropDayLetters (cs : List Char) : Option (List Char) :=
  match cs with
  | 'a' :: 'y' :: rest => some (dropOne ['s'] rest)
  | 'A' :: 'Y' :: rest => some (dropOne ['S'] rest)
  | 'a' :: _ | 'A' :: _ => none
  | cs => some cs

/-- Read days, and the time after them if there is one: it has to be below a
    day. -/
def readDays (cs : List Char) : Option Parts := do
  let (days, rest) ← number? cs
  match dropOne [' '] rest with
  | d :: rest =>
    if d = 'd' ∨ d = 'D' then
      let rest ← dropDayLetters rest
      match dropOne [' '] (dropOne [','] rest) with
      | [] => return ⟨days, 0, 0⟩
      | time =>
        let t ← readTime time
        if t.days = 0 then return ⟨days, t.seconds, t.micros⟩ else none
    else none
  | [] => none

/-! ## Durations -/

/-- Does the text have the letter of days? -/
def namesDays (cs : List Char) : Bool := cs.contains 'd' || cs.contains 'D'

/-- Read the parts of a duration; the sign has been taken off the whole
    text.  A period has a number with its designator at least. -/
def readParts (whole cs : List Char) : Option Parts :=
  match cs with
  | 'P' :: rest =>
    if rest.length < 2 then none else readPeriod rest.length false ⟨0, 0, 0⟩ rest
  | _ => if namesDays whole ∨ whole.length < 5 then readDays cs else readTime cs

/-- A duration that has been read: a sign and its parts, carried over. -/
abbrev Signed := Bool × Parts

/-- Read a text. -/
def read (cs : List Char) : Option Signed :=
  if cs.isEmpty then none
  else
    let (negative, body) := Integer.takeSign cs
    ((readParts cs body).bind Parts.carry?).map fun p => (negative, p)

/-- The duration of a number of seconds. -/
def ofSeconds (n : Int) : Option Signed :=
  (Parts.carry? ⟨n.natAbs / 86400, n.natAbs % 86400, 0⟩).map fun p => (n < 0, p)

/-- The duration of a number of seconds.  Days beyond a word count as the
    greatest one. -/
def ofFloat (x : Float) : Option Signed :=
  if x.isNaN then none
  else
    let size := x.abs
    (Parts.carry? ⟨(size / 86400.0).toUInt32.toNat, size.toUInt64.toNat % 86400,
      millionths (size - size.floor)⟩).map fun p => (x < 0.0, p)

/-- The least duration that is kept, in microseconds. -/
def least : Int := -999999999 * 86400000000

/-- The duration in microseconds, unless it is below the least one. -/
def total? (d : Signed) : Option Int :=
  let n : Int := d.2.total
  let n := if d.1 then -n else n
  if n < least then none else some n

end HttpExchange.Settings.Duration
