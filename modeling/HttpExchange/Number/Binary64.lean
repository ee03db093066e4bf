import HttpExchange.Number.Power

/-! # Binary floating point as exact numbers

    A double is a sign with a natural number times a power of two.  Rounding
    an exact quotient to the nearest double, ties to the even neighbour, is
    the one step on which reading decimals, converting integers and dividing
    durations all rest. -/

namespace HttpExchange.Binary64

/-- What a double denotes. -/
inductive View where
  | nan
  | infinite (negative : Bool)
  /-- The number `mantissa · 2 ^ exponent`, with its sign. -/
  | finite (negative : Bool) (mantissa : Nat) (exponent : Int)
  deriving DecidableEq, Repr

/-- Read off what a double denotes. -/
def view (x : Float) : View :=
  let bits : Nat := x.toBits.toNat
  let negative := bits / twoTo 63 == 1
  let field : Nat := bits / twoTo 52 % 2048
  let fraction : Nat := bits % twoTo 52
  if field = 2047 then (if fraction = 0 then .infinite negative else .nan)
  else if field = 0 then .finite negative fraction (-1074)
  else .finite negative (twoTo 52 + fraction) ((field : Int) - 1075)

/-- The quotient of natural numbers, rounded to the nearest integer; a tie
    goes to the even one. -/
def divNearestEven (num den : Nat) : Nat :=
  let q := num / den
  let r := num % den
  if 2 * r < den then q
  else if den < 2 * r then q + 1
  else if q % 2 = 0 then q else q + 1

/-- The quotient `num / den` counted in units of `2 ^ exponent`, rounded to
    the nearest integer. -/
def divScaled (num den : Nat) (exponent : Int) : Nat :=
  if 0 ≤ exponent then divNearestEven num (den * twoTo exponent.toNat)
  else divNearestEven (num * twoTo (-exponent).toNat) den

/-- The exponent of the unit in which the double nearest to `num / den`
    counts: the mantissa then has 53 bits, or fewer near zero. -/
def unitExponent (num den : Nat) : Int :=
  let guess := (num.log2 : Int) - den.log2 - 52
  let fits : Bool :=
    if 0 ≤ guess then twoTo 52 * (den * twoTo guess.toNat) ≤ num
    else twoTo 52 * den ≤ num * twoTo (-guess).toNat
  max (if fits then guess else guess - 1) (-1074)

/-- The mantissa and exponent of the double nearest to `num / den`. -/
def nearest (num den : Nat) : Nat × Int :=
  if num = 0 then (0, -1074)
  else
    let exponent := unitExponent num den
    let mantissa := divScaled num den exponent
    if mantissa = twoTo 53 then (twoTo 52, exponent + 1) else (mantissa, exponent)

/-- The double with the given sign, mantissa (at most 53 bits) and exponent,
    or infinity when it lies beyond the finite doubles. -/
def assemble (negative : Bool) (mantissa : Nat) (exponent : Int) : Float :=
  let sign := if negative then twoTo 63 else 0
  let bits :=
    if mantissa < twoTo 52 then mantissa
    else if 971 < exponent then 2047 * twoTo 52
    else (exponent + 1075).toNat * twoTo 52 + (mantissa - twoTo 52)
  Float.ofBits (UInt64.ofNat (sign + bits))

/-- The double nearest to `num / den`, with a sign. -/
def ofQuotient (negative : Bool) (num den : Nat) : Float :=
  let (mantissa, exponent) := nearest num den
  assemble negative mantissa exponent

/-- The double nearest to an integer, if it is not beyond the finite
    doubles. -/
def ofInt? (n : Int) : Option Float :=
  let (mantissa, exponent) := nearest n.natAbs 1
  if 971 < exponent then none else some (assemble (n < 0) mantissa exponent)

/-- The integer part of `mantissa · 2 ^ exponent`. -/
def integerPart (mantissa : Nat) (exponent : Int) : Nat :=
  if 0 ≤ exponent then mantissa * twoTo exponent.toNat else mantissa / twoTo (-exponent).toNat

/-- The integer part of the double nearest to `num / den`, toward zero. -/
def roundedQuotient (num : Int) (den : Nat) : Int :=
  let (mantissa, exponent) := nearest num.natAbs den
  let part : Int := integerPart mantissa exponent
  if num < 0 then -part else part

/-- The integer that a double denotes, if it denotes one. -/
def toInt? (x : Float) : Option Int :=
  match view x with
  | .finite negative mantissa exponent =>
    let whole := integerPart mantissa exponent
    let exact : Bool := 0 ≤ exponent || whole * twoTo (-exponent).toNat == mantissa
    if exact then some (if negative then -(whole : Int) else whole) else none
  | _ => none

end HttpExchange.Binary64
