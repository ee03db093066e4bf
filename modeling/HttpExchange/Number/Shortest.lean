import HttpExchange.Number.Binary64
import HttpExchange.Number.Integer

/-! # The fewest digits that read back

    The decimal digits of a double are the fewest that round to it; of two
    candidates with as many digits, the nearer one.  A `Layout` says how the
    digits are then set. -/

namespace HttpExchange.Shortest

open Binary64

/-- Compare `a · 2 ^ p` with `b · 10 ^ q` scaled to natural numbers. -/
def scaled (a : Nat) (p : Int) (b : Nat) (q : Int) : Nat × Nat :=
  let left := a * (if 0 ≤ p then twoTo p.toNat else 1) * (if 0 ≤ q then 1 else tenTo (-q).toNat)
  let right := b * (if 0 ≤ q then tenTo q.toNat else 1) * (if 0 ≤ p then 1 else twoTo (-p).toNat)
  (left, right)

/-- Does the decimal `b · 10 ^ q` round to the double `m · 2 ^ e`?  It has to
    lie between the midpoints to the neighbours, ends included for an even
    mantissa. -/
def readsBack (m : Nat) (e : Int) (b : Nat) (q : Int) : Bool :=
  let closer := m = twoTo 52 ∧ -1074 < e
  let (low, x) := scaled (if closer then 4 * m - 1 else 4 * m - 2) (e - 2) b q
  let (high, y) := scaled (4 * m + 2) (e - 2) b q
  if m % 2 = 0 then low ≤ x && y ≤ high else low < x && y < high

/-- The distance between `b · 10 ^ q` and `m · 2 ^ e` in a unit that depends
    on the exponents only. -/
def distance (m : Nat) (e : Int) (b : Nat) (q : Int) : Nat :=
  let (x, y) := scaled m e b q
  (x - y) + (y - x)

/-- The whole number of `10 ^ q` in `m · 2 ^ e`. -/
def floorAt (m : Nat) (e : Int) (q : Int) : Nat :=
  let (x, unit) := scaled m e 1 q
  x / unit

/-- The best decimal on the grid of `10 ^ q`, if one of the two neighbours of
    the double there reads back. -/
def onGrid? (m : Nat) (e : Int) (q : Int) : Option Nat :=
  let below := floorAt m e q
  let above := below + 1
  match readsBack m e below q, readsBack m e above q with
  | true, true =>
    let dBelow := distance m e below q
    let dAbove := distance m e above q
    some (if dBelow < dAbove ∨ (dBelow = dAbove ∧ below % 2 = 0) then below else above)
  | true, false => some below
  | false, true => some above
  | false, false => none

/-- The number of decimal digits before the point of `m · 2 ^ e`; zero or
    negative for a number below one. -/
def magnitude (m : Nat) (e : Int) : Int :=
  let estimate : Int := ((m.log2 : Int) + e) * 30103 / 100000
  let reaches (k : Int) : Bool := let (x, y) := scaled m e 1 k; y ≤ x
  if reaches (estimate + 1) then estimate + 2
  else if reaches estimate then estimate + 1
  else estimate

/-- Look for the coarsest grid with a decimal that reads back, from `count`
    digits on, through at most `tries` grids. -/
def search (m : Nat) (e : Int) (top : Int) (count : Nat) : Nat → Nat × Int
  | 0 => (floorAt m e (top - count), top - count)
  | tries + 1 =>
    match onGrid? m e (top - count) with
    | some b => (b, top - count)
    | none => search m e top (count + 1) tries

/-- Drop the zeros at the end of a digit string into the exponent. -/
def dropZeros (b : Nat) (q : Int) : Nat → Nat × Int
  | 0 => (b, q)
  | n + 1 => if b % 10 = 0 ∧ b ≠ 0 then dropZeros (b / 10) (q + 1) n else (b, q)

/-- The digits and the power of ten of the last digit, for a positive
    double. -/
def decimal (m : Nat) (e : Int) : Nat × Int :=
  let (b, q) := search m e (magnitude m e) 1 17
  dropZeros b q 20

/-- How a number is set. -/
structure Layout where
  /-- The least exponent of the first digit that is set without exponent. -/
  minExponent : Int
  /-- The greatest exponent of the first digit that is set without exponent. -/
  maxExponent : Int
  /-- The least number of digits of an exponent. -/
  exponentDigits : Nat
  deriving Repr

/-- Set a positive decimal `b · 10 ^ q`. -/
def setDigits (layout : Layout) (b : Nat) (q : Int) : List Char :=
  let digits := Nat.toDigits 10 b
  let first : Int := (digits.length : Int) + q - 1
  if layout.minExponent ≤ first ∧ first ≤ layout.maxExponent then
    if 0 ≤ q then digits ++ List.replicate q.toNat '0' ++ ['.', '0']
    else if 0 ≤ first then
      digits.take (first.toNat + 1) ++ '.' :: digits.drop (first.toNat + 1)
    else '0' :: '.' :: List.replicate (-first - 1).toNat '0' ++ digits
  else
    let fraction := if digits.length ≤ 1 then [] else '.' :: digits.drop 1
    let sign := if first < 0 then '-' else '+'
    digits.take 1 ++ fraction ++ 'e' :: sign ::
      Integer.padded layout.exponentDigits first.natAbs

/-- The text of a finite double; none for the others. -/
def write? (layout : Layout) (x : Float) : Option (List Char) :=
  match view x with
  | .finite negative m e =>
    let body :=
      if m = 0 then ['0', '.', '0']
      else
        let (b, q) := decimal m e
        setDigits layout b q
    some (if negative then '-' :: body else body)
  | _ => none

end HttpExchange.Shortest
