/-! # Hexadecimal digits -/

namespace HttpExchange.Text

/-- The digit for a value below sixteen; letters start at `letterA`. -/
def hexDigitFrom (letterA : Nat) (n : Nat) : Char :=
  Char.ofNat (if n < 10 then '0'.toNat + n else letterA + (n - 10))

/-- The capital digit for a value below sixteen. -/
def hexDigitUpper (n : Nat) : Char := hexDigitFrom 'A'.toNat n

/-- The small digit for a value below sixteen. -/
def hexDigitLower (n : Nat) : Char := hexDigitFrom 'a'.toNat n

/-- The value of an ASCII hexadecimal digit of either case. -/
def hexValue? (c : Char) : Option Nat :=
  let n := c.toNat
  if 48 ≤ n ∧ n ≤ 57 then some (n - 48)
  else if 65 ≤ n ∧ n ≤ 70 then some (n - 55)
  else if 97 ≤ n ∧ n ≤ 102 then some (n - 87)
  else none

/-- As many of the last small hexadecimal digits of a number as the width
    says. -/
def hexDigits : Nat → Nat → List Char
  | 0, _ => []
  | width + 1, n => hexDigits width (n / 16) ++ [hexDigitLower (n % 16)]

/-- A capital digit reads back as its value. -/
theorem hexValue?_hexDigitUpper : ∀ n < 16, hexValue? (hexDigitUpper n) = some n := by decide

/-- A small digit reads back as its value. -/
theorem hexValue?_hexDigitLower : ∀ n < 16, hexValue? (hexDigitLower n) = some n := by decide

end HttpExchange.Text
