/-! # Powers of two and ten

    The scales of binary and of decimal numbers. -/

namespace HttpExchange

/-- The power of two with an exponent. -/
def twoTo (n : Nat) : Nat := Nat.pow 2 n

/-- The power of ten with an exponent. -/
def tenTo (n : Nat) : Nat := Nat.pow 10 n

/-- A power of two is positive. -/
theorem twoTo_pos (n : Nat) : 0 < twoTo n := Nat.pow_pos (by decide)

end HttpExchange
