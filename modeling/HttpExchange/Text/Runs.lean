/-! # Sets of code points given by their runs

    A property of characters is stored as the ascending list of the code
    points at which it changes: it starts out false, holds from the first
    entry, stops at the second, and so on. -/

namespace HttpExchange.Text

/-- Membership in the set whose boundaries are listed: a code point is
    inside when an odd number of boundaries lie at or below it. -/
def inRuns (bounds : List Nat) (n : Nat) : Bool :=
  (bounds.takeWhile (· ≤ n)).length % 2 == 1

end HttpExchange.Text
