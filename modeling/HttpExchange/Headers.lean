import HttpExchange.Text.Case

/-! # Headers

    Names and values in the order in which they are sent.  Names are compared
    without regard to case, and a name may occur more than once. -/

namespace HttpExchange

open Text

/-- Names with their values, in order. -/
abbrev Headers := List (String × String)

namespace Headers

/-- Are the names equal but for case? -/
def sameName (a b : String) : Bool := lowerString a == lowerString b

/-- All values of a header, in order. -/
def all (headers : Headers) (name : String) : List String :=
  (headers.filter fun (k, _) => sameName k name).map (·.2)

/-- The first value of a header. -/
def first? (headers : Headers) (name : String) : Option String := (headers.all name).head?

/-- Is there a header with the name? -/
def has (headers : Headers) (name : String) : Bool := headers.any fun (k, _) => sameName k name

end Headers

end HttpExchange
