/-! # The SameSite attribute

    Whether a cookie is sent along with requests that another site caused. -/

namespace HttpExchange

/-- Value of the SameSite attribute. -/
inductive SameSite where
  | notSpecified
  | none
  | lax
  | strict
  deriving DecidableEq, Repr, Inhabited

namespace SameSite

/-- The word written for the value; nothing is written for an unspecified
    one. -/
def word : SameSite → String
  | .notSpecified => ""
  | .none => "None"
  | .lax => "Lax"
  | .strict => "Strict"

/-- The name of the value itself. -/
def name : SameSite → String
  | .notSpecified => "NOT_SPECIFIED"
  | .none => "NONE"
  | .lax => "LAX"
  | .strict => "STRICT"

/-- All values, in the order in which a word is compared with them. -/
def all : List SameSite := [.notSpecified, .none, .lax, .strict]

/-- Every value is listed. -/
theorem mem_all (s : SameSite) : s ∈ all := by cases s <;> decide

end SameSite

end HttpExchange
