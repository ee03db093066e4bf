import HttpExchange.Value.Basic

/-! # Faults of settings

    What can be wrong with one entry of a settings section, and where.  A
    section is reported with all of its faults. -/

namespace HttpExchange.Settings

/-- What is wrong with an entry. -/
inductive Cause where
  | notText
  /-- Bytes that are not UTF-8. -/
  | brokenText
  | notMapping
  | notDuration
  /-- Text or a number that denotes no duration. -/
  | badDuration
  | notFlag
  /-- Text or a number that is no truth value. -/
  | badFlag
  /-- There is no such setting. -/
  | unknown
  /-- A key that is not text names no setting. -/
  | badKey
  deriving DecidableEq, Repr

/-- The name of a cause in reports. -/
def Cause.name : Cause → String
  | .notText => "string_type"
  | .brokenText => "string_unicode"
  | .notMapping => "dict_type"
  | .notDuration => "time_delta_type"
  | .badDuration => "time_delta_parsing"
  | .notFlag => "bool_type"
  | .badFlag => "bool_parsing"
  | .unknown => "extra_forbidden"
  | .badKey => "invalid_key"

/-- A key on the way to a faulty entry. -/
inductive Step where
  | key (name : String)
  | number (n : Int)
  deriving DecidableEq, Repr

/-- The step as it is reported. -/
def Step.toValue : Step → Value
  | .key name => .str name
  | .number n => .int n

/-- A fault with the keys that lead to it. -/
structure Fault where
  cause : Cause
  place : List Step
  deriving DecidableEq, Repr

/-- A fault as it is reported. -/
def Fault.toValue (f : Fault) : Value :=
  .mapping [("type", .str f.cause.name), ("loc", .list (f.place.map Step.toValue))]

end HttpExchange.Settings
