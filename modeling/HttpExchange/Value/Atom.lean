import HttpExchange.Value.Basic

/-! # Atoms

    Values without parts, up to equality: what a cookie store can look up.
    Lists and mappings are not atoms. -/

namespace HttpExchange

/-- A value without parts.  Numbers that denote the same integer are the same
    atom, and so are a SameSite value and its word. -/
inductive Atom where
  | null
  | int (n : Int)
  /-- A number that is no integer, by its bits. -/
  | float (bits : UInt64)
  /-- A double that is no number, by its mark. -/
  | nan (mark : Nat)
  | text (s : String)
  | bytes (bs : List UInt8)
  | duration (micros : Int)
  | pattern (source : String)
  deriving DecidableEq, Repr

namespace Value

/-- The atom of a value, if it has no parts. -/
def atom? : Value → Option Atom
  | .null => some .null
  | .bool b => some (.int (ofBool b))
  | .int n => some (.int n)
  | .float x =>
    match Binary64.toInt? x with
    | some n => some (.int n)
    | none => some (.float x.toBits)
  | .nan _ mark => some (.nan mark)
  | .str s => some (.text s)
  | .bytes bs => some (.bytes bs)
  | .list _ => none
  | .mapping _ => none
  | .duration micros => some (.duration micros)
  | .sameSite s => some (.text s.word)
  | .pattern source => some (.pattern source)

end Value

end HttpExchange
