import HttpExchange.Number.Power
import HttpExchange.Text.Blank
import HttpExchange.Text.Digit
import HttpExchange.Text.Split

/-! # Integers as text

    An integer is written in decimal.  It is read with blanks around it, one
    sign, decimal digits of any script and single underscores between the
    digits; a text with more digits than the limit is refused.  An integer with
    more digits cannot be written either (`isWritable`); `write` gives its
    digits all the same. -/

namespace HttpExchange.Integer

open Text

/-- Why a text is not read as an integer. -/
inductive Fault where
  | malformed
  | tooLong (digits : Nat)
  deriving DecidableEq, Repr

/-- The most digits that are read and written. -/
def digitLimit : Nat := 4300

/-- Is the character a blank of the ASCII range that may stand around an
    integer? -/
def isPadding (c : Char) : Bool := (9 ≤ c.toNat && c.toNat ≤ 13) || c.toNat == 32

/-- A character beyond ASCII as the ASCII character it stands for here: a
    blank, a digit, or a character that no integer contains. -/
def toAscii (c : Char) : Char :=
  if c.toNat < 0x80 then c
  else if isBlank c then ' '
  else match decimalDigit? c with
    | some d => Char.ofNat ('0'.toNat + d)
    | none => '?'

/-- Is the character an ASCII digit? -/
def isDigit (c : Char) : Bool := 48 ≤ c.toNat && c.toNat ≤ 57

/-- The number that a run of ASCII digits denotes. -/
def digitsValue (cs : List Char) : Nat := cs.foldl (fun n c => 10 * n + (c.toNat - 48)) 0

/-- Take the sign off a text: is the number negative, and what follows. -/
def takeSign : List Char → Bool × List Char
  | '-' :: cs => (true, cs)
  | '+' :: cs => (false, cs)
  | cs => (false, cs)

/-- Read ASCII text as an integer. -/
def readAscii (cs : List Char) : Except Fault Int :=
  let (negative, body) := takeSign (cs.dropWhile isPadding)
  let inRun (c : Char) : Bool := isDigit c || c == '_'
  let run := body.takeWhile inRun
  let rest := body.dropWhile inRun
  let digits := run.filter isDigit
  if (pieces '_' run).any List.isEmpty then .error .malformed
  else if digitLimit < digits.length then .error (.tooLong digits.length)
  else if rest.all isPadding then
    .ok (if negative then -(digitsValue digits : Int) else digitsValue digits)
  else .error .malformed

/-- Read a text as an integer. -/
def read (cs : List Char) : Except Fault Int := readAscii (cs.map toAscii)

/-- The decimal digits of an integer, with a minus sign before a negative
    one. -/
def write (n : Int) : List Char :=
  if n < 0 then '-' :: Nat.toDigits 10 n.natAbs else Nat.toDigits 10 n.natAbs

/-- Has the integer no more digits than are written? -/
def isWritable (n : Int) : Bool := n.natAbs < tenTo digitLimit

/-- A number with at least as many digits as the width says, zeros first. -/
def padded (width n : Nat) : List Char :=
  let digits := Nat.toDigits 10 n
  List.replicate (width - digits.length) '0' ++ digits

/-- An integer as a string. -/
def toText (n : Int) : String := String.ofList (write n)

end HttpExchange.Integer
