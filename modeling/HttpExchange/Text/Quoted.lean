import HttpExchange.Text.Hex
import HttpExchange.Text.Printable

/-! # Quoted text

    Messages show a text between quotes: single ones, or double ones when
    the text has a single quote and no double quote.  The quote, the
    backslash and every character that is not printable are escaped. -/

namespace HttpExchange.Text

/-- The quote to put around a text. -/
def quoteFor (cs : List Char) : Char := if '\'' ∈ cs ∧ '"' ∉ cs then '"' else '\''

/-- The escapes that have a letter of their own. -/
def namedEscape? (c : Char) : Option (List Char) :=
  if c = '\n' then some ['\\', 'n']
  else if c = '\r' then some ['\\', 'r']
  else if c = '\t' then some ['\\', 't']
  else none

/-- A character between the given quotes. -/
def quoteChar (q c : Char) : List Char :=
  if c = q ∨ c = '\\' then ['\\', c]
  else match namedEscape? c with
    | some escape => escape
    | none =>
      let n := c.toNat
      if isPrintable c then [c]
      else if n < 0x100 then '\\' :: 'x' :: hexDigits 2 n
      else if n < 0x10000 then '\\' :: 'u' :: hexDigits 4 n
      else '\\' :: 'U' :: hexDigits 8 n

/-- A text in quotes. -/
def quote (cs : List Char) : List Char :=
  let q := quoteFor cs
  q :: cs.flatMap (quoteChar q) ++ [q]

/-- A byte between the given quotes. -/
def quoteByte (q : Char) (b : UInt8) : List Char :=
  let n := b.toNat
  if n < 0x80 then quoteChar q (Char.ofNat n) else '\\' :: 'x' :: hexDigits 2 n

/-- Bytes in quotes, with the letter `b` before them. -/
def quoteBytes (bytes : List UInt8) : List Char :=
  let q := quoteFor (bytes.map fun b => Char.ofNat b.toNat)
  'b' :: q :: bytes.flatMap (quoteByte q) ++ [q]

/-- A string in quotes. -/
def quoteString (s : String) : String := String.ofList (quote s.toList)

end HttpExchange.Text
