import HttpExchange.Number.Integer
import HttpExchange.Text.Hex
import HttpExchange.Utf8
import HttpExchange.Value.Basic

/-! # Reading JSON

    A strict reader: one value with nothing but blanks around it.  A number
    with a fraction or an exponent is a double, and one that is too large for
    a double is refused.  A repeated key keeps its first place and takes its
    last value. -/

namespace HttpExchange.Json

open Text

/-- Which documents are read. -/
structure Dialect where
  /-- How deep lists and mappings may nest. -/
  depth : Nat
  /-- Are integers outside the 64-bit range kept as integers?  They become
      doubles otherwise. -/
  wideIntegers : Bool
  deriving Repr

/-- Bodies and settings documents: integers of 64 bits. -/
def Dialect.body : Dialect := ⟨1024, false⟩

/-- Documents with integers of any size. -/
def Dialect.wide : Dialect := ⟨100000, true⟩

/-- Is the character a blank between tokens? -/
def isSpace (c : Char) : Bool := c == ' ' || c == '\n' || c == '\r' || c == '\t'

/-- Skip the blanks before a token. -/
def skip (cs : List Char) : List Char := cs.dropWhile isSpace

/-- The number that four hexadecimal digits denote. -/
def hex4? (a b c d : Char) : Option Nat := do
  return ((← hexValue? a) * 16 + (← hexValue? b)) * 256 + (← hexValue? c) * 16 + (← hexValue? d)

/-- The character that a letter after a backslash stands for. -/
def simpleEscape? (c : Char) : Option Char :=
  match c with
  | '"' => some '"'
  | '\\' => some '\\'
  | '/' => some '/'
  | 'b' => some '\x08'
  | 'f' => some '\x0c'
  | 'n' => some '\n'
  | 'r' => some '\r'
  | 't' => some '\t'
  | _ => none

/-- Put a character before the text read after it. -/
def consRead (c : Char) (r : Option (List Char × List Char)) : Option (List Char × List Char) :=
  r.map fun (cs, rest) => (c :: cs, rest)

/-- Read a text up to its closing quote; what follows is returned with it. -/
def readText : List Char → Option (List Char × List Char)
  | [] => none
  | '"' :: rest => some ([], rest)
  | '\\' :: 'u' :: a :: b :: c :: d :: rest =>
    match hex4? a b c d with
    | none => none
    | some n =>
      if n < 0xD800 ∨ 0xDFFF < n then consRead (Char.ofNat n) (readText rest)
      else if 0xDC00 ≤ n then none
      else match rest with
        | '\\' :: 'u' :: e :: f :: g :: h :: rest =>
          match hex4? e f g h with
          | some m =>
            if 0xDC00 ≤ m ∧ m ≤ 0xDFFF then
              consRead (Char.ofNat (0x10000 + (n - 0xD800) * 1024 + (m - 0xDC00)))
                (readText rest)
            else none
          | none => none
        | _ => none
  | '\\' :: c :: rest =>
    match simpleEscape? c with
    | some e => consRead e (readText rest)
    | none => none
  | c :: rest => if c.toNat < 0x20 then none else consRead c (readText rest)

/-- The double for the digits of a decimal with the given scale, unless it
    is too large. -/
def decimalFloat? (negative : Bool) (digits : List Char) (scale : Int) : Option Float :=
  let n := Integer.digitsValue digits
  let size : Int := scale + digits.length
  if n = 0 ∨ size < -400 then some (Binary64.ofQuotient negative 0 1)
  else if 310 < size - (digits.takeWhile (· == '0')).length then none
  else
    let x := if 0 ≤ scale then Binary64.ofQuotient negative (n * tenTo scale.toNat) 1
      else Binary64.ofQuotient negative n (tenTo (-scale).toNat)
    match Binary64.view x with
    | .finite .. => some x
    | _ => none

/-- Take the digits off the front. -/
def takeDigits (cs : List Char) : List Char × List Char :=
  (cs.takeWhile Integer.isDigit, cs.dropWhile Integer.isDigit)

/-- Read the fraction of a number: its digits, if there is a fraction. -/
def readFraction : List Char → Option (Option (List Char) × List Char)
  | '.' :: rest =>
    let (digits, rest) := takeDigits rest
    if digits.isEmpty then none else some (some digits, rest)
  | rest => some (none, rest)

/-- Read the exponent of a number, if there is one. -/
def readExponent : List Char → Option (Option Int × List Char)
  | c :: rest =>
    if c = 'e' ∨ c = 'E' then
      let (negative, rest) := Integer.takeSign rest
      let (digits, rest) := takeDigits rest
      let n : Int := Integer.digitsValue digits
      if digits.isEmpty then none else some (some (if negative then -n else n), rest)
    else some (none, c :: rest)
  | [] => some (none, [])

/-- An integer in a dialect: a double outside the 64-bit range if wide ones
    are not kept. -/
def integerValue? (dialect : Dialect) (negative : Bool) (digits : List Char) : Option Value :=
  let n : Int := Integer.digitsValue digits
  let n := if negative then -n else n
  if dialect.wideIntegers ∨ (-9223372036854775808 ≤ n ∧ n ≤ 18446744073709551615) then
    some (.int n)
  else (decimalFloat? negative digits 0).map .float

/-- Read a number. -/
def readNumber (dialect : Dialect) (cs : List Char) : Option (Value × List Char) :=
  let (negative, rest) := match cs with
    | '-' :: rest => (true, rest)
    | _ => (false, cs)
  let (digits, rest) := takeDigits rest
  if digits.isEmpty ∨ (digits.head? = some '0' ∧ digits.length ≠ 1) then none
  else match readFraction rest with
    | none => none
    | some (fraction, rest) =>
      match readExponent rest with
      | none => none
      | some (exponent, rest) =>
        match fraction, exponent with
        | none, none => (integerValue? dialect negative digits).map fun v => (v, rest)
        | _, _ =>
          let tail := fraction.getD []
          (decimalFloat? negative (digits ++ tail) (exponent.getD 0 - tail.length)).map
            fun x => (.float x, rest)

mutual

/-- Read a value; the first number bounds the calls and the second the
    nesting. -/
def readValue (dialect : Dialect) : Nat → Nat → List Char → Option (Value × List Char)
  | 0, _, _ => none
  | calls + 1, depth, cs =>
    match skip cs with
    | '"' :: rest => (readText rest).map fun (text, rest) => (.str (String.ofList text), rest)
    | '[' :: rest =>
      if depth = 0 then none
      else match skip rest with
        | ']' :: rest => some (.list [], rest)
        | rest => (readItems dialect calls (depth - 1) rest).map fun (items, rest) =>
            (.list items, rest)
    | '\x7b' :: rest =>
      if depth = 0 then none
      else match skip rest with
        | '\x7d' :: rest => some (.mapping [], rest)
        | rest => (readEntries dialect calls (depth - 1) rest).map fun (entries, rest) =>
            (.mapping (Value.ofPairs entries), rest)
    | 't' :: 'r' :: 'u' :: 'e' :: rest => some (.bool true, rest)
    | 'f' :: 'a' :: 'l' :: 's' :: 'e' :: rest => some (.bool false, rest)
    | 'n' :: 'u' :: 'l' :: 'l' :: rest => some (.null, rest)
    | rest => readNumber dialect rest

/-- Read the items of a list up to its end. -/
def readItems (dialect : Dialect) : Nat → Nat → List Char → Option (List Value × List Char)
  | 0, _, _ => none
  | calls + 1, depth, cs =>
    match readValue dialect calls depth cs with
    | none => none
    | some (v, rest) =>
      match skip rest with
      | ',' :: rest => (readItems dialect calls depth rest).map fun (vs, rest) => (v :: vs, rest)
      | ']' :: rest => some ([v], rest)
      | _ => none

/-- Read the entries of a mapping up to its end. -/
def readEntries (dialect : Dialect) :
    Nat → Nat → List Char → Option (List (String × Value) × List Char)
  | 0, _, _ => none
  | calls + 1, depth, cs =>
    match skip cs with
    | '"' :: rest =>
      match readText rest with
      | none => none
      | some (key, rest) =>
        match skip rest with
        | ':' :: rest =>
          match readValue dialect calls depth rest with
          | none => none
          | some (v, rest) =>
            match skip rest with
            | ',' :: rest => (readEntries dialect calls depth rest).map fun (entries, rest) =>
                ((String.ofList key, v) :: entries, rest)
            | '\x7d' :: rest => some ([(String.ofList key, v)], rest)
            | _ => none
        | _ => none
    | _ => none

end

/-- Read a whole text as one value.  Each call takes a character, so twice
    the length bounds the calls. -/
def read (dialect : Dialect) (cs : List Char) : Option Value :=
  match readValue dialect (2 * cs.length + 2) dialect.depth cs with
  | some (v, rest) => if (skip rest).isEmpty then some v else none
  | none => none

/-- Read a document given as bytes, which have to be UTF-8. -/
def readBytes (dialect : Dialect) (bytes : List UInt8) : Option Value :=
  match Utf8.decode bytes with
  | .ok cs => read dialect cs
  | .error _ => none

end HttpExchange.Json
