import HttpExchange.Number.Integer
import HttpExchange.Number.Shortest
import HttpExchange.Text.Hex
import HttpExchange.Utf8
import HttpExchange.Value.Basic

/-! # Writing JSON

    The shortest text of a value: no blanks, and no escapes but those that
    JSON demands.  Bytes, durations, patterns and integers outside the 64-bit
    range have no JSON form. -/

namespace HttpExchange.Json

open Text

/-- Numbers are set positionally from 0.00001 up to sixteen digits. -/
def floatLayout : Shortest.Layout := ⟨-5, 15, 1⟩

/-- How deep written values may nest. -/
def writeDepth : Nat := 254

/-- A character inside a written text. -/
def writeChar (c : Char) : List Char :=
  match c with
  | '"' => ['\\', '"']
  | '\\' => ['\\', '\\']
  | '\x08' => ['\\', 'b']
  | '\x0c' => ['\\', 'f']
  | '\n' => ['\\', 'n']
  | '\r' => ['\\', 'r']
  | '\t' => ['\\', 't']
  | c => if c.toNat < 0x20 then '\\' :: 'u' :: hexDigits 4 c.toNat else [c]

/-- A text in quotes. -/
def writeText (cs : List Char) : List Char := '"' :: cs.flatMap writeChar ++ ['"']

mutual

/-- The JSON text of a value that nests no deeper than given. -/
def writeValue? (depth : Nat) : Value → Option (List Char)
  | .null => some "null".toList
  | .bool b => some (if b then "true".toList else "false".toList)
  | .int n =>
    if -9223372036854775808 ≤ n ∧ n ≤ 18446744073709551615 then some (Integer.write n) else none
  | .float x => some ((Shortest.write? floatLayout x).getD "null".toList)
  | .nan .. => some "null".toList
  | .str s => some (writeText s.toList)
  | .sameSite s => some (writeText s.word.toList)
  | .list items =>
    if depth = 0 then none
    else (writeItems? (depth - 1) items).map fun body => '[' :: body ++ [']']
  | .mapping entries =>
    if depth = 0 then none
    else (writeEntries? (depth - 1) entries).map fun body => '\x7b' :: body ++ ['\x7d']
  | .bytes _ | .duration _ | .pattern _ => none

/-- The texts of list items with commas between them. -/
def writeItems? (depth : Nat) : List Value → Option (List Char)
  | [] => some []
  | [v] => writeValue? depth v
  | v :: w :: rest => do
    return (← writeValue? depth v) ++ ',' :: (← writeItems? depth (w :: rest))

/-- The texts of mapping entries with commas between them. -/
def writeEntries? (depth : Nat) : List (String × Value) → Option (List Char)
  | [] => some []
  | [(k, v)] => do return writeText k.toList ++ ':' :: (← writeValue? depth v)
  | (k, v) :: entry :: rest => do
    return writeText k.toList ++ ':' :: (← writeValue? depth v)
      ++ ',' :: (← writeEntries? depth (entry :: rest))

end

/-- The JSON text of a value, if it has one. -/
def write? (v : Value) : Option (List Char) := writeValue? writeDepth v

/-- The JSON document of a value as bytes, if it has one. -/
def writeBytes? (v : Value) : Option (List UInt8) := (write? v).map Utf8.encode

end HttpExchange.Json
