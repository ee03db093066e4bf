import HttpExchange.Value.Basic
import HttpExchange.Number.Integer
import HttpExchange.Number.Shortest
import HttpExchange.Text.Quoted

/-! # Values as text

    `literal` shows what a value is (text in quotes, the parts of a list in
    brackets), `text` shows text as it is and everything else as its
    literal.  Both are meant for values that can be written (`isWritable`). -/

namespace HttpExchange.Value

open Text

/-- Numbers are set positionally from 0.0001 up to sixteen digits, with an
    exponent of at least two digits beyond. -/
def floatLayout : Shortest.Layout := ⟨-4, 15, 2⟩

/-- The text of a double. -/
def floatText (x : Float) : List Char :=
  match Binary64.view x with
  | .nan => "nan".toList
  | .infinite negative => if negative then "-inf".toList else "inf".toList
  | .finite .. => (Shortest.write? floatLayout x).getD []

/-- The days, seconds and microseconds of a duration; only the days can be
    negative. -/
def durationParts (micros : Int) : Int × Nat × Nat :=
  (micros.fdiv 86400000000, (micros.fmod 86400000000 / 1000000).toNat,
    (micros.fmod 1000000).toNat)

/-- A duration as days and a time of day. -/
def durationText (micros : Int) : List Char :=
  let (days, seconds, rest) := durationParts micros
  let clock := Nat.toDigits 10 (seconds / 3600) ++ ':' :: Integer.padded 2 (seconds / 60 % 60)
    ++ ':' :: Integer.padded 2 (seconds % 60)
  let day := if days = 0 then []
    else Integer.write days ++ (if days.natAbs = 1 then " day, " else " days, ").toList
  day ++ clock ++ (if rest = 0 then [] else '.' :: Integer.padded 6 rest)

/-- The literal of a duration names its parts that are not zero. -/
def durationLiteral (micros : Int) : List Char :=
  let (days, seconds, rest) := durationParts micros
  let part (name : String) (n : Int) : List (List Char) :=
    if n = 0 then [] else [name.toList ++ '=' :: Integer.write n]
  let parts := part "days" days ++ part "seconds" seconds ++ part "microseconds" rest
  "datetime.timedelta(".toList
    ++ (if parts.isEmpty then ['0'] else [',', ' '].intercalate parts) ++ [')']

/-- The literal of a SameSite value. -/
def sameSiteLiteral (s : SameSite) : List Char :=
  "<SameSite.".toList ++ s.name.toList ++ [':', ' '] ++ quote s.word.toList ++ ['>']

/-- The literal of a pattern shows the start of its source. -/
def patternLiteral (source : String) : List Char :=
  "re.compile(".toList ++ (quote source.toList).take 200 ++ [')']

mutual

/-- What the value is, as text. -/
def literal : Value → List Char
  | .null => "None".toList
  | .bool b => if b then "True".toList else "False".toList
  | .int n => Integer.write n
  | .float x => floatText x
  | .nan .. => "nan".toList
  | .str s => quote s.toList
  | .bytes bs => quoteBytes bs
  | .list items => '[' :: literalItems items ++ [']']
  | .mapping entries => '\x7b' :: literalEntries entries ++ ['\x7d']
  | .duration micros => durationLiteral micros
  | .sameSite s => sameSiteLiteral s
  | .pattern source => patternLiteral source

/-- The literals of the items of a list, with commas between them. -/
def literalItems : List Value → List Char
  | [] => []
  | [v] => literal v
  | v :: w :: rest => literal v ++ ',' :: ' ' :: literalItems (w :: rest)

/-- The literals of the entries of a mapping, with commas between them. -/
def literalEntries : List (String × Value) → List Char
  | [] => []
  | [(k, v)] => quote k.toList ++ ':' :: ' ' :: literal v
  | (k, v) :: entry :: rest =>
    quote k.toList ++ ':' :: ' ' :: literal v ++ ',' :: ' ' :: literalEntries (entry :: rest)

end

mutual

/-- Can all integers in the value be written? -/
def isWritable : Value → Bool
  | .int n => Integer.isWritable n
  | .list items => areItemsWritable items
  | .mapping entries => areEntriesWritable entries
  | _ => true

/-- Can the items of a list be written? -/
def areItemsWritable : List Value → Bool
  | [] => true
  | v :: rest => isWritable v && areItemsWritable rest

/-- Can the values of a mapping be written? -/
def areEntriesWritable : List (String × Value) → Bool
  | [] => true
  | (_, v) :: rest => isWritable v && areEntriesWritable rest

end

/-- The value as text: text as it is, anything else as its literal. -/
def text : Value → List Char
  | .str s => s.toList
  | .sameSite s => s.word.toList
  | .duration micros => durationText micros
  | v => literal v

/-- The value as a string. -/
def toText (v : Value) : String := String.ofList v.text

/-- The literal of the value as a string. -/
def toLiteral (v : Value) : String := String.ofList v.literal

/-- Text shows as it is. -/
@[simp] theorem text_str (s : String) : text (.str s) = s.toList := by simp [text]

/-- Text shows as it is. -/
@[simp] theorem toText_str (s : String) : toText (.str s) = s := by simp [toText]

end HttpExchange.Value
