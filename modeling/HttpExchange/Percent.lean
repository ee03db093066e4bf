import HttpExchange.Utf8

/-! # Percent escapes

    The values of cookies are escaped as UTF-8 bytes.  A byte outside the
    printable ASCII range and each reserved character is written as a percent
    sign with two capital hexadecimal digits, so that the result can stand in
    a header.  Reading is strict: every percent sign needs its two digits, and
    the bytes read have to be UTF-8. -/

namespace HttpExchange.Percent

open Text

/-- The printable characters that are escaped all the same. -/
def reserved : List Char := "%<>\x7b\x7d[]()/|\\\"'^`,;".toList

/-- Must the byte be escaped? -/
def mustEscape (b : UInt8) : Bool :=
  b.toNat < 0x21 || 0x7F ≤ b.toNat || reserved.contains (Char.ofNat b.toNat)

/-- The escaped form of one byte. -/
def escapeByte (b : UInt8) : List Char :=
  if mustEscape b then ['%', hexDigitUpper (b.toNat / 16), hexDigitUpper (b.toNat % 16)]
  else [Char.ofNat b.toNat]

/-- The escaped form of a text. -/
def escapeChars (cs : List Char) : List Char := (Utf8.encode cs).flatMap escapeByte

/-- Why a text cannot be unescaped. -/
inductive Fault where
  /-- The percent sign at the position is not followed by two hexadecimal
      digits; the sequence is the percent sign with what follows it. -/
  | malformed (position : Nat) (sequence : List Char)
  /-- The bytes are not UTF-8. -/
  | notUtf8 (fault : Utf8.Fault)
  deriving DecidableEq, Repr

/-- The bytes that the text from position `pos` on stands for. -/
def bytesFrom (pos : Nat) : List Char → Except Fault (List UInt8)
  | [] => .ok []
  | c :: rest =>
    if c = '%' then
      match rest with
      | high :: low :: rest =>
        match hexValue? high, hexValue? low with
        | some h, some l => (UInt8.ofNat (16 * h + l) :: ·) <$> bytesFrom (pos + 3) rest
        | _, _ => .error (.malformed pos [c, high, low])
      | _ => .error (.malformed pos (c :: rest))
    else (Utf8.encodeChar c ++ ·) <$> bytesFrom (pos + 1) rest

/-- Undo the escapes of a text.  A text without a percent sign is its own
    result. -/
def unescapeChars (cs : List Char) : Except Fault (List Char) :=
  if '%' ∈ cs then
    match bytesFrom 0 cs with
    | .error fault => .error fault
    | .ok bytes => (Utf8.decode bytes).mapError .notUtf8
  else .ok cs

/-- The escaped form of a string. -/
def escape (s : String) : String := String.ofList (escapeChars s.toList)

/-- Undo the escapes of a string. -/
def unescape (s : String) : Except Fault String := String.ofList <$> unescapeChars s.toList

end HttpExchange.Percent
