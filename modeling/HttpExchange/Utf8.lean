import HttpExchange.Text.Hex

/-! # UTF-8

    The bytes of a text, and the strict reading of bytes as text.  Reading
    reports the first byte at which no character can be read, how many bytes
    were looked at, and why they do not form a character. -/

namespace HttpExchange.Utf8

/-- The bytes of one character. -/
def encodeChar (c : Char) : List UInt8 :=
  let n := c.toNat
  if n < 0x80 then [UInt8.ofNat n]
  else if n < 0x800 then [UInt8.ofNat (0xC0 + n / 64), UInt8.ofNat (0x80 + n % 64)]
  else if n < 0x10000 then
    [UInt8.ofNat (0xE0 + n / 4096), UInt8.ofNat (0x80 + n / 64 % 64),
      UInt8.ofNat (0x80 + n % 64)]
  else
    [UInt8.ofNat (0xF0 + n / 262144), UInt8.ofNat (0x80 + n / 4096 % 64),
      UInt8.ofNat (0x80 + n / 64 % 64), UInt8.ofNat (0x80 + n % 64)]

/-- The bytes of a text. -/
def encode (cs : List Char) : List UInt8 := cs.flatMap encodeChar

/-- Why bytes do not form a character. -/
inductive Reason where
  | invalidStart
  | invalidContinuation
  | unexpectedEnd
  deriving DecidableEq, Repr

/-- The wording of a reason. -/
def Reason.text : Reason → String
  | .invalidStart => "invalid start byte"
  | .invalidContinuation => "invalid continuation byte"
  | .unexpectedEnd => "unexpected end of data"

/-- Where reading stopped: `length` bytes from `start` on do not begin a
    character. -/
structure Fault where
  reason : Reason
  start : Nat
  length : Nat
  deriving DecidableEq, Repr

/-- Is the byte between the bounds? -/
def isWithin (low high : Nat) (b : UInt8) : Bool := low ≤ b.toNat && b.toNat ≤ high

/-- Is the byte one that continues a character? -/
def isTail (b : UInt8) : Bool := isWithin 0x80 0xBF b

/-- The least second byte after the given first byte. -/
def secondLow (first : Nat) : Nat :=
  if first = 0xE0 then 0xA0 else if first = 0xF0 then 0x90 else 0x80

/-- The greatest second byte after the given first byte. -/
def secondHigh (first : Nat) : Nat :=
  if first = 0xED then 0x9F else if first = 0xF4 then 0x8F else 0xBF

/-- Read the text of the bytes that start at byte `pos` of the whole. -/
def decodeFrom (pos : Nat) : List UInt8 → Except Fault (List Char)
  | [] => .ok []
  | a :: rest =>
    let n := a.toNat
    if n < 0x80 then (Char.ofNat n :: ·) <$> decodeFrom (pos + 1) rest
    else if n < 0xC2 ∨ 0xF4 < n then .error ⟨.invalidStart, pos, 1⟩
    else if n < 0xE0 then
      match rest with
      | [] => .error ⟨.unexpectedEnd, pos, 1⟩
      | b :: rest =>
        if isTail b then
          (Char.ofNat (n % 32 * 64 + b.toNat % 64) :: ·) <$> decodeFrom (pos + 2) rest
        else .error ⟨.invalidContinuation, pos, 1⟩
    else if n < 0xF0 then
      match rest with
      | [] => .error ⟨.unexpectedEnd, pos, 1⟩
      | b :: rest =>
        if isWithin (secondLow n) (secondHigh n) b then
          match rest with
          | [] => .error ⟨.unexpectedEnd, pos, 2⟩
          | c :: rest =>
            if isTail c then
              (Char.ofNat (n % 16 * 4096 + b.toNat % 64 * 64 + c.toNat % 64) :: ·) <$>
                decodeFrom (pos + 3) rest
            else .error ⟨.invalidContinuation, pos, 2⟩
        else .error ⟨.invalidContinuation, pos, 1⟩
    else
      match rest with
      | [] => .error ⟨.unexpectedEnd, pos, 1⟩
      | b :: rest =>
        if isWithin (secondLow n) (secondHigh n) b then
          match rest with
          | [] => .error ⟨.unexpectedEnd, pos, 2⟩
          | c :: rest =>
            if isTail c then
              match rest with
              | [] => .error ⟨.unexpectedEnd, pos, 3⟩
              | d :: rest =>
                if isTail d then
                  (Char.ofNat (n % 8 * 262144 + b.toNat % 64 * 4096 + c.toNat % 64 * 64
                    + d.toNat % 64) :: ·) <$> decodeFrom (pos + 4) rest
                else .error ⟨.invalidContinuation, pos, 3⟩
            else .error ⟨.invalidContinuation, pos, 2⟩
        else .error ⟨.invalidContinuation, pos, 1⟩

/-- Read bytes as text. -/
def decode (bytes : List UInt8) : Except Fault (List Char) := decodeFrom 0 bytes

/-- Read bytes as a string. -/
def decodeString (bytes : List UInt8) : Except Fault String := String.ofList <$> decode bytes

/-- The bytes of a string. -/
def encodeString (s : String) : List UInt8 := encode s.toList

end HttpExchange.Utf8
