import HttpExchange.Utf8

/-! # Reading what was encoded

    The bytes of a text read back as the text, whatever follows them.  A
    character of each length is read by its own branch of the reader, so the
    reader gets one equation for each length, and the four ranges of code
    points meet the bounds that their equation asks for. -/

namespace HttpExchange.Utf8

theorem toNat_byte {n : Nat} (h : n < 256) : (UInt8.ofNat n).toNat = n :=
  UInt8.toNat_ofNat_of_lt' h

theorem toNat_ofNat {n : Nat} (h : n.isValidChar) : (Char.ofNat n).toNat = n := by
  rw [Char.ofNat, dif_pos h]
  rfl

/-! ## One equation for each length -/

theorem decodeFrom_one {a : UInt8} (ha : a.toNat < 0x80) (pos : Nat) (rest : List UInt8) :
    decodeFrom pos (a :: rest) = (Char.ofNat a.toNat :: ·) <$> decodeFrom (pos + 1) rest := by
  rw [decodeFrom.eq_def]
  exact if_pos ha

theorem decodeFrom_two {a b : UInt8} (ha : 0xC2 ≤ a.toNat) (ha' : a.toNat < 0xE0)
    (hb : isTail b = true) (pos : Nat) (rest : List UInt8) :
    decodeFrom pos (a :: b :: rest)
      = (Char.ofNat (a.toNat % 32 * 64 + b.toNat % 64) :: ·) <$> decodeFrom (pos + 2) rest := by
  rw [decodeFrom.eq_def]
  dsimp only
  rw [if_neg (by omega), if_neg (by omega), if_pos ha', if_pos hb]

theorem decodeFrom_three {a b c : UInt8} (ha : 0xE0 ≤ a.toNat) (ha' : a.toNat < 0xF0)
    (hb : isWithin (secondLow a.toNat) (secondHigh a.toNat) b = true) (hc : isTail c = true)
    (pos : Nat) (rest : List UInt8) :
    decodeFrom pos (a :: b :: c :: rest)
      = (Char.ofNat (a.toNat % 16 * 4096 + b.toNat % 64 * 64 + c.toNat % 64) :: ·) <$>
          decodeFrom (pos + 3) rest := by
  rw [decodeFrom.eq_def]
  dsimp only
  rw [if_neg (by omega), if_neg (by omega), if_neg (by omega), if_pos ha', if_pos hb,
    if_pos hc]

theorem decodeFrom_four {a b c d : UInt8} (ha : 0xF0 ≤ a.toNat) (ha' : a.toNat ≤ 0xF4)
    (hb : isWithin (secondLow a.toNat) (secondHigh a.toNat) b = true) (hc : isTail c = true)
    (hd : isTail d = true) (pos : Nat) (rest : List UInt8) :
    decodeFrom pos (a :: b :: c :: d :: rest)
      = (Char.ofNat (a.toNat % 8 * 262144 + b.toNat % 64 * 4096 + c.toNat % 64 * 64
          + d.toNat % 64) :: ·) <$> decodeFrom (pos + 4) rest := by
  rw [decodeFrom.eq_def]
  dsimp only
  rw [if_neg (by omega), if_neg (by omega), if_neg (by omega), if_neg (by omega), if_pos hb,
    if_pos hc, if_pos hd]

/-! ## The bytes of a character -/

/-- The code point of a character is not a surrogate and not too large. -/
theorem toNat_valid (c : Char) : c.toNat < 0xD800 ∨ (0xDFFF < c.toNat ∧ c.toNat < 0x110000) :=
  c.valid

theorem isTail_byte (n : Nat) : isTail (UInt8.ofNat (0x80 + n % 64)) = true := by
  have hn : n % 64 < 64 := Nat.mod_lt n (by omega)
  rw [isTail, isWithin, toNat_byte (by omega)]
  simp only [Bool.and_eq_true, decide_eq_true_eq]
  omega

/-- The second byte of a long character keeps to the bounds that the first one
    sets: they exclude the forms that are too long, the surrogates and the
    numbers beyond the last code point. -/
theorem isWithin_second (first : Nat) {n : Nat} (hn : n < 64)
    (h0 : first = 0xE0 → 0x20 ≤ n) (h1 : first = 0xF0 → 0x10 ≤ n)
    (h2 : first = 0xED → n < 0x20) (h3 : first = 0xF4 → n < 0x10) :
    isWithin (secondLow first) (secondHigh first) (UInt8.ofNat (0x80 + n)) = true := by
  rw [isWithin, toNat_byte (by omega)]
  simp only [Bool.and_eq_true, decide_eq_true_eq]
  constructor
  · rw [secondLow]
    split
    · have := h0 ‹_›
      omega
    · split
      · have := h1 ‹_›
        omega
      · omega
  · rw [secondHigh]
    split
    · have := h2 ‹_›
      omega
    · split
      · have := h3 ‹_›
        omega
      · omega

/-- **The bytes of a character read back as the character**, and reading goes
    on behind them. -/
theorem decodeFrom_encodeChar (c : Char) (pos : Nat) (rest : List UInt8) :
    decodeFrom pos (encodeChar c ++ rest)
      = (c :: ·) <$> decodeFrom (pos + (encodeChar c).length) rest := by
  have hv := toNat_valid c
  rw [encodeChar]
  -- one case for each number of bytes, with the bounds that the code point has left
  by_cases h1 : c.toNat < 0x80
  · rw [if_pos h1]
    have ha := toNat_byte (n := c.toNat) (by omega)
    show decodeFrom pos (UInt8.ofNat c.toNat :: rest) = _
    rw [decodeFrom_one (by omega), ha, Char.ofNat_toNat]
    rfl
  · rw [if_neg h1]
    by_cases h2 : c.toNat < 0x800
    · rw [if_pos h2]
      have ha := toNat_byte (n := 0xC0 + c.toNat / 64) (by omega)
      have hb := toNat_byte (n := 0x80 + c.toNat % 64) (by omega)
      show decodeFrom pos (_ :: _ :: rest) = _
      rw [decodeFrom_two (by omega) (by omega) (isTail_byte _), ha, hb,
        show (0xC0 + c.toNat / 64) % 32 * 64 + (0x80 + c.toNat % 64) % 64 = c.toNat by omega,
        Char.ofNat_toNat]
      rfl
    · rw [if_neg h2]
      by_cases h3 : c.toNat < 0x10000
      · rw [if_pos h3]
        have ha := toNat_byte (n := 0xE0 + c.toNat / 4096) (by omega)
        have hb := toNat_byte (n := 0x80 + c.toNat / 64 % 64) (by omega)
        have hc := toNat_byte (n := 0x80 + c.toNat % 64) (by omega)
        have hs := isWithin_second (0xE0 + c.toNat / 4096) (n := c.toNat / 64 % 64)
          (by omega) (by omega) (by omega) (by omega) (by omega)
        show decodeFrom pos (_ :: _ :: _ :: rest) = _
        rw [decodeFrom_three (by omega) (by omega) (by rw [ha]; exact hs) (isTail_byte _),
          ha, hb, hc,
          show (0xE0 + c.toNat / 4096) % 16 * 4096 + (0x80 + c.toNat / 64 % 64) % 64 * 64
            + (0x80 + c.toNat % 64) % 64 = c.toNat by omega,
          Char.ofNat_toNat]
        rfl
      · rw [if_neg h3]
        have ha := toNat_byte (n := 0xF0 + c.toNat / 262144) (by omega)
        have hb := toNat_byte (n := 0x80 + c.toNat / 4096 % 64) (by omega)
        have hc := toNat_byte (n := 0x80 + c.toNat / 64 % 64) (by omega)
        have hd := toNat_byte (n := 0x80 + c.toNat % 64) (by omega)
        have hs := isWithin_second (0xF0 + c.toNat / 262144)
          (n := c.toNat / 4096 % 64) (by omega) (by omega) (by omega) (by omega) (by omega)
        show decodeFrom pos (_ :: _ :: _ :: _ :: rest) = _
        rw [decodeFrom_four (by omega) (by omega) (by rw [ha]; exact hs) (isTail_byte _)
            (isTail_byte _), ha, hb, hc, hd,
          show (0xF0 + c.toNat / 262144) % 8 * 262144 + (0x80 + c.toNat / 4096 % 64) % 64 * 4096
            + (0x80 + c.toNat / 64 % 64) % 64 * 64 + (0x80 + c.toNat % 64) % 64 = c.toNat by omega,
          Char.ofNat_toNat]
        rfl

/-! ## The bytes of a text -/

/-- The bytes of a text read back as the text, and reading goes on behind
    them. -/
theorem decodeFrom_encode (cs : List Char) (pos : Nat) (rest : List UInt8) :
    decodeFrom pos (encode cs ++ rest)
      = (cs ++ ·) <$> decodeFrom (pos + (encode cs).length) rest := by
  induction cs generalizing pos with
  | nil =>
      show decodeFrom pos rest = (fun ds => ds) <$> decodeFrom pos rest
      exact (id_map (decodeFrom pos rest)).symm
  | cons c cs ih =>
      have hlen : (encode (c :: cs)).length = (encodeChar c).length + (encode cs).length := by
        rw [encode, List.flatMap_cons, List.length_append]
        rfl
      rw [show encode (c :: cs) = encodeChar c ++ encode cs from List.flatMap_cons,
        List.append_assoc, decodeFrom_encodeChar, ih, List.length_append, ← Nat.add_assoc]
      cases decodeFrom (pos + (encodeChar c).length + (encode cs).length) rest <;> rfl

/-- The bytes of a text read back as the text. -/
theorem decode_encode (cs : List Char) : decode (encode cs) = .ok cs := by
  have h := decodeFrom_encode cs 0 []
  rw [List.append_nil] at h
  rw [decode, h, decodeFrom]
  show Except.ok (cs ++ []) = _
  rw [List.append_nil]

end HttpExchange.Utf8
