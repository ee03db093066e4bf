import HttpExchange.Proofs.Utf8.Decoding

/-! # Which bytes are text

    Bytes are valid if they are the bytes of some text.  The reader reads a
    character where one begins and fails where none does, so it takes exactly
    the valid bytes, and of any other ones it reads the longest valid part.

    * `valid_iff_isValidUTF8` says that valid means what it means in the
      standard library;
    * `starts_or_fails` is what the reader does at the front of bytes;
    * `valid_or_fails` follows it through all bytes;
    * `decode_eq_ok_iff` says which bytes are read, and as which text;
    * `isLongestValid_of_decode` says where reading stops. -/

namespace HttpExchange.Utf8

/-- Are the bytes those of a text? -/
def Valid (bytes : List UInt8) : Prop := ∃ cs, encode cs = bytes

/-- Is the number that of the bytes in the longest valid part at the front? -/
structure IsLongestValid (bytes : List UInt8) (n : Nat) : Prop where
  le_length : n ≤ bytes.length
  valid : Valid (bytes.take n)
  longest : ∀ m ≤ bytes.length, Valid (bytes.take m) → m ≤ n

/-! ## The standard library's notion -/

/-- The bytes of a character are those of the standard library. -/
theorem encodeChar_eq_utf8EncodeChar (c : Char) : encodeChar c = String.utf8EncodeChar c := by
  have hv := toNat_valid c
  have hn : c.val.toNat = c.toNat := rfl
  rw [encodeChar, String.utf8EncodeChar, hn]
  generalize c.toNat = n at hv
  -- the library writes the marks behind the digits, and takes the first digit modulo its range
  by_cases h1 : n < 0x80
  · rw [if_pos h1, if_pos (show n ≤ 127 by omega)]
  · rw [if_neg h1, if_neg (show ¬ n ≤ 127 by omega)]
    by_cases h2 : n < 0x800
    · rw [if_pos h2, if_pos (show n ≤ 2047 by omega), Nat.add_comm 0xC0, Nat.add_comm 0x80,
        Nat.mod_eq_of_lt (show n / 64 < 32 by omega)]
    · rw [if_neg h2, if_neg (show ¬ n ≤ 2047 by omega)]
      by_cases h3 : n < 0x10000
      · rw [if_pos h3, if_pos (show n ≤ 65535 by omega), Nat.add_comm 0xE0,
          Nat.add_comm 0x80, Nat.add_comm 0x80, Nat.mod_eq_of_lt (show n / 4096 < 16 by omega)]
      · rw [if_neg h3, if_neg (show ¬ n ≤ 65535 by omega), Nat.add_comm 0xF0,
          Nat.add_comm 0x80, Nat.add_comm 0x80, Nat.add_comm 0x80,
          Nat.mod_eq_of_lt (show n / 262144 < 8 by omega)]

theorem toByteArray_encode (cs : List Char) : (encode cs).toByteArray = cs.utf8Encode := by
  rw [encode, funext encodeChar_eq_utf8EncodeChar]
  rfl

/-- **Bytes are valid** if and only if the standard library says so. -/
theorem valid_iff_isValidUTF8 (bytes : List UInt8) :
    Valid bytes ↔ bytes.toByteArray.IsValidUTF8 := by
  constructor
  · rintro ⟨cs, rfl⟩
    exact ⟨cs, toByteArray_encode cs⟩
  · rintro ⟨cs, h⟩
    refine ⟨cs, ?_⟩
    rw [← toByteArray_encode] at h
    have hdata := congrArg (fun b => b.data.toList) h
    simpa using hdata.symm

/-! ## The bytes of a character that was read -/

theorem isTail_iff (b : UInt8) : isTail b = true ↔ 0x80 ≤ b.toNat ∧ b.toNat ≤ 0xBF := by
  rw [isTail, isWithin, Bool.and_eq_true, decide_eq_true_iff, decide_eq_true_iff]

/-- What the bounds on a second byte come to for each first byte. -/
theorem bounds_of_isWithin_second {first : Nat} {b : UInt8}
    (h : isWithin (secondLow first) (secondHigh first) b = true) :
    0x80 ≤ b.toNat ∧ b.toNat ≤ 0xBF ∧ (first = 0xE0 → 0xA0 ≤ b.toNat) ∧
      (first = 0xF0 → 0x90 ≤ b.toNat) ∧ (first = 0xED → b.toNat ≤ 0x9F) ∧
      (first = 0xF4 → b.toNat ≤ 0x8F) := by
  rw [isWithin, Bool.and_eq_true, decide_eq_true_iff, decide_eq_true_iff] at h
  obtain ⟨hlow, hhigh⟩ := h
  have hleast : 0x80 ≤ b.toNat ∧ (first = 0xE0 → 0xA0 ≤ b.toNat) ∧
      (first = 0xF0 → 0x90 ≤ b.toNat) := by
    rw [secondLow] at hlow
    split at hlow
    · omega
    · split at hlow
      · omega
      · omega
  have hmost : b.toNat ≤ 0xBF ∧ (first = 0xED → b.toNat ≤ 0x9F) ∧
      (first = 0xF4 → b.toNat ≤ 0x8F) := by
    rw [secondHigh] at hhigh
    split at hhigh
    · omega
    · split at hhigh
      · omega
      · omega
  exact ⟨hleast.1, hmost.1, hleast.2.1, hleast.2.2, hmost.2.1, hmost.2.2⟩

/-- The code point of a read character gives back the bytes that it was read
    from, when they are its digits in the base of 64 with their marks. -/
theorem encodeChar_one {a : UInt8} (ha : a.toNat < 0x80) :
    encodeChar (Char.ofNat a.toNat) = [a] := by
  rw [encodeChar, toNat_ofNat (.inl (by omega)), if_pos ha, UInt8.ofNat_toNat]

theorem encodeChar_two {a b : UInt8} (ha : 0xC2 ≤ a.toNat) (ha' : a.toNat < 0xE0)
    (hb : isTail b = true) :
    encodeChar (Char.ofNat (a.toNat % 32 * 64 + b.toNat % 64)) = [a, b] := by
  have hb' := (isTail_iff b).mp hb
  generalize hn : a.toNat % 32 * 64 + b.toNat % 64 = n
  have h1 : 0xC0 + n / 64 = a.toNat := by omega
  have h2 : 0x80 + n % 64 = b.toNat := by omega
  rw [encodeChar, toNat_ofNat (.inl (by omega))]
  rw [if_neg (by omega), if_pos (by omega), h1, h2, UInt8.ofNat_toNat, UInt8.ofNat_toNat]

theorem encodeChar_three {a b c : UInt8} (ha : 0xE0 ≤ a.toNat) (ha' : a.toNat < 0xF0)
    (hb : isWithin (secondLow a.toNat) (secondHigh a.toNat) b = true) (hc : isTail c = true) :
    encodeChar (Char.ofNat (a.toNat % 16 * 4096 + b.toNat % 64 * 64 + c.toNat % 64))
      = [a, b, c] := by
  obtain ⟨hb1, hb2, hb3, -, hb4, -⟩ := bounds_of_isWithin_second hb
  have hc' := (isTail_iff c).mp hc
  generalize hn : a.toNat % 16 * 4096 + b.toNat % 64 * 64 + c.toNat % 64 = n
  have h1 : 0xE0 + n / 4096 = a.toNat := by omega
  have h2 : 0x80 + n / 64 % 64 = b.toNat := by omega
  have h3 : 0x80 + n % 64 = c.toNat := by omega
  -- the bounds on the second byte keep the code point off the short forms and the surrogates
  have hvalid : n.isValidChar := by
    rw [Nat.isValidChar]
    omega
  rw [encodeChar, toNat_ofNat hvalid]
  rw [if_neg (by omega), if_neg (by omega), if_pos (by omega), h1, h2, h3, UInt8.ofNat_toNat,
    UInt8.ofNat_toNat, UInt8.ofNat_toNat]

theorem encodeChar_four {a b c d : UInt8} (ha : 0xF0 ≤ a.toNat) (ha' : a.toNat ≤ 0xF4)
    (hb : isWithin (secondLow a.toNat) (secondHigh a.toNat) b = true) (hc : isTail c = true)
    (hd : isTail d = true) :
    encodeChar (Char.ofNat (a.toNat % 8 * 262144 + b.toNat % 64 * 4096 + c.toNat % 64 * 64
        + d.toNat % 64)) = [a, b, c, d] := by
  obtain ⟨hb1, hb2, -, hb3, -, hb4⟩ := bounds_of_isWithin_second hb
  have hc' := (isTail_iff c).mp hc
  have hd' := (isTail_iff d).mp hd
  generalize hn : a.toNat % 8 * 262144 + b.toNat % 64 * 4096 + c.toNat % 64 * 64
    + d.toNat % 64 = n
  have h1 : 0xF0 + n / 262144 = a.toNat := by omega
  have h2 : 0x80 + n / 4096 % 64 = b.toNat := by omega
  have h3 : 0x80 + n / 64 % 64 = c.toNat := by omega
  have h4 : 0x80 + n % 64 = d.toNat := by omega
  have hvalid : n.isValidChar := by
    rw [Nat.isValidChar]
    omega
  rw [encodeChar, toNat_ofNat hvalid]
  rw [if_neg (by omega), if_neg (by omega), if_neg (by omega), h1, h2, h3, h4,
    UInt8.ofNat_toNat, UInt8.ofNat_toNat, UInt8.ofNat_toNat, UInt8.ofNat_toNat]

/-! ## The front of bytes -/

/-- A character begins the bytes. -/
def Starts (bytes : List UInt8) : Prop := ∃ c rest, bytes = encodeChar c ++ rest

/-- The reader fails at the first of the bytes. -/
def FailsAtOnce (pos : Nat) (bytes : List UInt8) : Prop :=
  ∃ fault, decodeFrom pos bytes = .error fault ∧ fault.start = pos

theorem starts_or_fails_two {a : UInt8} (ha : 0xC2 ≤ a.toNat) (ha' : a.toNat < 0xE0) (pos : Nat)
    (rest : List UInt8) : Starts (a :: rest) ∨ FailsAtOnce pos (a :: rest) := by
  rw [FailsAtOnce, decodeFrom.eq_def]
  dsimp only
  rw [if_neg (by omega), if_neg (by omega), if_pos ha']
  cases rest with
  | nil => exact .inr ⟨_, rfl, rfl⟩
  | cons b rest =>
      by_cases hb : isTail b = true
      · exact .inl ⟨_, rest, by rw [encodeChar_two ha ha' hb]; rfl⟩
      · exact .inr ⟨_, if_neg hb, rfl⟩

theorem starts_or_fails_three {a : UInt8} (ha : 0xE0 ≤ a.toNat) (ha' : a.toNat < 0xF0) (pos : Nat)
    (rest : List UInt8) : Starts (a :: rest) ∨ FailsAtOnce pos (a :: rest) := by
  rw [FailsAtOnce, decodeFrom.eq_def]
  dsimp only
  rw [if_neg (by omega), if_neg (by omega), if_neg (by omega), if_pos ha']
  rcases rest with _ | ⟨b, rest⟩
  · exact .inr ⟨_, rfl, rfl⟩
  · dsimp only
    by_cases hb : isWithin (secondLow a.toNat) (secondHigh a.toNat) b = true
    · rw [if_pos hb]
      rcases rest with _ | ⟨c, rest⟩
      · exact .inr ⟨_, rfl, rfl⟩
      · by_cases hc : isTail c = true
        · exact .inl ⟨_, rest, by rw [encodeChar_three ha ha' hb hc]; rfl⟩
        · exact .inr ⟨_, if_neg hc, rfl⟩
    · exact .inr ⟨_, if_neg hb, rfl⟩

theorem starts_or_fails_four {a : UInt8} (ha : 0xF0 ≤ a.toNat) (ha' : a.toNat ≤ 0xF4) (pos : Nat)
    (rest : List UInt8) : Starts (a :: rest) ∨ FailsAtOnce pos (a :: rest) := by
  rw [FailsAtOnce, decodeFrom.eq_def]
  dsimp only
  rw [if_neg (by omega), if_neg (by omega), if_neg (by omega), if_neg (by omega)]
  rcases rest with _ | ⟨b, rest⟩
  · exact .inr ⟨_, rfl, rfl⟩
  · dsimp only
    by_cases hb : isWithin (secondLow a.toNat) (secondHigh a.toNat) b = true
    · rw [if_pos hb]
      rcases rest with _ | ⟨c, rest⟩
      · exact .inr ⟨_, rfl, rfl⟩
      · dsimp only
        by_cases hc : isTail c = true
        · rw [if_pos hc]
          rcases rest with _ | ⟨d, rest⟩
          · exact .inr ⟨_, rfl, rfl⟩
          · by_cases hd : isTail d = true
            · exact .inl ⟨_, rest, by rw [encodeChar_four ha ha' hb hc hd]; rfl⟩
            · exact .inr ⟨_, if_neg hd, rfl⟩
        · exact .inr ⟨_, if_neg hc, rfl⟩
    · exact .inr ⟨_, if_neg hb, rfl⟩

/-- **The front of bytes** is a character, or the reader fails there. -/
theorem starts_or_fails (pos : Nat) (a : UInt8) (rest : List UInt8) :
    Starts (a :: rest) ∨ FailsAtOnce pos (a :: rest) := by
  by_cases h1 : a.toNat < 0x80
  · exact .inl ⟨_, rest, by rw [encodeChar_one h1]; rfl⟩
  · by_cases h2 : a.toNat < 0xC2 ∨ 0xF4 < a.toNat
    · refine .inr ⟨⟨.invalidStart, pos, 1⟩, ?_, rfl⟩
      rw [decodeFrom.eq_def]
      dsimp only
      rw [if_neg h1, if_pos h2]
    · by_cases h3 : a.toNat < 0xE0
      · exact starts_or_fails_two (by omega) h3 pos rest
      · by_cases h4 : a.toNat < 0xF0
        · exact starts_or_fails_three (by omega) h4 pos rest
        · exact starts_or_fails_four (by omega) (by omega) pos rest

/-! ## All bytes -/

theorem encode_cons (c : Char) (cs : List Char) : encode (c :: cs) = encodeChar c ++ encode cs :=
  List.flatMap_cons

theorem length_encodeChar_pos (c : Char) : 0 < (encodeChar c).length := by
  rw [encodeChar]
  split
  · exact Nat.one_pos
  · split
    · exact Nat.two_pos
    · split
      · exact Nat.succ_pos 2
      · exact Nat.succ_pos 3

/-- **Bytes are valid, or the reader fails** behind a valid part of them. -/
theorem valid_or_fails (bytes : List UInt8) (pos : Nat) :
    Valid bytes ∨ ∃ cs rest fault, bytes = encode cs ++ rest ∧
      decodeFrom pos bytes = .error fault ∧ fault.start = pos + (encode cs).length := by
  -- by the number of bytes: each character that is read leaves fewer of them
  induction h : bytes.length using Nat.strongRecOn generalizing bytes pos with
  | ind n ih =>
      cases bytes with
      | nil => exact .inl ⟨[], rfl⟩
      | cons a rest =>
          rcases starts_or_fails pos a rest with ⟨c, tail, htail⟩ | ⟨fault, hfault, hstart⟩
          · rw [htail] at h ⊢
            have hpos := length_encodeChar_pos c
            rw [List.length_append] at h
            rcases ih tail.length (by omega) tail (pos + (encodeChar c).length) rfl with
              ⟨cs, hcs⟩ | ⟨cs, back, fault, hcut, hfault, hstart⟩
            · exact .inl ⟨c :: cs, by rw [encode_cons, hcs]⟩
            · refine .inr ⟨c :: cs, back, fault, ?_, ?_, ?_⟩
              · rw [encode_cons, List.append_assoc, hcut]
              · rw [decodeFrom_encodeChar, hfault]
                rfl
              · rw [hstart, encode_cons, List.length_append, Nat.add_assoc]
          · exact .inr ⟨[], a :: rest, fault, rfl, hfault, hstart⟩

/-- **The bytes that are read** are those of a text, which is what they are
    read as. -/
theorem decode_eq_ok_iff {bytes : List UInt8} {cs : List Char} :
    decode bytes = .ok cs ↔ encode cs = bytes := by
  constructor
  · intro h
    rcases valid_or_fails bytes 0 with ⟨ds, rfl⟩ | ⟨ds, rest, fault, -, hfault, -⟩
    · rw [decode_encode] at h
      rw [Except.ok.inj h]
    · exact nomatch hfault.symm.trans h
  · rintro rfl
    exact decode_encode cs

/-- Behind a valid part reading goes on, so it does not stop before the end of
    that part. -/
theorem le_start_of_valid_take {bytes : List UInt8} {fault : Fault} {m : Nat}
    (h : decode bytes = .error fault) (hm : m ≤ bytes.length) (hvalid : Valid (bytes.take m)) :
    m ≤ fault.start := by
  obtain ⟨ds, hds⟩ := hvalid
  have hlen : (encode ds).length = m := by rw [hds, List.length_take, Nat.min_eq_left hm]
  rw [decode, ← List.take_append_drop m bytes, ← hds, decodeFrom_encode, Nat.zero_add, hlen] at h
  rcases valid_or_fails (bytes.drop m) m with ⟨es, hes⟩ | ⟨es, rest, other, -, hother, hstart⟩
  · have hread := decodeFrom_encode es m []
    rw [List.append_nil, hes, decodeFrom] at hread
    rw [hread] at h
    cases h
  · rw [hother] at h
    have hsame : other = fault := Except.error.inj h
    rw [← hsame, hstart]
    exact Nat.le_add_right m _

/-- **Reading stops** behind the longest valid part. -/
theorem isLongestValid_of_decode {bytes : List UInt8} {fault : Fault}
    (h : decode bytes = .error fault) : IsLongestValid bytes fault.start := by
  rcases valid_or_fails bytes 0 with ⟨cs, rfl⟩ | ⟨cs, rest, other, hcut, hother, hstart⟩
  · rw [decode_encode] at h
    exact nomatch h
  · obtain rfl : other = fault := Except.error.inj (hother.symm.trans h)
    rw [Nat.zero_add] at hstart
    refine ⟨?_, ⟨cs, ?_⟩, fun m hm hvalid => le_start_of_valid_take h hm hvalid⟩
    · rw [hstart, hcut, List.length_append]
      exact Nat.le_add_right _ _
    · rw [hstart, hcut, List.take_left]

/-- Bytes that are not valid are not read. -/
theorem exists_fault_of_not_valid {bytes : List UInt8} (h : ¬ Valid bytes) :
    ∃ fault, decode bytes = .error fault := by
  cases hread : decode bytes with
  | ok cs => exact absurd ⟨cs, decode_eq_ok_iff.mp hread⟩ h
  | error fault => exact ⟨fault, rfl⟩

end HttpExchange.Utf8
