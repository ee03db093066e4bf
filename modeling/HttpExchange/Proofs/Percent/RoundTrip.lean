import HttpExchange.Percent
import HttpExchange.Proofs.Utf8.Validity

/-! # Escaped texts are safe and read back

    Escaping works byte by byte, and the reader takes back what stands for one
    byte at a time: either a percent sign with two digits or one plain
    character.  So the bytes of a text come back from its escaped form, and
    the text from the bytes.  A text without a percent sign takes a shortcut,
    which changes nothing: its bytes are those of the text itself.

    What stands for one byte holds plain characters only, and a percent sign
    is never without its two digits. -/

namespace HttpExchange.Percent

open Text

/-! ## The shortcut changes nothing -/

theorem bytesFrom_cons {c : Char} (hc : c ≠ '%') (pos : Nat) (rest : List Char) :
    bytesFrom pos (c :: rest) = (Utf8.encodeChar c ++ ·) <$> bytesFrom (pos + 1) rest := by
  rw [bytesFrom.eq_def]
  exact if_neg hc

/-- A text without a percent sign stands for its own bytes. -/
theorem bytesFrom_of_not_mem {cs : List Char} (h : '%' ∉ cs) (pos : Nat) :
    bytesFrom pos cs = .ok (Utf8.encode cs) := by
  induction cs generalizing pos with
  | nil => rfl
  | cons c cs ih =>
      have hc : c ≠ '%' := fun e => h (e ▸ List.mem_cons_self)
      rw [bytesFrom_cons hc, ih fun hcs => h (List.mem_cons_of_mem c hcs)]
      rfl

/-- **The shortcut agrees with the general way**: undoing the escapes of any
    text is to collect its bytes and to read them. -/
theorem unescapeChars_eq (cs : List Char) :
    unescapeChars cs =
      (bytesFrom 0 cs).bind fun bytes => (Utf8.decode bytes).mapError .notUtf8 := by
  rw [unescapeChars]
  by_cases h : '%' ∈ cs
  · rw [if_pos h]
    cases bytesFrom 0 cs <;> rfl
  · rw [if_neg h, bytesFrom_of_not_mem h]
    show _ = (Utf8.decode (Utf8.encode cs)).mapError Fault.notUtf8
    rw [Utf8.decode_encode]
    rfl

/-! ## One byte -/

/-- A percent sign with two digits stands for one byte. -/
theorem bytesFrom_pair {high low : Char} {h l : Nat} (hh : hexValue? high = some h)
    (hl : hexValue? low = some l) (pos : Nat) (rest : List Char) :
    bytesFrom pos ('%' :: high :: low :: rest)
      = (UInt8.ofNat (16 * h + l) :: ·) <$> bytesFrom (pos + 3) rest := by
  rw [bytesFrom.eq_def]
  dsimp only
  rw [if_pos rfl, hh, hl]

/-- A byte that is not escaped is a printable ASCII character outside the
    reserved ones. -/
theorem of_not_mustEscape {b : UInt8} (h : mustEscape b = false) :
    0x21 ≤ b.toNat ∧ b.toNat ≤ 0x7E ∧ Char.ofNat b.toNat ∉ reserved := by
  rw [mustEscape, Bool.or_eq_false_iff, Bool.or_eq_false_iff] at h
  obtain ⟨⟨hlow, hhigh⟩, hres⟩ := h
  have hlow' := of_decide_eq_false hlow
  have hhigh' := of_decide_eq_false hhigh
  refine ⟨by omega, by omega, ?_⟩
  intro hmem
  rw [List.contains_iff_mem.mpr hmem] at hres
  exact Bool.noConfusion hres

/-- **What stands for a byte reads back as the byte**, and reading goes on
    behind it. -/
theorem bytesFrom_escapeByte (b : UInt8) (pos : Nat) (rest : List Char) :
    bytesFrom pos (escapeByte b ++ rest)
      = (b :: ·) <$> bytesFrom (pos + (escapeByte b).length) rest := by
  have hb : b.toNat < 256 := UInt8.toNat_lt b
  rw [escapeByte]
  by_cases h : mustEscape b = true
  · rw [if_pos h]
    show bytesFrom pos ('%' :: _ :: _ :: rest) = _
    rw [bytesFrom_pair (hexValue?_hexDigitUpper (b.toNat / 16) (by omega))
        (hexValue?_hexDigitUpper (b.toNat % 16) (by omega)),
      show 16 * (b.toNat / 16) + b.toNat % 16 = b.toNat by omega, UInt8.ofNat_toNat]
    rfl
  · rw [if_neg h]
    obtain ⟨-, hle, hres⟩ := of_not_mustEscape (Bool.eq_false_iff.mpr h)
    -- a byte that stands for itself is ASCII, so it is the only byte of its character
    have hne : Char.ofNat b.toNat ≠ '%' := fun e => hres (e ▸ by decide)
    show bytesFrom pos (Char.ofNat b.toNat :: rest) = _
    rw [bytesFrom_cons hne, Utf8.encodeChar_one (by omega)]
    rfl

/-! ## All bytes -/

theorem bytesFrom_escapeBytes (bs : List UInt8) (pos : Nat) :
    bytesFrom pos (bs.flatMap escapeByte) = .ok bs := by
  induction bs generalizing pos with
  | nil => rfl
  | cons b bs ih =>
      rw [List.flatMap_cons, bytesFrom_escapeByte, ih]
      rfl

/-- The escaped form of a text reads back as the text. -/
theorem unescapeChars_escapeChars (cs : List Char) : unescapeChars (escapeChars cs) = .ok cs := by
  rw [unescapeChars_eq, escapeChars, bytesFrom_escapeBytes]
  show (Utf8.decode (Utf8.encode cs)).mapError Fault.notUtf8 = _
  rw [Utf8.decode_encode]
  rfl

/-- The escaped form of a string reads back as the string. -/
theorem unescape_escape_eq (s : String) : unescape (escape s) = .ok s := by
  rw [unescape, escape, String.toList_ofList, unescapeChars_escapeChars]
  show Except.ok (String.ofList s.toList) = _
  rw [String.ofList_toList]

/-! ## What stands in an escaped text -/

/-- The printable characters that no escaped text contains. -/
def separators : List Char := "<>\x7b\x7d[]()/|\\\"'^`,;".toList

/-- May the character stand in a header without harm? -/
def IsPlain (c : Char) : Prop := 0x21 ≤ c.toNat ∧ c.toNat ≤ 0x7E ∧ c ∉ separators

instance : DecidablePred IsPlain :=
  fun c => inferInstanceAs (Decidable (0x21 ≤ c.toNat ∧ c.toNat ≤ 0x7E ∧ c ∉ separators))

/-- Is the character a capital hexadecimal digit? -/
def IsCapitalDigit (c : Char) : Prop := c ∈ "0123456789ABCDEF".toList

instance : DecidablePred IsCapitalDigit :=
  fun c => inferInstanceAs (Decidable (c ∈ "0123456789ABCDEF".toList))

theorem isCapitalDigit_hexDigitUpper : ∀ n < 16, IsCapitalDigit (hexDigitUpper n) := by decide

theorem isPlain_hexDigitUpper : ∀ n < 16, IsPlain (hexDigitUpper n) := by decide

theorem hexDigitUpper_ne_percent : ∀ n < 16, hexDigitUpper n ≠ '%' := by decide

/-- The separators are reserved, and so is the percent sign. -/
theorem reserved_eq : reserved = '%' :: separators := by rfl

/-- What stands for a byte is harmless. -/
theorem isPlain_of_mem_escapeByte {b : UInt8} {c : Char} (hc : c ∈ escapeByte b) : IsPlain c := by
  have hb : b.toNat < 256 := UInt8.toNat_lt b
  rw [escapeByte] at hc
  by_cases h : mustEscape b = true
  · rw [if_pos h] at hc
    rcases List.mem_cons.mp hc with rfl | hc
    · decide
    · rcases List.mem_cons.mp hc with rfl | hc
      · exact isPlain_hexDigitUpper _ (by omega)
      · rw [List.mem_singleton.mp hc]
        exact isPlain_hexDigitUpper _ (by omega)
  · rw [if_neg h] at hc
    obtain ⟨hge, hle, hres⟩ := of_not_mustEscape (Bool.eq_false_iff.mpr h)
    rw [reserved_eq] at hres
    rw [List.mem_singleton.mp hc, IsPlain, Utf8.toNat_ofNat (.inl (by omega))]
    exact ⟨hge, hle, fun hs => hres (List.mem_cons_of_mem _ hs)⟩

/-- Does the text start with two capital digits? -/
def StartsWithPair (cs : List Char) : Prop :=
  ∃ high low rest, cs = high :: low :: rest ∧ IsCapitalDigit high ∧ IsCapitalDigit low

/-- Behind every percent sign of what stands for bytes there are two capital
    digits.  The percent sign is none of the digits and no plain character, so
    it opens what stands for some byte. -/
theorem startsWithPair_of_escapeBytes (bs : List UInt8) :
    ∀ before after, bs.flatMap escapeByte = before ++ '%' :: after → StartsWithPair after := by
  induction bs with
  | nil =>
      intro before after h
      exact absurd h.symm (List.append_ne_nil_of_right_ne_nil _ (List.cons_ne_nil _ _))
  | cons b bs ih =>
      intro before after h
      have hb : b.toNat < 256 := UInt8.toNat_lt b
      have hhigh : b.toNat / 16 < 16 := by omega
      have hlow : b.toNat % 16 < 16 := by omega
      rw [List.flatMap_cons, escapeByte] at h
      by_cases hm : mustEscape b = true
      · rw [if_pos hm] at h
        -- the sign opens the three characters, is one of the digits, or comes after them
        rcases before with _ | ⟨x, _ | ⟨y, _ | ⟨z, before⟩⟩⟩
        · refine ⟨_, _, _, (List.cons.inj h).2.symm, ?_, ?_⟩
          · exact isCapitalDigit_hexDigitUpper _ hhigh
          · exact isCapitalDigit_hexDigitUpper _ hlow
        · have h1 := (List.cons.inj (List.cons.inj h).2).1
          exact absurd h1 (hexDigitUpper_ne_percent _ hhigh)
        · have h2 := (List.cons.inj (List.cons.inj (List.cons.inj h).2).2).1
          exact absurd h2 (hexDigitUpper_ne_percent _ hlow)
        · exact ih before after (List.cons.inj (List.cons.inj (List.cons.inj h).2).2).2
      · rw [if_neg hm] at h
        obtain ⟨-, -, hres⟩ := of_not_mustEscape (Bool.eq_false_iff.mpr hm)
        rcases before with _ | ⟨x, before⟩
        · have h0 : Char.ofNat b.toNat = '%' := (List.cons.inj h).1
          exact absurd (h0 ▸ by decide) hres
        · exact ih before after (List.cons.inj h).2

/-- **Escaping is safe and loses nothing**: the escaped form of a string reads
    back as the string, all its characters are harmless, and each of its
    percent signs stands before two capital digits. -/
theorem unescape_escape (s : String) :
    unescape (escape s) = .ok s ∧ (∀ c ∈ (escape s).toList, IsPlain c) ∧
      ∀ before after, (escape s).toList = before ++ '%' :: after → StartsWithPair after := by
  refine ⟨unescape_escape_eq s, ?_⟩
  rw [escape, String.toList_ofList]
  refine ⟨?_, startsWithPair_of_escapeBytes _⟩
  · intro c hc
    obtain ⟨b, -, hb⟩ := List.mem_flatMap.mp hc
    exact isPlain_of_mem_escapeByte hb

/-- The percent sign and a letter of two bytes, escaped and read back. -/
theorem unescape_escape_percent_letter :
    unescape (escape "5%ä") = .ok "5%ä" ∧ StartsWithPair "25%C3%A4".toList ∧
      StartsWithPair "C3%A4".toList := by
  have h : (escape "5%ä").toList = "5%25%C3%A4".toList := by decide
  refine ⟨(unescape_escape "5%ä").1, ?_, ?_⟩
  · exact (unescape_escape "5%ä").2.2 "5".toList _ h
  · exact (unescape_escape "5%ä").2.2 "5%25".toList _ h

end HttpExchange.Percent
