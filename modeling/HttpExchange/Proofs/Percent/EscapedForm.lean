import HttpExchange.Proofs.Percent.Scanning

/-! # Which texts are escaped forms

    Escaping writes a byte that needs it as a percent sign with two capital
    digits and any other byte as its character, so there is one way to write
    each byte.  A text that is written like this is the escaped form of the
    text with its bytes, if there is one, and of no other.  So reading and
    escaping again gives the same text for escaped forms, and for nothing
    else. -/

namespace HttpExchange.Percent

open Text

/-! ## The form of one byte -/

/-- Does the character stand for itself in an escaped form? -/
def PassesThrough (c : Char) : Prop := 0x21 ≤ c.toNat ∧ c.toNat ≤ 0x7E ∧ c ∉ reserved

/-- Does a byte with the value need to be escaped? -/
def NeedsEscape (n : Nat) : Prop := n < 0x21 ∨ 0x7F ≤ n ∨ Char.ofNat n ∈ reserved

theorem mustEscape_iff (b : UInt8) : mustEscape b = true ↔ NeedsEscape b.toNat := by
  rw [mustEscape, Bool.or_eq_true, Bool.or_eq_true, decide_eq_true_iff, decide_eq_true_iff,
    List.contains_iff_mem, or_assoc, NeedsEscape]

/-- A character that stands for itself is what is written for its byte. -/
theorem escapeByte_of_passesThrough {c : Char} (h : PassesThrough c) :
    escapeByte (UInt8.ofNat c.toNat) = [c] := by
  obtain ⟨hlow, hhigh, hreserved⟩ := h
  have hbyte : (UInt8.ofNat c.toNat).toNat = c.toNat := Utf8.toNat_byte (by omega)
  have hplain : ¬ mustEscape (UInt8.ofNat c.toNat) = true := by
    rw [mustEscape_iff, hbyte, NeedsEscape, Char.ofNat_toNat]
    rintro (h | h | h)
    · omega
    · omega
    · exact hreserved h
  rw [escapeByte, if_neg hplain, hbyte, Char.ofNat_toNat]

theorem digitValue_lt {c : Char} (h : IsCapitalDigit c) : digitValue c < 16 := by
  have hall : "0123456789ABCDEF".toList.all (digitValue · < 16) = true := by decide
  exact of_decide_eq_true (List.all_eq_true.mp hall c h)

theorem hexDigitUpper_digitValue {c : Char} (h : IsCapitalDigit c) :
    hexDigitUpper (digitValue c) = c := by
  have hall : "0123456789ABCDEF".toList.all (fun d => hexDigitUpper (digitValue d) = d) = true := by
    decide
  exact of_decide_eq_true (List.all_eq_true.mp hall c h)

theorem digitValue_hexDigitUpper : ∀ n < 16, digitValue (hexDigitUpper n) = n := by decide

/-- A percent sign with two capital digits is what is written for their byte,
    if that needs to be escaped. -/
theorem escapeByte_of_pair {high low : Char} (hhigh : IsCapitalDigit high)
    (hlow : IsCapitalDigit low) (hbyte : NeedsEscape (16 * digitValue high + digitValue low)) :
    escapeByte (UInt8.ofNat (16 * digitValue high + digitValue low)) = ['%', high, low] := by
  have hh := digitValue_lt hhigh
  have hl := digitValue_lt hlow
  have hvalue := Utf8.toNat_byte (n := 16 * digitValue high + digitValue low) (by omega)
  have hmust : mustEscape (UInt8.ofNat (16 * digitValue high + digitValue low)) = true := by
    rw [mustEscape_iff, hvalue]
    exact hbyte
  rw [escapeByte, if_pos hmust, hvalue,
    show (16 * digitValue high + digitValue low) / 16 = digitValue high by omega,
    show (16 * digitValue high + digitValue low) % 16 = digitValue low by omega,
    hexDigitUpper_digitValue hhigh, hexDigitUpper_digitValue hlow]

/-! ## The form of all bytes -/

/-- The text is written for the bytes in the one way that escaping has. -/
inductive Escaped : List Char → List UInt8 → Prop
  | nil : Escaped [] []
  /-- A character that stands for itself. -/
  | plain {c : Char} {rest : List Char} {bytes : List UInt8} (hc : PassesThrough c)
      (hrest : Escaped rest bytes) : Escaped (c :: rest) (UInt8.ofNat c.toNat :: bytes)
  /-- A percent sign with two capital digits, for a byte that needs it. -/
  | pair {high low : Char} {rest : List Char} {bytes : List UInt8}
      (hhigh : IsCapitalDigit high) (hlow : IsCapitalDigit low)
      (hbyte : NeedsEscape (16 * digitValue high + digitValue low))
      (hrest : Escaped rest bytes) :
      Escaped ('%' :: high :: low :: rest)
        (UInt8.ofNat (16 * digitValue high + digitValue low) :: bytes)

/-- What is written for a byte is its escaped form. -/
theorem escaped_cons {rest : List Char} {bytes : List UInt8} (b : UInt8)
    (hrest : Escaped rest bytes) : Escaped (escapeByte b ++ rest) (b :: bytes) := by
  have hb : b.toNat < 256 := UInt8.toNat_lt b
  rw [escapeByte]
  by_cases h : mustEscape b = true
  · rw [if_pos h]
    have hvalue : 16 * digitValue (hexDigitUpper (b.toNat / 16))
        + digitValue (hexDigitUpper (b.toNat % 16)) = b.toNat := by
      rw [digitValue_hexDigitUpper _ (by omega), digitValue_hexDigitUpper _ (by omega)]
      omega
    have hpair := Escaped.pair (isCapitalDigit_hexDigitUpper (b.toNat / 16) (by omega))
      (isCapitalDigit_hexDigitUpper (b.toNat % 16) (by omega))
      (by rw [hvalue]; exact (mustEscape_iff b).mp h) hrest
    rw [hvalue, UInt8.ofNat_toNat] at hpair
    exact hpair
  · rw [if_neg h]
    obtain ⟨hlow, hhigh, hreserved⟩ := of_not_mustEscape (Bool.eq_false_iff.mpr h)
    have hchar := Utf8.toNat_ofNat (n := b.toNat) (.inl (by omega))
    have hplain := Escaped.plain (c := Char.ofNat b.toNat)
      ⟨by rw [hchar]; exact hlow, by rw [hchar]; exact hhigh, hreserved⟩ hrest
    rw [hchar, UInt8.ofNat_toNat] at hplain
    exact hplain

/-- **There is one way to write bytes.** -/
theorem escaped_iff {cs : List Char} {bytes : List UInt8} :
    Escaped cs bytes ↔ cs = bytes.flatMap escapeByte := by
  constructor
  · intro h
    induction h with
    | nil => rfl
    | plain hc _ ih => rw [List.flatMap_cons, escapeByte_of_passesThrough hc, ← ih]; rfl
    | pair hhigh hlow hbyte _ ih =>
        rw [List.flatMap_cons, escapeByte_of_pair hhigh hlow hbyte, ← ih]
        rfl
  · rintro rfl
    induction bytes with
    | nil => exact .nil
    | cons b bytes ih =>
        rw [List.flatMap_cons]
        exact escaped_cons b ih

/-- The escaped form of a string is written for its bytes. -/
theorem escaped_escape (s : String) : Escaped (escape s).toList (Utf8.encode s.toList) := by
  rw [escape, String.toList_ofList]
  exact escaped_iff.mpr rfl

/-- What is written for the bytes of a text is its escaped form. -/
theorem escape_of_escaped {t : String} {cs : List Char}
    (h : Escaped t.toList (Utf8.encode cs)) : escape (String.ofList cs) = t := by
  have ht : t.toList = escapeChars cs := escaped_iff.mp h
  rw [escape, String.toList_ofList, ← ht, String.ofList_toList]

/-- **The escaped forms** are the texts that are written for the bytes of some
    text.  They are read, and escaping what was read gives them back; no other
    text comes back like this. -/
theorem escape_image (t : String) :
    ((∃ s, escape s = t) ↔ ∃ bytes, Escaped t.toList bytes ∧ Utf8.Valid bytes) ∧
      ((∃ s, unescape t = .ok s ∧ escape s = t) ↔
        ∃ bytes, Escaped t.toList bytes ∧ Utf8.Valid bytes) := by
  have himage : (∃ s, escape s = t) ↔ ∃ bytes, Escaped t.toList bytes ∧ Utf8.Valid bytes := by
    constructor
    · rintro ⟨s, rfl⟩
      exact ⟨_, escaped_escape s, s.toList, rfl⟩
    · rintro ⟨bytes, hescaped, cs, rfl⟩
      exact ⟨String.ofList cs, escape_of_escaped hescaped⟩
  refine ⟨himage, ?_⟩
  rw [← himage]
  constructor
  · rintro ⟨s, -, hs⟩
    exact ⟨s, hs⟩
  · rintro ⟨s, rfl⟩
    exact ⟨s, unescape_escape_eq s, rfl⟩

/-- Small digits and escapes of plain characters are read, but escaping writes
    them in another way. -/
example : unescape "%c3%a4%41" = .ok "äA" ∧ (escape "äA").toList = "%C3%A4A".toList :=
  ⟨by cbv, by decide⟩

end HttpExchange.Percent
