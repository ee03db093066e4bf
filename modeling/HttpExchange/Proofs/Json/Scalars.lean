import HttpExchange.Json.Reader
import HttpExchange.Json.Writer
import HttpExchange.Proofs.Number.IntegerReading

/-! # Texts and numbers of documents

    A text that is written character by character reads back up to its closing
    quote, whatever follows.  A number has no end of its own: it reads back
    because nothing that may follow a value in a document could continue it.

    * `readText_written` is the round trip of texts;
    * `readNumber_written` is that of integers. -/

namespace HttpExchange.Json

open Text

/-! ## Texts -/

/-- The four digits of a control character read back as the character. -/
theorem hex4?_hexDigits {n : Nat} (h : n < 0x20) :
    ∃ a b c d, hexDigits 4 n = [a, b, c, d] ∧ hex4? a b c d = some n := by
  refine ⟨hexDigitLower (n / 16 / 16 / 16 % 16), hexDigitLower (n / 16 / 16 % 16),
    hexDigitLower (n / 16 % 16), hexDigitLower (n % 16), rfl, ?_⟩
  rw [hex4?, hexValue?_hexDigitLower _ (Nat.mod_lt _ (by decide)),
    hexValue?_hexDigitLower _ (Nat.mod_lt _ (by decide)),
    hexValue?_hexDigitLower _ (Nat.mod_lt _ (by decide)),
    hexValue?_hexDigitLower _ (Nat.mod_lt _ (by decide))]
  simp only [bind, Option.bind, pure]
  congr 1
  omega

/-- A control character reads back from its number. -/
theorem readText_control {c : Char} (hcontrol : c.toNat < 0x20) (rest : List Char) :
    readText ('\\' :: 'u' :: hexDigits 4 c.toNat ++ rest) = consRead c (readText rest) := by
  obtain ⟨x, y, z, w, hdigits, hvalue⟩ := hex4?_hexDigits hcontrol
  have hbelow : c.toNat < 0xD800 ∨ 0xDFFF < c.toNat := by omega
  rw [hdigits]
  simp only [List.cons_append, List.nil_append]
  rw [readText, hvalue]
  simp only [if_pos hbelow, Char.ofNat_toNat]

/-- Any character but a quote, a backslash and those stands for itself. -/
theorem readText_cons {c : Char} (hquote : c ≠ '"') (hbackslash : c ≠ '\\')
    (hcontrol : ¬ c.toNat < 0x20) (rest : List Char) :
    readText (c :: rest) = consRead c (readText rest) := by
  rw [readText]
  · exact if_neg hcontrol
  · exact hquote
  · intro a b x y tail h
    exact absurd h hbackslash
  · intro a tail h
    exact absurd h hbackslash

/-- **A written character reads back**, whatever follows. -/
theorem readText_writeChar (c : Char) (rest : List Char) :
    readText (writeChar c ++ rest) = consRead c (readText rest) := by
  unfold writeChar
  split
  · rfl
  · rfl
  · rfl
  · rfl
  · rfl
  · rfl
  · rfl
  · next hquote hbackslash _ _ _ _ _ =>
    split
    · next hcontrol => exact readText_control hcontrol rest
    · next hcontrol => exact readText_cons hquote hbackslash hcontrol rest

/-- **A written text reads back** up to its closing quote. -/
theorem readText_written (cs rest : List Char) :
    readText (cs.flatMap writeChar ++ '"' :: rest) = some (cs, rest) := by
  induction cs with
  | nil => rfl
  | cons c cs ih =>
      rw [List.flatMap_cons, List.append_assoc, readText_writeChar, ih]
      rfl

/-! ## Numbers -/

/-- May the text follow a value in a document?  It is empty, or it starts with
    a comma or a closing bracket. -/
def Follows (rest : List Char) : Prop :=
  ∀ c, rest.head? = some c → c = ',' ∨ c = ']' ∨ c = '\x7d'

theorem Follows.cons {c : Char} (h : c = ',' ∨ c = ']' ∨ c = '\x7d') (rest : List Char) :
    Follows (c :: rest) := by
  intro d hd
  rw [← Option.some.inj hd]
  exact h

variable {digits rest : List Char}

/-- Nothing of what follows is a digit. -/
theorem takeDigits_append (hdigits : Integer.IsDigits digits) (hrest : Follows rest) :
    takeDigits (digits ++ rest) = (digits, rest) := by
  have hall : ∀ c ∈ digits, Integer.isDigit c = true := hdigits
  rw [takeDigits, List.takeWhile_append_of_pos hall, List.dropWhile_append_of_pos hall]
  cases rest with
  | nil => simp
  | cons c tail =>
      have hc : Integer.isDigit c = false := by
        rcases hrest c rfl with rfl | rfl | rfl <;> rfl
      rw [List.takeWhile_cons_of_neg (by rw [hc]; exact Bool.false_ne_true),
        List.dropWhile_cons_of_neg (by rw [hc]; exact Bool.false_ne_true), List.append_nil]

theorem readFraction_of_follows (h : Follows rest) : readFraction rest = some (none, rest) := by
  cases rest with
  | nil => rfl
  | cons c tail => rcases h c rfl with rfl | rfl | rfl <;> rfl

theorem readExponent_of_follows (h : Follows rest) : readExponent rest = some (none, rest) := by
  cases rest with
  | nil => rfl
  | cons c tail => rcases h c rfl with rfl | rfl | rfl <;> rfl

/-- The digits of a number are not refused. -/
theorem digits_admitted (n : Nat) :
    ¬ ((Nat.toDigits 10 n).isEmpty = true ∨
      ((Nat.toDigits 10 n).head? = some '0' ∧ (Nat.toDigits 10 n).length ≠ 1)) := by
  rintro (hempty | ⟨hzero, hlength⟩)
  · exact Nat.toDigits_ne_nil (List.isEmpty_iff.mp hempty)
  · rcases Nat.eq_zero_or_pos n with rfl | hpos
    · exact hlength rfl
    · exact Integer.head?_toDigits hpos hzero

/-- **A written integer reads back** as long as it has 64 bits, in front of
    anything that may follow it. -/
theorem readNumber_written {n : Int} (dialect : Dialect)
    (hrange : -9223372036854775808 ≤ n ∧ n ≤ 18446744073709551615) (hrest : Follows rest) :
    readNumber dialect (Integer.write n ++ rest) = some (.int n, rest) := by
  have htake := takeDigits_append (Integer.isDigits_toDigits n.natAbs) hrest
  have hvalue := Integer.digitsValue_toDigits n.natAbs
  have hadmitted := digits_admitted n.natAbs
  rw [Integer.write]
  by_cases hneg : n < 0
  · have hn : -(n.natAbs : Int) = n := by omega
    rw [if_pos hneg, List.cons_append, readNumber]
    simp only [htake, hadmitted, if_false, readFraction_of_follows hrest,
      readExponent_of_follows hrest, integerValue?, hvalue, if_true, hn, hrange, and_self, or_true,
      Option.map_some]
  · have hn : (n.natAbs : Int) = n := by omega
    rw [if_neg hneg, readNumber]
    · simp only [htake, hadmitted, if_false, readFraction_of_follows hrest,
        readExponent_of_follows hrest, integerValue?, hvalue, hn, hrange, and_self, or_true,
        if_true, Option.map_some, Bool.false_eq_true]
    · intro tail hminus
      obtain ⟨c, cs, hcs, hdigit⟩ := Integer.exists_cons_toDigits n.natAbs
      rw [hcs] at hminus
      rw [(List.cons.inj hminus).1] at hdigit
      exact absurd hdigit (by decide)

end HttpExchange.Json
