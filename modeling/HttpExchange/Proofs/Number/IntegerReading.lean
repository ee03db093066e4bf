import HttpExchange.Number.Integer
import Mathlib.Algebra.Group.Nat.Defs
import Mathlib.Data.List.TakeWhile

/-! # Written integers read back

    The decimal digits of an integer are ASCII, start with a digit or a sign
    and hold neither blanks nor underscores, so reading them takes every step
    of the reader without loss.  What remains is the limit: an integer reads
    back as long as it has no more digits than are read, and whatever is read
    has no more. -/

namespace HttpExchange.Integer

open Text

/-- Does the text consist of ASCII digits? -/
def IsDigits (cs : List Char) : Prop := ∀ c ∈ cs, isDigit c = true

theorem isDigits_toDigits (n : Nat) : IsDigits (Nat.toDigits 10 n) := by
  intro c hc
  have h := Nat.isDigit_of_mem_toDigits (by omega) (by omega) hc
  obtain ⟨hlow, hhigh⟩ := Char.isDigit_iff_toNat.mp h
  have hlow' : 48 ≤ c.toNat := hlow
  have hhigh' : c.toNat ≤ 57 := hhigh
  rw [isDigit, Bool.and_eq_true, decide_eq_true_eq, decide_eq_true_eq]
  exact ⟨hlow', hhigh'⟩

/-- A number starts with a digit. -/
theorem exists_cons_toDigits (n : Nat) :
    ∃ c cs, Nat.toDigits 10 n = c :: cs ∧ isDigit c = true := by
  obtain ⟨c, cs, hcs⟩ := List.exists_cons_of_ne_nil (Nat.toDigits_ne_nil (n := n) (b := 10))
  refine ⟨c, cs, hcs, isDigits_toDigits n c ?_⟩
  rw [hcs]
  exact List.mem_cons_self

/-- An integer starts with a digit or with a minus sign. -/
theorem exists_cons_write (n : Int) :
    ∃ c cs, write n = c :: cs ∧ (c = '-' ∨ isDigit c = true) := by
  rw [write]
  split
  · exact ⟨'-', _, rfl, .inl rfl⟩
  · obtain ⟨c, cs, hcs, hdigit⟩ := exists_cons_toDigits n.natAbs
    exact ⟨c, cs, hcs, .inr hdigit⟩

/-- A number does not start with a zero, unless it is zero. -/
theorem head?_toDigits {n : Nat} (h : 0 < n) : (Nat.toDigits 10 n).head? ≠ some '0' := by
  induction n using Nat.strongRecOn with
  | ind n ih =>
      by_cases hsmall : n < 10
      · rw [Nat.toDigits_of_lt_base hsmall]
        intro hzero
        have hdigit : ∀ m < 10, 0 < m → Nat.digitChar m ≠ '0' := by decide
        exact hdigit n hsmall h (Option.some.inj hzero)
      · have hcut := Nat.toDigits_of_base_le (by decide) (Nat.not_lt.mp hsmall)
        have hhead := ih (n / 10) (Nat.div_lt_self h (by decide)) (by omega)
        obtain ⟨c, cs, hcs, -⟩ := exists_cons_toDigits (n / 10)
        rw [hcut, hcs]
        rw [hcs] at hhead
        exact hhead

theorem toNat_of_isDigit {c : Char} (h : isDigit c = true) : 48 ≤ c.toNat ∧ c.toNat ≤ 57 := by
  rw [isDigit, Bool.and_eq_true, decide_eq_true_eq, decide_eq_true_eq] at h
  exact h

theorem isPadding_of_isDigit {c : Char} (h : isDigit c = true) : isPadding c = false := by
  have hc := toNat_of_isDigit h
  rw [isPadding, Bool.or_eq_false_iff, Bool.and_eq_false_iff, decide_eq_false_iff_not,
    decide_eq_false_iff_not, beq_eq_false_iff_ne]
  omega

theorem isBlank_of_isDigit {c : Char} (h : Integer.isDigit c = true) : isBlank c = false := by
  have hrange := Integer.toNat_of_isDigit h
  simp only [isBlank, Bool.or_eq_false_iff, Bool.and_eq_false_iff, decide_eq_false_iff_not,
    beq_eq_false_iff_ne]
  omega

/-- A text of ASCII characters stands for itself. -/
theorem map_toAscii {cs : List Char} (h : ∀ c ∈ cs, c.toNat < 0x80) : cs.map toAscii = cs := by
  refine (List.map_congr_left ?_).trans (List.map_id cs)
  intro c hc
  exact if_pos (h c hc)

/-- The value of decimal digits is the number that they were written for. -/
theorem digitsValue_toDigits (n : Nat) : digitsValue (Nat.toDigits 10 n) = n :=
  Nat.ofDigitChars_ten_toDigits

/-- A sign is not taken off a text of digits. -/
theorem takeSign_of_isDigits {cs : List Char} (h : IsDigits cs) : takeSign cs = (false, cs) := by
  cases cs with
  | nil => rfl
  | cons c cs =>
      have hc := toNat_of_isDigit (h c List.mem_cons_self)
      rw [takeSign.eq_def]
      split
      · next e => rw [(List.cons.inj e).1] at hc; exact absurd hc (by decide)
      · next e => rw [(List.cons.inj e).1] at hc; exact absurd hc (by decide)
      · rfl

/-- Reading a text of digits within the limit, with or without a minus sign in
    front: nothing is dropped on the way. -/
theorem readAscii_digits {cs text : List Char} (negative : Bool) (hcs : IsDigits cs)
    (hne : cs ≠ []) (hlen : cs.length ≤ digitLimit)
    (hsign : takeSign (text.dropWhile isPadding) = (negative, cs)) :
    readAscii text = .ok (if negative then -(digitsValue cs : Int) else digitsValue cs) := by
  have hrun : ∀ c ∈ cs, (isDigit c || c == '_') = true := by
    intro c hc
    rw [hcs c hc]
    rfl
  have hunder : '_' ∉ cs := fun h => absurd (hcs '_' h) (by decide)
  have hpieces : (pieces '_' cs).any List.isEmpty = false := by
    rw [pieces, segments_of_not_mem hunder]
    cases cs with
    | nil => exact absurd rfl hne
    | cons c cs => rfl
  -- the run of digits and underscores is the whole text, and all of it counts
  rw [readAscii, hsign]
  dsimp only
  rw [List.takeWhile_eq_self_iff.mpr hrun, List.dropWhile_eq_nil_iff.mpr hrun,
    List.filter_eq_self.mpr hcs, if_neg (by rw [hpieces]; exact Bool.false_ne_true),
    if_neg (by omega)]
  rfl

/-- Digits within the limit are read as their value. -/
theorem read_digits {cs : List Char} (hcs : IsDigits cs) (hne : cs ≠ [])
    (hlen : cs.length ≤ digitLimit) : read cs = .ok (digitsValue cs) := by
  have hascii : ∀ c ∈ cs, c.toNat < 0x80 := by
    intro c hc
    have := toNat_of_isDigit (hcs c hc)
    omega
  have hdrop : cs.dropWhile isPadding = cs := by
    cases cs with
    | nil => rfl
    | cons c cs =>
        have hc : isPadding c = false := isPadding_of_isDigit (hcs c List.mem_cons_self)
        exact List.dropWhile_cons_of_neg (Bool.eq_false_iff.mp hc)
  rw [read, map_toAscii hascii, readAscii_digits false hcs hne hlen
    (by rw [hdrop]; exact takeSign_of_isDigits hcs), if_neg Bool.false_ne_true]

/-- **A written integer reads back**, as long as it has no more digits than are
    read. -/
theorem read_write {n : Int} (h : n.natAbs < 10 ^ digitLimit) : read (write n) = .ok n := by
  have hdigits := isDigits_toDigits n.natAbs
  have hne : Nat.toDigits 10 n.natAbs ≠ [] := Nat.toDigits_ne_nil
  have hlen : (Nat.toDigits 10 n.natAbs).length ≤ digitLimit :=
    (Nat.length_toDigits_le_iff (by omega) (by decide)).mpr h
  have hascii : ∀ c ∈ Nat.toDigits 10 n.natAbs, c.toNat < 0x80 := by
    intro c hc
    have := toNat_of_isDigit (hdigits c hc)
    omega
  rw [write]
  by_cases hn : n < 0
  · rw [if_pos hn, read, List.map_cons, map_toAscii hascii]
    rw [readAscii_digits true hdigits hne hlen rfl, digitsValue_toDigits, if_pos rfl]
    exact congrArg Except.ok (by omega)
  · rw [if_neg hn]
    refine (read_digits hdigits hne hlen).trans ?_
    rw [digitsValue_toDigits]
    exact congrArg Except.ok (by omega)

/-! ## Fixed width -/

theorem isDigits_padded (width n : Nat) : IsDigits (padded width n) := by
  intro c hc
  rcases List.mem_append.mp hc with hc | hc
  · rw [List.eq_of_mem_replicate hc]
    rfl
  · exact isDigits_toDigits n c hc

theorem padded_ne_nil (width n : Nat) : padded width n ≠ [] :=
  List.append_ne_nil_of_right_ne_nil _ Nat.toDigits_ne_nil

theorem length_padded_le {width n : Nat} (hwidth : 0 < width) (h : n < 10 ^ width) :
    (padded width n).length ≤ width := by
  have hlen := (Nat.length_toDigits_le_iff (b := 10) (by decide) hwidth).mpr h
  rw [padded, List.length_append, List.length_replicate]
  omega

/-- Zeros in front do not change the value. -/
theorem digitsValue_padded (width n : Nat) : digitsValue (padded width n) = n := by
  show Nat.ofDigitChars 10 (List.replicate _ '0' ++ Nat.toDigits 10 n) 0 = n
  rw [Nat.ofDigitChars_append, Nat.ofDigitChars_replicate_zero, Nat.mul_zero,
    Nat.ofDigitChars_ten_toDigits]

theorem padded_inj {width m n : Nat} (h : padded width m = padded width n) : m = n := by
  rw [← digitsValue_padded width m, h, digitsValue_padded]

/-- **A number of fixed width reads back.** -/
theorem read_padded {width n : Nat} (hwidth : 0 < width) (hlimit : width ≤ digitLimit)
    (h : n < 10 ^ width) : read (padded width n) = .ok n := by
  rw [read_digits (isDigits_padded width n) (padded_ne_nil width n)
    ((length_padded_le hwidth h).trans hlimit), digitsValue_padded]

/-! ## The limit -/

/-- Digits denote a number with no more digits. -/
theorem digitsValue_lt {cs : List Char} (h : IsDigits cs) : digitsValue cs < 10 ^ cs.length := by
  induction cs with
  | nil => decide
  | cons c cs ih =>
      have hc := toNat_of_isDigit (h c List.mem_cons_self)
      have hlt := ih fun d hd => h d (List.mem_cons_of_mem c hd)
      have hvalue : digitsValue (c :: cs) = 10 ^ cs.length * (c.toNat - 48) + digitsValue cs := by
        show Nat.ofDigitChars 10 cs (10 * 0 + (c.toNat - '0'.toNat)) = _
        rw [Nat.ofDigitChars_eq_ofDigitChars_zero, Nat.mul_zero, Nat.zero_add]
        rfl
      have hdigit : 10 ^ cs.length * (c.toNat - 48) ≤ 10 ^ cs.length * 9 :=
        Nat.mul_le_mul_left _ (by omega)
      rw [hvalue, List.length_cons, Nat.pow_succ]
      omega

/-- **What is read has no more digits than are read.** -/
theorem natAbs_lt_of_read {cs : List Char} {n : Int} (h : read cs = .ok n) :
    n.natAbs < 10 ^ digitLimit := by
  rw [read, readAscii] at h
  dsimp only at h
  split at h
  · exact nomatch h
  · split at h
    · exact nomatch h
    · next hlimit =>
      split at h
      · have hlt : ∀ run : List Char, ¬ digitLimit < (run.filter isDigit).length →
            digitsValue (run.filter isDigit) < 10 ^ digitLimit := by
          intro run hrun
          have hdigits : IsDigits (run.filter isDigit) := fun c hc => (List.mem_filter.mp hc).2
          exact (digitsValue_lt hdigits).trans_le
            (Nat.pow_le_pow_right (by decide) (Nat.not_lt.mp hrun))
        have hvalue := hlt _ hlimit
        rw [← Except.ok.inj h]
        split
        · rw [Int.natAbs_neg, Int.natAbs_natCast]
          exact hvalue
        · rw [Int.natAbs_natCast]
          exact hvalue
      · exact nomatch h

end HttpExchange.Integer
