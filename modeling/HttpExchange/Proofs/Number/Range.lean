import HttpExchange.Number.Binary64
import Mathlib.Algebra.Order.Ring.Nat
import Mathlib.Tactic.Linarith

/-! # Which integers are doubles

    An integer is rounded to a mantissa of 53 bits.  The largest double is
    `2 ^ 1024 - 2 ^ 971`, and what lies less than half a unit above it is
    rounded down to it: `ofInt?_eq_none_iff` says that the integers from
    `intLimit` on are too large, and no others. -/

namespace HttpExchange.Binary64

variable {num den t m : Nat}

/-- The least number that is too large for a double: half a unit above the
    largest double. -/
def intLimit : Nat := twoTo 1024 - twoTo 970

/-- Rounding a quotient leaves it as it is or takes the next number. -/
theorem divNearestEven_eq_or (num den : Nat) :
    divNearestEven num den = num / den ∨ divNearestEven num den = num / den + 1 := by
  rw [divNearestEven]
  split
  · exact .inl rfl
  · split
    · exact .inr rfl
    · split
      · exact .inl rfl
      · exact .inr rfl

/-- A rounded quotient reaches an even number from half a unit below it on. -/
theorem le_divNearestEven_iff (hden : 0 < den) (heven : t % 2 = 0) (ht : 0 < t) :
    t ≤ divNearestEven num den ↔ (2 * t - 1) * den ≤ 2 * num := by
  obtain ⟨s, rfl⟩ : ∃ s, t = s + 1 := ⟨t - 1, by omega⟩
  have hnum : den * (num / den) + num % den = num := Nat.div_add_mod num den
  have hrem : num % den < den := Nat.mod_lt num hden
  have hhalf : (2 * (s + 1) - 1) * den = 2 * (s * den) + den := by
    rw [show 2 * (s + 1) - 1 = 2 * s + 1 by omega, Nat.add_mul, Nat.one_mul, Nat.mul_assoc]
  have hnear := divNearestEven_eq_or num den
  rw [hhalf, Nat.mul_comm den] at *
  -- only a quotient of `s` can come out on either side
  rcases Nat.lt_trichotomy (num / den) s with hlt | hs | hgt
  · have hmul : (num / den + 1) * den ≤ s * den := Nat.mul_le_mul_right den hlt
    rw [Nat.add_mul, Nat.one_mul] at hmul
    exact iff_of_false (by omega) (by omega)
  · rw [hs] at hnum
    rw [divNearestEven, hs]
    by_cases hlow : 2 * (num % den) < den
    · rw [if_pos hlow]
      exact iff_of_false (by omega) (by omega)
    · rw [if_neg hlow]
      refine iff_of_true ?_ (by omega)
      -- the quotient is odd, so a tie goes up
      have hodd : ¬ s % 2 = 0 := by omega
      rw [if_neg hodd, ite_self]
  · have hmul : (s + 1) * den ≤ num / den * den := Nat.mul_le_mul_right den hgt
    rw [Nat.add_mul, Nat.one_mul] at hmul
    exact iff_of_true (by omega) (by omega)

theorem divNearestEven_le (h : num < t * den) : divNearestEven num den ≤ t := by
  have hq : num / den < t := Nat.div_lt_of_lt_mul (Nat.mul_comm t den ▸ h)
  have hnear := divNearestEven_eq_or num den
  omega

theorem twoTo_add (a b : Nat) : twoTo (a + b) = twoTo a * twoTo b := Nat.pow_add 2 a b

theorem twoTo_add_of_eq {a c : Nat} (b : Nat) (h : twoTo a = c) :
    twoTo (a + b) = c * twoTo b := by
  rw [twoTo_add, h]

/-- The mantissa of an integer has 53 bits, so its unit is told by its size. -/
theorem unitExponent_one (hm : m ≠ 0) : unitExponent m 1 = (m.log2 : Int) - 52 := by
  have hle : twoTo m.log2 ≤ m := Nat.log2_self_le hm
  have hguess : (m.log2 : Int) - Nat.log2 1 - 52 = m.log2 - 52 := by
    rw [show Nat.log2 1 = 0 by decide]
    omega
  have hfits : (if 0 ≤ (m.log2 : Int) - 52 then
      decide (twoTo 52 * (1 * twoTo ((m.log2 : Int) - 52).toNat) ≤ m)
      else decide (twoTo 52 * 1 ≤ m * twoTo (-((m.log2 : Int) - 52)).toNat)) = true := by
    split
    · have hsum : 52 + ((m.log2 : Int) - 52).toNat = m.log2 := by omega
      rw [Nat.one_mul, ← twoTo_add, hsum]
      exact decide_eq_true hle
    · have hsum : m.log2 + (-((m.log2 : Int) - 52)).toNat = 52 := by omega
      have hmul := Nat.mul_le_mul_right (twoTo (-((m.log2 : Int) - 52)).toNat) hle
      rw [← twoTo_add, hsum] at hmul
      rw [Nat.mul_one]
      exact decide_eq_true hmul
  simp only [unitExponent, hguess, hfits, if_true]
  omega

theorem ofInt?_eq_none_iff_exponent (n : Int) :
    ofInt? n = none ↔ 971 < (nearest n.natAbs 1).2 := by
  rw [ofInt?]
  dsimp only
  split
  · next h => exact iff_of_true rfl h
  · next h => exact iff_of_false (fun e => nomatch e) h

theorem nearest_exponent (hm : m ≠ 0) :
    (nearest m 1).2 = if divScaled m 1 ((m.log2 : Int) - 52) = twoTo 53 then (m.log2 : Int) - 51
      else (m.log2 : Int) - 52 := by
  rw [nearest, if_neg hm, unitExponent_one hm]
  dsimp only
  split
  · dsimp only
    omega
  · rfl

/-- The limit counted in half units. -/
theorem intLimit_eq : intLimit = 18014398509481983 * twoTo 970 := by
  have hpower : twoTo 1024 = 18014398509481984 * twoTo 970 :=
    twoTo_add_of_eq 970 (a := 54) (by decide)
  rw [intLimit, hpower]
  omega

theorem lt_intLimit : twoTo 1023 < intLimit := by
  have hpower : twoTo 1023 = 9007199254740992 * twoTo 970 :=
    twoTo_add_of_eq 970 (a := 53) (by decide)
  have hpos : 0 < twoTo 970 := twoTo_pos 970
  rw [intLimit_eq, hpower]
  omega

theorem intLimit_pos : 0 < intLimit := Nat.zero_lt_of_lt lt_intLimit

/-- An integer with the largest unit is rounded up to the next power of two from
    half a unit below it on. -/
theorem divScaled_eq_iff (hlt : m < twoTo 1024) :
    divScaled m 1 971 = twoTo 53 ↔ intLimit ≤ m := by
  have hunit : twoTo 971 = 2 * twoTo 970 := twoTo_add_of_eq 970 (a := 1) rfl
  have hpower : twoTo 1024 = 18014398509481984 * twoTo 970 :=
    twoTo_add_of_eq 970 (a := 54) (by decide)
  have hpos : 0 < twoTo 970 := twoTo_pos 970
  have hscaled : divScaled m 1 971 = divNearestEven m (2 * twoTo 970) := by
    rw [divScaled, if_pos (by decide), Nat.one_mul, ← hunit]
    rfl
  rw [hpower] at hlt
  rw [intLimit_eq, hscaled, show twoTo 53 = 9007199254740992 by decide]
  generalize twoTo 970 = u at *
  have hle : divNearestEven m (2 * u) ≤ 9007199254740992 := divNearestEven_le (by omega)
  have hiff : divNearestEven m (2 * u) = 9007199254740992 ↔
      9007199254740992 ≤ divNearestEven m (2 * u) :=
    ⟨fun h => h.ge, fun h => Nat.le_antisymm hle h⟩
  rw [hiff, le_divNearestEven_iff (by omega) (by decide) (by decide)]
  omega

theorem log2_lt_iff (hm : m ≠ 0) (k : Nat) : m.log2 < k ↔ m < twoTo k := Nat.log2_lt hm

/-- **An integer is too large for a double** from the limit on. -/
theorem ofInt?_eq_none_iff (n : Int) : ofInt? n = none ↔ intLimit ≤ n.natAbs := by
  rw [ofInt?_eq_none_iff_exponent]
  generalize n.natAbs = m
  by_cases hm : m = 0
  · subst hm
    exact iff_of_false (by decide) (Nat.not_le.mpr intLimit_pos)
  · rw [nearest_exponent hm]
    rcases Nat.lt_or_ge m (twoTo 1024) with hlt | hge
    · have hlog : m.log2 < 1024 := (log2_lt_iff hm 1024).mpr hlt
      rcases Nat.lt_or_ge m.log2 1023 with hsmall | hlarge
      · have hm1023 : m < twoTo 1023 := (log2_lt_iff hm 1023).mp hsmall
        refine iff_of_false ?_ (Nat.not_le.mpr (hm1023.trans lt_intLimit))
        split
        · omega
        · omega
      · have hlast : (m.log2 : Int) - 52 = 971 := by omega
        rw [hlast, ← divScaled_eq_iff hlt]
        split
        · next h => exact iff_of_true (by omega) h
        · next h => exact iff_of_false (by omega) h
    · have hlog : ¬ m.log2 < 1024 := fun h => Nat.not_lt.mpr hge ((log2_lt_iff hm 1024).mp h)
      refine iff_of_true ?_ ((Nat.sub_le _ _).trans hge)
      split
      · omega
      · omega

end HttpExchange.Binary64
