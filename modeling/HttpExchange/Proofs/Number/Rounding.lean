import HttpExchange.Proofs.Number.Range

/-! # Quotients that a double keeps

    A quotient below `2 ^ 53` is counted in units of at most one, so its
    integer part survives the rounding of the fraction behind it: it stays or
    becomes the next number, and a quotient without a fraction stays what it
    is. -/

namespace HttpExchange.Binary64

variable {num den q : Nat}

/-- A quotient without a remainder is not rounded. -/
theorem divNearestEven_mul (q : Nat) (hden : 0 < den) : divNearestEven (q * den) den = q := by
  rw [divNearestEven, Nat.mul_mod_left, Nat.mul_div_cancel q hden]
  exact if_pos (by omega)

/-- What is less than `2 ^ 53` is counted in units of at most one. -/
theorem unitExponent_nonpos (h : num < twoTo 53 * den) :
    unitExponent num den ≤ 0 := by
  have hlog : num.log2 < 54 + den.log2 := by
    by_cases hnum : num = 0
    · rw [hnum]
      exact Nat.lt_of_lt_of_le (by decide) (Nat.le_add_right 54 _)
    · have hlt : den < twoTo (den.log2 + 1) := Nat.lt_log2_self
      have hmul := Nat.mul_le_mul_left (twoTo 53) hlt.le
      rw [← twoTo_add] at hmul
      rw [log2_lt_iff hnum, show 54 + den.log2 = 53 + (den.log2 + 1) by omega]
      exact h.trans_le hmul
  -- the first guess may be one, but then the number has too few digits for it
  have hfits : ∀ guess : Int, guess = 1 → (if 0 ≤ guess then
      decide (twoTo 52 * (den * twoTo guess.toNat) ≤ num)
      else decide (twoTo 52 * den ≤ num * twoTo (-guess).toNat)) = false := by
    rintro _ rfl
    have hpower : twoTo 53 = twoTo 52 * twoTo 1 := twoTo_add 52 1
    have hmul : twoTo 52 * (den * twoTo 1) = twoTo 53 * den := by
      rw [hpower, Nat.mul_assoc, Nat.mul_comm den]
    rw [if_pos (by decide), show (1 : Int).toNat = 1 from rfl, hmul]
    exact decide_eq_false (Nat.not_le.mpr h)
  simp only [unitExponent]
  by_cases hguess : (num.log2 : Int) - den.log2 - 52 = 1
  · rw [hfits _ hguess, hguess]
    decide
  · split <;> omega

/-- In units of at most one, the integer part of the nearest double is the
    rounded quotient without the digits behind the point. -/
theorem integerPart_nearest (hnum : num ≠ 0) (hexp : unitExponent num den ≤ 0) :
    integerPart (nearest num den).1 (nearest num den).2
      = divNearestEven (num * twoTo (-unitExponent num den).toNat) den
          / twoTo (-unitExponent num den).toNat := by
  rw [nearest, if_neg hnum]
  generalize unitExponent num den = e at hexp ⊢
  have hscaled : divScaled num den e = divNearestEven (num * twoTo (-e).toNat) den := by
    rw [divScaled]
    by_cases he : 0 ≤ e
    · obtain rfl : e = 0 := by omega
      rw [if_pos he]
      show divNearestEven num (den * 1) = divNearestEven (num * 1) den
      rw [Nat.mul_one, Nat.mul_one]
    · exact if_neg he
  dsimp only
  rw [hscaled]
  generalize divNearestEven (num * twoTo (-e).toNat) den = mantissa
  by_cases hcarry : mantissa = twoTo 53
  · -- a mantissa of 54 bits is halved, and the unit doubled
    rw [if_pos hcarry, hcarry, integerPart]
    dsimp only
    by_cases he : 0 ≤ e
    · obtain rfl : e = 0 := by omega
      decide
    · by_cases hone : e = -1
      · subst hone
        decide
      · have hexp : (-e).toNat = 1 + (-(e + 1)).toNat := by omega
        rw [if_neg (by omega), hexp, twoTo_add, ← Nat.div_div_eq_div_mul]
        rfl
  · rw [if_neg hcarry, integerPart]
    dsimp only
    by_cases he : 0 ≤ e
    · obtain rfl : e = 0 := by omega
      rw [if_pos he]
      show mantissa * 1 = mantissa / 1
      rw [Nat.mul_one, Nat.div_one]
    · exact if_neg he

theorem integerPart_zero (exponent : Int) : integerPart 0 exponent = 0 := by
  rw [integerPart]
  split
  · exact Nat.zero_mul _
  · exact Nat.zero_div _

/-- **A whole number below `2 ^ 53` is kept.** -/
theorem roundedQuotient_mul (hden : 0 < den) (hq : q < twoTo 53) :
    roundedQuotient ((q * den : Nat) : Int) den = q := by
  have hpart : integerPart (nearest (q * den) den).1 (nearest (q * den) den).2 = q := by
    by_cases hnum : q * den = 0
    · obtain rfl : q = 0 := (Nat.mul_eq_zero.mp hnum).resolve_right hden.ne'
      rw [hnum, nearest, if_pos rfl, integerPart_zero]
    · have hexp := unitExponent_nonpos ((Nat.mul_lt_mul_right hden).mpr hq)
      rw [integerPart_nearest hnum hexp, Nat.mul_right_comm, divNearestEven_mul _ hden,
        Nat.mul_div_cancel _ (twoTo_pos _)]
  rw [roundedQuotient, Int.natAbs_natCast]
  dsimp only
  rw [hpart, if_neg (Int.not_lt.mpr (Int.natCast_nonneg _))]

/-- **Rounding adds one at most** to a number below `2 ^ 53`. -/
theorem roundedQuotient_le {num : Int} (h : num.natAbs < twoTo 53 * den) :
    roundedQuotient num den ≤ (num.natAbs / den : Nat) + 1 := by
  have hpart : integerPart (nearest num.natAbs den).1 (nearest num.natAbs den).2
      ≤ num.natAbs / den + 1 := by
    by_cases hnum : num.natAbs = 0
    · rw [hnum, nearest, if_pos rfl, integerPart_zero]
      exact Nat.zero_le _
    · rw [integerPart_nearest hnum (unitExponent_nonpos h)]
      generalize (-unitExponent num.natAbs den).toNat = k
      -- rounding adds one in the last digit, which is one more before the point at most
      have hlt : num.natAbs * twoTo k / den < (num.natAbs / den + 1) * twoTo k := by
        have hden : 0 < den := Nat.pos_of_mul_pos_left (Nat.zero_lt_of_lt h)
        rw [Nat.div_lt_iff_lt_mul hden, Nat.mul_right_comm]
        exact (Nat.mul_lt_mul_right (twoTo_pos k)).mpr
          (Nat.lt_mul_of_div_lt (Nat.lt_succ_self _) hden)
      have hnear := divNearestEven_eq_or (num.natAbs * twoTo k) den
      refine Nat.div_le_of_le_mul ?_
      rw [Nat.mul_comm (twoTo k)]
      omega
  rw [roundedQuotient]
  dsimp only
  split <;> omega

end HttpExchange.Binary64
