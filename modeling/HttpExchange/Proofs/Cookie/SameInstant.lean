import HttpExchange.Proofs.Cookie.ExpiryDates

/-! # Moments that show the same instant

    The same instant has many readings: without an offset, or with any offset
    and the wall clock to match.  Cookies see of a moment nothing but the
    instant, and of that not all: to a header that is written it is the second
    at which an age of zero runs out, to a header that is read it is the moment
    in UTC.  All moments outside the years 1 to 9999 look alike to both.

    * `dates_of_outside` is what dates come to outside these years;
    * `headers_agree_iff` says when two moments give all cookies the same
      headers;
    * `parse_congr` says that reading sees no more of a clock than the seconds
      from it to the dates;
    * `same_instant_agrees` is what follows for two readings of one instant. -/

namespace HttpExchange.Cookie

open Text

variable {n₁ n₂ : Moment}

/-! ## The moment in UTC -/

theorem utc?_eq_of_instant (h : n₁.instant = n₂.instant) : n₁.utc? = n₂.utc? := by
  rw [Moment.utc?, Moment.utc?, h]

theorem utc?_eq_none_iff : n₁.utc? = none ↔ n₁.instant < 0 ∨ Moment.span ≤ n₁.instant := by
  rw [Moment.utc?, ite_eq_right_iff]
  simp only [reduceCtorEq, imp_false, HttpDate.inSpan_iff, not_and_or, Int.not_le, Int.not_lt]

/-- **Outside the years 1 to 9999** every date that is written is the last one,
    and no date that is read is any number of seconds off. -/
theorem dates_of_outside (h : n₁.instant < 0 ∨ Moment.span ≤ n₁.instant) :
    (∀ age, HttpDate.expiry n₁ age = "Fri, 31 Dec 9999 23:59:59 GMT".toList) ∧
      ∀ text date, MailDate.read text = .ok date →
        secondsUntil (.ok n₁) text = .error .overflow := by
  have hnone := utc?_eq_none_iff.mpr h
  constructor
  · intro age
    rw [HttpDate.expiry, HttpDate.expirySecond, hnone, HttpDate.ofSeconds_latest]
  · intro text date hread
    simp only [secondsUntil, hread, hnone, Except.mapError, bind, Except.bind]

/-! ## Writing headers -/

theorem ageParts_congr (h : HttpDate.expirySecond n₁ 0 = HttpDate.expirySecond n₂ 0)
    (c : Cookie) : c.ageParts (some n₁) = c.ageParts (some n₂) := by
  by_cases hage : c.maxAge < 0
  · rw [ageParts, ageParts, if_pos hage, if_pos hage]
  · have hend : HttpDate.expirySecond n₁ c.maxAge = HttpDate.expirySecond n₂ c.maxAge := by
      have h₁ := HttpDate.expirySecond_eq_min n₁ (Int.not_lt.mp hage)
      have h₂ := HttpDate.expirySecond_eq_min n₂ (Int.not_lt.mp hage)
      rw [h] at h₁
      exact Int.ofNat.inj (h₁.trans h₂.symm)
    simp only [ageParts, HttpDate.expiry, hend]

/-- The header of a cookie that ends at once ends with the date of the moment. -/
theorem header_of_age_zero (now : Moment) :
    ({ ofText ['a'] [] with maxAge := 0 } : Cookie).header (some now)
      = "a=; Max-Age=0; Expires=".toList ++ HttpDate.expiry now 0 := by
  have hpair : ({ ofText ['a'] [] with maxAge := 0 } : Cookie).pair = ['a', '='] := by decide
  have hage : ageParts { ofText ['a'] [] with maxAge := 0 } (some now)
      = ["Max-Age=0".toList, valued "Expires" (HttpDate.expiry now 0)] := by
    have hzero : Integer.write 0 = ['0'] := by decide
    rw [ageParts, if_neg (by decide)]
    simp only [hzero]
    rfl
  have hparts : ({ ofText ['a'] [] with maxAge := 0 } : Cookie).parts (some now)
      = [['a', '='], "Max-Age=0".toList, valued "Expires" (HttpDate.expiry now 0)] := by
    rw [parts, hage, hpair]
    rfl
  rw [header, hparts]
  simp [List.intercalate, valued]

/-- **Two moments give all cookies the same headers** if and only if an age of
    zero runs out in the same second. -/
theorem headers_agree_iff :
    (∀ c : Cookie, c.headerString (some n₁) = c.headerString (some n₂)) ↔
      HttpDate.expirySecond n₁ 0 = HttpDate.expirySecond n₂ 0 := by
  constructor
  · intro h
    have hheader := String.ofList_injective (h { ofText ['a'] [] with maxAge := 0 })
    rw [header_of_age_zero, header_of_age_zero] at hheader
    have hdate : HttpDate.expiry n₁ 0 = HttpDate.expiry n₂ 0 := List.append_cancel_left hheader
    have h₁ := HttpDate.denotes_ofSeconds (HttpDate.expirySecond_le n₁ 0)
    have h₂ := HttpDate.denotes_ofSeconds (HttpDate.expirySecond_le n₂ 0)
    rw [← HttpDate.expiry, ← hdate] at h₂
    exact MailDate.denotes_unique h₁ h₂
  · intro h c
    rw [headerString, headerString, header, header, parts, parts, ageParts_congr h c]

/-! ## Reading headers -/

variable {now now' : Reading}

/-- Reading an attribute asks a clock for the seconds to a date only. -/
theorem Attribute.read_congr (h : ∀ text, secondsUntil now text = secondsUntil now' text)
    (key value : List Char) : Attribute.read now key value = Attribute.read now' key value := by
  simp only [Attribute.read, h]

theorem Draft.applyAll_congr (h : ∀ text, secondsUntil now text = secondsUntil now' text)
    (d : Draft) (attributes : List (List Char × List Char)) :
    d.applyAll now attributes = d.applyAll now' attributes := by
  induction attributes generalizing d with
  | nil => rfl
  | cons pair rest ih =>
      obtain ⟨key, value⟩ := pair
      rw [Draft.applyAll, Draft.applyAll, Attribute.read_congr h]
      cases hread : Attribute.read now' key value with
      | ok a => exact ih (d.apply a)
      | error problem =>
          dsimp only
          rw [ih d]

/-- **Clocks from which all dates are equally far off** read every header as
    the same cookie, with the same records, or with the same failure. -/
theorem parse_congr (h : ∀ text, secondsUntil now text = secondsUntil now' text)
    (header : String) : parse header now = parse header now' := by
  simp only [parse, withAttributes, Draft.applyAll_congr h]

/-- All dates are equally far off from the same moment in UTC, and from two
    moments that are none of the years 1 to 9999. -/
theorem secondsUntil_congr (h : n₁.utc? = n₂.utc?) (text : List Char) :
    secondsUntil (.ok n₁) text = secondsUntil (.ok n₂) text := by
  simp only [secondsUntil, Except.mapError, bind, Except.bind, h]

/-- **The same instant is the same moment**: its readings give every cookie the
    same header, and every header is read in the same way, with equal cookies
    or with the same failure.  The years 1 to 9999 need not have the instant. -/
theorem same_instant_agrees (h : n₁.instant = n₂.instant) :
    (∀ c : Cookie, c.headerString (some n₁) = c.headerString (some n₂)) ∧
      ∀ header, parse header (.ok n₁) = parse header (.ok n₂) := by
  have hutc := utc?_eq_of_instant h
  constructor
  · have hsecond : HttpDate.expirySecond n₁ 0 = HttpDate.expirySecond n₂ 0 := by
      rw [HttpDate.expirySecond, HttpDate.expirySecond, hutc]
    exact headers_agree_iff.mpr hsecond
  · intro header
    exact parse_congr (secondsUntil_congr hutc) header

/-- Half past eleven in the evening of the last day of 2024, five hours behind
    UTC, is half past four in the morning of the first day of 2025 on a clock
    without an offset. -/
theorem same_instant_agrees_new_year :
    let n₁ := Moment.ofClock ⟨2024, 12, 31⟩ 23 30 0 500000 (some (-18000))
    let n₂ := Moment.ofClock ⟨2025, 1, 1⟩ 4 30 0 500000 none
    n₁ ≠ n₂ ∧ n₁.instant = n₂.instant ∧
      (∀ c : Cookie, c.headerString (some n₁) = c.headerString (some n₂)) ∧
      ∀ header, parse header (.ok n₁) = parse header (.ok n₂) := by
  intro n₁ n₂
  have hinstant : n₁.instant = n₂.instant := by decide
  exact ⟨by decide, hinstant, same_instant_agrees hinstant⟩

end HttpExchange.Cookie
