import HttpExchange.Proofs.Cookie.Determination
import HttpExchange.Proofs.Cookie.HeaderWriting
import HttpExchange.Proofs.Number.Rounding
import HttpExchange.Proofs.Time.MailDate

/-! # Expiry dates of cookies

    A header that is written at a moment has one part more than the header
    without a moment, if the cookie has an age: the expiry date.  It denotes
    the second in which the age runs out, as long as the years 1 to 9999 have
    the moment and that second.  A reader finds the seconds from its own moment
    to the date, and never more than the calendar has.

    * `expiresText_iff` says which text the expiry date is, and
      `expires_denotes` what it denotes;
    * `secondsUntil_bounds` bounds what a reader makes of a date. -/

namespace HttpExchange.Cookie

open Text

variable {c : Cookie} {now : Moment} {text : List Char}

/-! ## The part that a moment adds -/

/-- Is the text the expiry date in the header of a cookie at a moment?  It is
    the value of the one part that the header without a moment does not have. -/
def ExpiresText (c : Cookie) (now : Moment) (text : List Char) : Prop :=
  ∃ front back, c.parts none = front ++ back ∧
    c.parts (some now) = front ++ valued "Expires" text :: back

/-- The parts around the expiry date: it stands behind the age. -/
theorem attributeParts_expires (hage : 0 ≤ c.maxAge) (now : Moment) :
    ∃ front back, valued "Max-Age" (Integer.write c.maxAge) ∈ front ∧
      c.attributeParts none = front ++ back ∧
      c.attributeParts (some now)
        = front ++ valued "Expires" (HttpDate.expiry now c.maxAge) :: back := by
  have hnot : ¬ c.maxAge < 0 := Int.not_lt.mpr hage
  refine ⟨(if c.isVersionOne then textPart "Comment" c.comment else [])
      ++ textPart "Domain" c.domain ++ textPart "Path" c.path
      ++ [valued "Max-Age" (Integer.write c.maxAge)],
    flagPart "Secure" c.secure ++ flagPart "HttpOnly" c.httpOnly
      ++ textPart "Priority" c.priority ++ sameSitePart c.sameSite
      ++ (if c.isVersionOne then [valued "Version" ['1']] else []), ?_, ?_, ?_⟩
  · exact List.mem_append_right _ List.mem_cons_self
  · simp only [attributeParts, ageParts, if_neg hnot, List.append_assoc]
  · simp only [attributeParts, ageParts, if_neg hnot, List.append_assoc, List.cons_append,
      List.nil_append]

/-- A cookie of the session has no expiry date. -/
theorem attributeParts_of_neg (hage : c.maxAge < 0) (now : Moment) :
    c.attributeParts (some now) = c.attributeParts none := by
  simp only [attributeParts, ageParts, if_pos hage]

/-- What a list has more than another is one thing only. -/
theorem eq_of_inserted {part part' : List Char} {front back front' back' : List (List Char)}
    (h : front ++ part :: back = front' ++ part' :: back')
    (hrest : front ++ back = front' ++ back') : part = part' := by
  have hpart : (front ++ part :: back).Perm (part :: (front ++ back)) := List.perm_middle
  have hpart' : (front' ++ part' :: back').Perm (part' :: (front' ++ back')) := List.perm_middle
  rw [h, hrest] at hpart
  have hcount := (hpart.symm.trans hpart').count_eq part
  rw [List.count_cons_self, List.count_cons] at hcount
  by_cases he : part' = part
  · exact he.symm
  · rw [if_neg (by rw [beq_iff_eq]; exact he)] at hcount
    exact absurd hcount (Nat.succ_ne_self _)

/-- **The expiry date** of a cookie with an age. -/
theorem expiresText_iff (hage : 0 ≤ c.maxAge) (now : Moment) (text : List Char) :
    c.ExpiresText now text ↔ text = HttpDate.expiry now c.maxAge := by
  obtain ⟨front, back, -, hnone, hsome⟩ := attributeParts_expires hage now
  have hparts : c.parts none = (c.pair :: front) ++ back := by rw [parts_eq, hnone]; rfl
  have hparts' : c.parts (some now)
      = (c.pair :: front) ++ valued "Expires" (HttpDate.expiry now c.maxAge) :: back := by
    rw [parts_eq, hsome]
    rfl
  constructor
  · rintro ⟨front', back', hrest, hinserted⟩
    have hvalued := eq_of_inserted (hinserted.symm.trans hparts') (hrest.symm.trans hparts)
    exact (List.cons.inj (List.append_cancel_left hvalued)).2
  · rintro rfl
    exact ⟨_, back, hparts, hparts'⟩

/-! ## What it denotes -/

/-- **An expiry date denotes the second in which the age runs out**, if the
    years 1 to 9999 have the moment that the age is counted from.  An age that
    runs out later is capped at their last second, and so is every age that is
    counted from an earlier moment. -/
theorem expires_denotes (hage : 0 ≤ c.maxAge) (now : Moment) :
    ∃ text, (∀ t, c.ExpiresText now t ↔ t = text) ∧
      (Moment.span ≤ now.instant + c.maxAge * Moment.micros →
        text = "Fri, 31 Dec 9999 23:59:59 GMT".toList) ∧
      (0 ≤ now.instant → now.instant + c.maxAge * Moment.micros < Moment.span →
        ∃ second : Nat, HttpDate.Denotes text second ∧
          second * Moment.micros ≤ now.instant + c.maxAge * Moment.micros ∧
          now.instant + c.maxAge * Moment.micros < (second + 1) * Moment.micros) ∧
      (now.instant < 0 → text = "Fri, 31 Dec 9999 23:59:59 GMT".toList) := by
  have hmicros : Moment.micros = 1000000 := rfl
  have hlast : 0 ≤ c.maxAge * Moment.micros := Int.mul_nonneg hage (by decide)
  refine ⟨HttpDate.expiry now c.maxAge, fun t => expiresText_iff hage now t, ?_, ?_, ?_⟩
  · intro hlate
    refine HttpDate.expiry_eq_latest ?_
    rintro ⟨-, hend⟩
    exact Int.not_lt.mpr hlate ((HttpDate.inSpan_iff _).mp hend).2
  · intro hfirst hend
    have hnow : Moment.inSpan now.instant = true := (HttpDate.inSpan_iff _).mpr (by omega)
    have hinside := (HttpDate.inSpan_iff (now.instant + c.maxAge * Moment.micros)).mpr
      (by omega)
    refine ⟨_, HttpDate.denotes_expiry hnow hinside, ?_⟩
    rw [hmicros] at hlast ⊢
    omega
  · intro hearly
    refine HttpDate.expiry_eq_latest ?_
    rintro ⟨hnow, -⟩
    exact Int.not_lt.mpr ((HttpDate.inSpan_iff _).mp hnow).1 hearly

/-- An age of a day, counted from half a second past 10:18:14 in UTC on the 9th of June
    2025, on a clock two hours ahead. -/
theorem expires_denotes_next_day :
    let c : Cookie := { ofText ['a'] ['b'] with maxAge := 86400 }
    0 ≤ c.maxAge ∧ ∃ text, c.ExpiresText ⟨63885068294500000, some 7200000000⟩ text ∧
      HttpDate.Denotes text 63885147494 := by
  intro c
  have hage : 0 ≤ c.maxAge := by decide
  obtain ⟨text, htext, -, hdenotes, -⟩ :=
    expires_denotes hage ⟨63885068294500000, some 7200000000⟩
  obtain ⟨second, hsecond, hle, hlt⟩ := hdenotes (by decide) (by decide)
  have hend : (⟨63885068294500000, some 7200000000⟩ : Moment).instant + c.maxAge * Moment.micros
      = 63885147494500000 := by decide
  have hmicros : Moment.micros = 1000000 := rfl
  rw [hend, hmicros] at hle hlt
  have he : second = 63885147494 := by omega
  exact ⟨hage, text, (htext text).mpr rfl, he ▸ hsecond⟩

/-- A clock that is an hour ahead shows the first midnight of year 1 when it is
    still year 0 in UTC.  An age of a day runs out at 23:00 of the first day,
    but the expiry date is the last one. -/
theorem expires_beyond_first_midnight :
    let c : Cookie := { ofText ['a'] ['b'] with maxAge := 86400 }
    let now : Moment := ⟨0, some 3600000000⟩
    now.instant + c.maxAge * Moment.micros = 82800 * Moment.micros ∧
      ∀ text, c.ExpiresText now text →
        text = "Fri, 31 Dec 9999 23:59:59 GMT".toList ∧ ¬ HttpDate.Denotes text 82800 := by
  intro c now
  refine ⟨by decide, ?_⟩
  intro text htext
  have hlast : text = "Fri, 31 Dec 9999 23:59:59 GMT".toList := by
    rw [(expiresText_iff (by decide) now text).mp htext]
    exact HttpDate.expiry_eq_latest (by decide)
  refine ⟨hlast, ?_⟩
  intro hdenotes
  have hlatest : HttpDate.Denotes text HttpDate.latest := by
    rw [hlast, ← HttpDate.ofSeconds_latest]
    exact HttpDate.denotes_ofSeconds (Nat.le_refl _)
  exact absurd (MailDate.denotes_unique hdenotes hlatest) (by decide)

/-! ## Reading expiry dates -/

/-- **No expiry date gives an age of more than twelve digits.** -/
theorem secondsUntil_bounds {now : Reading} {seconds : Int}
    (h : secondsUntil now text = .ok seconds) : 0 ≤ seconds ∧ seconds < 10 ^ 12 := by
  have hreckoned := reckoned_secondsUntil now text
  rw [h] at hreckoned
  cases hreckoned with
  | @found date moment hread hnow hspan =>
      obtain ⟨hfirst, hlast⟩ := MailDate.instant_of_read hread
      obtain ⟨hstart, hend⟩ := (HttpDate.inSpan_iff _).mp hspan
      have hyears : Moment.span = 315537897600 * 1000000 := rfl
      have hmicros : Moment.micros = 1000000 := rfl
      have hmantissa : twoTo 53 = 9007199254740992 := by decide
      rw [hmicros] at hfirst hlast
      rw [hyears] at hlast hend
      have hdifference : (date.instant - moment.instant).natAbs < 315537984000 * 1000000 := by omega
      have hquotient : (date.instant - moment.instant).natAbs / 1000000 < 315537984000 :=
        (Nat.div_lt_iff_lt_mul (by decide)).mpr hdifference
      have hsmall : (date.instant - moment.instant).natAbs < twoTo 53 * 1000000 := by
        rw [hmantissa]
        omega
      have hle := Binary64.roundedQuotient_le hsmall
      omega

end HttpExchange.Cookie
