import HttpExchange.Proofs.Number.IntegerReading
import HttpExchange.Proofs.Text.Splitting
import HttpExchange.Proofs.Time.HttpDate
import HttpExchange.Time.MailDate

/-! # Reading written dates

    A date in the fixed form is read word by word: the day of the week is
    passed over, the others are numbers and a month, and the zone is known.
    So it is read as the moment that it denotes, except that the reader takes
    the years before 100 for years of the 20th or the 21st century.

    * `fields?_text` cuts a date into its words, and `numbers?_text` reads
      them;
    * `denotes_unique` is that a date has one meaning only;
    * `read_text` finds the moment in the calendar, whatever the year is;
    * `instant_of_read` bounds the moments of all texts that are read. -/

namespace HttpExchange.MailDate

open Text Calendar

variable {cs : List Char}

/-! ## Words of a date -/

/-- Numbers of fixed width hold no blanks. -/
theorem not_blank_padded (width n : Nat) : ∀ c ∈ Integer.padded width n, isBlank c = false :=
  fun c hc => Integer.isBlank_of_isDigit (Integer.isDigits_padded width n c hc)

theorem not_blank_of_all (h : (cs.all fun c => !isBlank c) = true) :
    ∀ c ∈ cs, isBlank c = false := by
  intro c hc
  have hblank := List.all_eq_true.mp h c hc
  rw [Bool.not_eq_true'] at hblank
  exact hblank

theorem not_blank_dayNames {i : Nat} (h : i < 7) :
    ∀ c ∈ (HttpDate.dayNames.getD i "").toList, isBlank c = false := by
  have hall : ∀ i < 7, ((HttpDate.dayNames.getD i "").toList.all fun c => !isBlank c) = true := by
    decide
  exact not_blank_of_all (hall i h)

theorem not_blank_monthNames {i : Nat} (h : i < 12) : (HttpDate.monthNames.getD i "").toList ≠ [] ∧
    ∀ c ∈ (HttpDate.monthNames.getD i "").toList, isBlank c = false := by
  have hall : ∀ i < 12, (HttpDate.monthNames.getD i "").toList ≠ [] ∧
      ((HttpDate.monthNames.getD i "").toList.all fun c => !isBlank c) = true := by
    decide
  exact ⟨(hall i h).1, not_blank_of_all (hall i h).2⟩

theorem not_blank_timeText (s : HttpDate.Stamp) : ∀ c ∈ s.timeText, isBlank c = false := by
  intro c hc
  have hcolon : isBlank ':' = false := by decide
  rcases List.mem_append.mp hc with hc | hc
  · exact not_blank_padded 2 s.hour c hc
  · rcases List.mem_cons.mp hc with rfl | hc
    · exact hcolon
    · rcases List.mem_append.mp hc with hc | hc
      · exact not_blank_padded 2 s.minute c hc
      · rcases List.mem_cons.mp hc with rfl | hc
        · exact hcolon
        · exact not_blank_padded 2 s.second c hc

/-- The words of a date in the fixed form. -/
theorem words_text (s : HttpDate.Stamp) :
    words s.text = [(HttpDate.dayNames.getD (weekday s.date.number) "").toList ++ [','],
      Integer.padded 2 s.date.day, (HttpDate.monthNames.getD (s.date.month - 1) "").toList,
      Integer.padded 4 s.date.year, s.timeText, "GMT".toList] := by
  have hblank : isBlank ' ' = true := by decide
  have hname : ∀ c ∈ (HttpDate.dayNames.getD (weekday s.date.number) "").toList ++ [','],
      isBlank c = false := by
    intro c hc
    rcases List.mem_append.mp hc with hc | hc
    · exact not_blank_dayNames (Nat.mod_lt _ (by decide)) c hc
    · rw [List.mem_singleton.mp hc]
      decide
  obtain ⟨hmonth, hletters⟩ := not_blank_monthNames s.month_sub_one_lt.2
  have htime : s.timeText ≠ [] :=
    List.append_ne_nil_of_left_ne_nil (Integer.padded_ne_nil 2 s.hour) _
  rw [HttpDate.Stamp.text,
    words_append_blank (List.append_ne_nil_of_right_ne_nil _ (List.cons_ne_nil _ _)) hname hblank,
    words_append_blank (Integer.padded_ne_nil 2 _) (not_blank_padded 2 _) hblank,
    words_append_blank hmonth hletters hblank,
    words_append_blank (Integer.padded_ne_nil 4 _) (not_blank_padded 4 _) hblank,
    words_append_blank htime (not_blank_timeText s) hblank,
    words_of_not_blank (by decide) (not_blank_of_all (by decide))]

/-- The fields of a date in the fixed form. -/
theorem fields?_text (s : HttpDate.Stamp) :
    fields? s.text = some (Integer.padded 2 s.date.day,
      (HttpDate.monthNames.getD (s.date.month - 1) "").toList, Integer.padded 4 s.date.year,
      s.timeText, "GMT".toList) := by
  have hmonth := (not_blank_monthNames s.month_sub_one_lt.2).1
  -- the comma tells the day of the week
  rw [fields?, words_text, dropDayName, if_pos (Or.inl List.getLast?_concat)]
  refine if_neg ?_
  simp only [List.isEmpty_iff, Integer.padded_ne_nil, hmonth, or_self, not_false_eq_true]

/-! ## Numbers of a date -/

/-- No digit is a comma or a colon. -/
theorem not_mem_padded {c : Char} (hc : Integer.isDigit c = false) (width n : Nat) :
    c ∉ Integer.padded width n := by
  intro h
  rw [Integer.isDigits_padded width n c h] at hc
  exact Bool.noConfusion hc

theorem dropComma_of_not_mem (h : ',' ∉ cs) : dropComma cs = cs :=
  if_neg fun hlast => h (List.mem_of_getLast? hlast)

theorem isDigitLike_of_isDigit {c : Char} (h : Integer.isDigit c = true) :
    isDigitLike c = true := by
  have hc := Integer.toNat_of_isDigit h
  have hvalue : decimalDigit? c = some (c.toNat - 48) := by
    rw [decimalDigit?, if_pos (by omega)]
    exact if_pos hc
  rw [isDigitLike, hvalue]
  rfl

theorem month?_monthNames :
    ∀ i < 12, month? (lower (HttpDate.monthNames.getD i "").toList) = some (i + 1) := by
  decide

/-- The month is a name, so it is not taken for the day. -/
theorem dayMonth?_text (s : HttpDate.Stamp) (d : List Char) :
    dayMonth? d (HttpDate.monthNames.getD (s.date.month - 1) "").toList
      = some (d, s.date.month) := by
  obtain ⟨hpos, hlt⟩ := s.month_sub_one_lt
  rw [dayMonth?, month?_monthNames _ hlt, Nat.sub_add_cancel hpos]

theorem timeParts?_timeText (s : HttpDate.Stamp) :
    timeParts? s.timeText
      = some (Integer.padded 2 s.hour, Integer.padded 2 s.minute, Integer.padded 2 s.second) := by
  have hcolon : ∀ n, ':' ∉ Integer.padded 2 n := not_mem_padded (by decide) 2
  have hpieces : pieces ':' s.timeText
      = [Integer.padded 2 s.hour, Integer.padded 2 s.minute, Integer.padded 2 s.second] := by
    rw [HttpDate.Stamp.timeText, pieces_append, pieces_append, pieces, pieces, pieces,
      segments_of_not_mem (hcolon _), segments_of_not_mem (hcolon _),
      segments_of_not_mem (hcolon _)]
    rfl
  rw [timeParts?, hpieces]

theorem comma_not_mem_timeText (s : HttpDate.Stamp) : ',' ∉ s.timeText := by
  have hcomma : ∀ n, ',' ∉ Integer.padded 2 n := not_mem_padded (by decide) 2
  have hcolon : ',' ≠ ':' := by decide
  simp only [HttpDate.Stamp.timeText, List.mem_append, List.mem_cons, hcomma, hcolon, or_self,
    not_false_eq_true]

/-- The bounds of a date that the calendar has. -/
theorem bounds_date (s : HttpDate.Stamp) :
    0 < s.date.year ∧ s.date.year ≤ 9999 ∧ 0 < s.date.day ∧ s.date.day ≤ 31 := by
  have h := s.isValid_date
  have hmonth := getD_monthLengths_le s.date.year (s.date.month - 1)
  simp only [Date.isValid, Bool.and_eq_true, decide_eq_true_eq] at h
  omega

/-- **The numbers of a date in the fixed form.** -/
theorem numbers?_text (s : HttpDate.Stamp) :
    numbers? s.text = some ⟨fullYear s.date.year, s.date.month, s.date.day, s.hour, s.minute,
      s.second, some 0⟩ := by
  obtain ⟨-, hyears, -, hdays⟩ := bounds_date s
  have hread : ∀ {n}, n < 100 → (Integer.read (Integer.padded 2 n)).toOption = some (n : Int) := by
    intro n h
    rw [Integer.read_padded (by decide) (by decide) h]
    rfl
  have hyear : (Integer.read (Integer.padded 4 s.date.year)).toOption
      = some (s.date.year : Int) := by
    rw [Integer.read_padded (by decide) (by decide) (Nat.lt_succ_of_le hyears)]
    rfl
  have hcomma : ∀ width n, dropComma (Integer.padded width n) = Integer.padded width n :=
    fun width n => dropComma_of_not_mem (not_mem_padded (by decide) width n)
  -- the year comes before the time, and starts with a digit
  have horder : yearTime (Integer.padded 4 s.date.year) s.timeText
      = (Integer.padded 4 s.date.year, s.timeText) :=
    if_neg fun h => not_mem_padded (by decide) 4 _ (List.mem_of_mem_drop h.1)
  obtain ⟨first, hfirst⟩ : ∃ first, (Integer.padded 4 s.date.year).head? = some first :=
    Option.isSome_iff_exists.mp (List.isSome_head?.mpr (Integer.padded_ne_nil 4 _))
  have hdigit := isDigitLike_of_isDigit
    (Integer.isDigits_padded 4 _ first (List.mem_of_head? hfirst))
  have hzone : zoneOffset? "GMT".toList = some 0 := by decide
  rw [numbers?, fields?_text]
  simp only [Option.bind_eq_bind, Option.bind_some, dayMonth?_text, hcomma, horder, hfirst, hdigit,
    if_true, dropComma_of_not_mem (comma_not_mem_timeText s), timeParts?_timeText, hyear,
    hread (Nat.lt_of_le_of_lt hdays (by decide)), hread (Nat.lt_trans s.hour_lt (by decide)),
    hread (Nat.lt_trans s.minute_lt (by decide)), hread (Nat.lt_trans s.second_lt (by decide)),
    hzone]
  rfl

/-- **A date denotes one second only**: its fields are those of the date and the
    time of day. -/
theorem denotes_unique {a b : Nat} (ha : HttpDate.Denotes cs a) (hb : HttpDate.Denotes cs b) :
    a = b := by
  obtain ⟨s, hs, rfl⟩ := ha
  obtain ⟨t, ht, rfl⟩ := hb
  have hfields := fields?_text s
  rw [hs, ← ht, fields?_text t] at hfields
  simp only [Option.some.injEq, Prod.mk.injEq] at hfields
  obtain ⟨hday, hmonth, hyear, htime, -⟩ := hfields
  have hparts := timeParts?_timeText s
  rw [← htime, timeParts?_timeText t] at hparts
  simp only [Option.some.injEq, Prod.mk.injEq] at hparts
  obtain ⟨hhour, hminute, hsecond⟩ := hparts
  have hnumber := month?_monthNames _ s.month_sub_one_lt.2
  rw [← hmonth, month?_monthNames _ t.month_sub_one_lt.2] at hnumber
  have hmonths : t.date.month = s.date.month := by
    have hs := s.month_sub_one_lt.1
    have ht := t.month_sub_one_lt.1
    have heq := Option.some.inj hnumber
    omega
  rw [HttpDate.Stamp.seconds, HttpDate.Stamp.seconds, Date.number, Date.number,
    Integer.padded_inj hday, Integer.padded_inj hyear, hmonths, Integer.padded_inj hhour,
    Integer.padded_inj hminute, Integer.padded_inj hsecond]

/-! ## The moment of a date -/

/-- The year that is read for a year. -/
def readYear (year : Nat) : Nat :=
  if year < 100 then (if 68 < year then year + 1900 else year + 2000) else year

theorem fullYear_natCast (year : Nat) : fullYear (year : Int) = readYear year := by
  rw [fullYear, readYear]
  by_cases hshort : year < 100
  · rw [if_pos (by omega), if_pos hshort]
    by_cases hlast : 68 < year
    · rw [if_pos (by omega), if_pos hlast]
      rfl
    · rw [if_neg (by omega), if_neg hlast]
      rfl
  · rw [if_neg (by omega), if_neg hshort]

theorem readYear_bounds {year : Nat} (hpos : 0 < year) (hlast : year ≤ 9999) :
    0 < readYear year ∧ readYear year ≤ 9999 := by
  rw [readYear]
  split
  · split <;> omega
  · exact ⟨hpos, hlast⟩

/-- The years that are read for others are of the same length. -/
theorem isLeap_readYear {year : Nat} (hpos : 0 < year) : isLeap (readYear year) = isLeap year := by
  have hshort : ∀ y < 100, 0 < y → isLeap (readYear y) = isLeap y := by decide
  by_cases hyear : year < 100
  · exact hshort year hyear hpos
  · rw [readYear, if_neg hyear]

/-- So the calendar has the date that is read. -/
theorem isValid_readYear {d : Date} (h : d.isValid = true) :
    Date.isValid { d with year := readYear d.year } = true := by
  simp only [Date.isValid, Bool.and_eq_true, decide_eq_true_eq] at h ⊢
  obtain ⟨⟨⟨⟨⟨hpos, hlast⟩, hmonth⟩, hmonths⟩, hday⟩, hdays⟩ := h
  have hlengths : monthLengths (readYear d.year) = monthLengths d.year := by
    rw [monthLengths, isLeap_readYear hpos, monthLengths]
  obtain ⟨hpos', hlast'⟩ := readYear_bounds hpos hlast
  rw [hlengths]
  exact ⟨⟨⟨⟨⟨hpos', hlast'⟩, hmonth⟩, hmonths⟩, hday⟩, hdays⟩

/-- **A date in the fixed form is read**, whatever its year is. -/
theorem read_text (s : HttpDate.Stamp) :
    MailDate.read s.text = .ok (Moment.ofClock { s.date with year := readYear s.date.year }
      s.hour s.minute s.second 0 (some 0)) := by
  obtain ⟨hpos, hyears, hday, hdays⟩ := bounds_date s
  obtain ⟨hpos', hyears'⟩ := readYear_bounds hpos hyears
  have hhour := s.hour_lt
  have hminute := s.minute_lt
  have hsecond := s.second_lt
  have hsmall : [(readYear s.date.year : Int), s.date.day, s.hour, s.minute, s.second].all isSmall
      = true := by
    simp only [List.all_cons, List.all_nil, Bool.and_true, isSmall, Bool.and_eq_true,
      decide_eq_true_eq]
    omega
  have hvalid := isValid_readYear s.isValid_date
  rw [MailDate.read, numbers?_text]
  simp only [Numbers.moment, fullYear_natCast, Option.getD_some, Int.toNat_natCast, hsmall]
  rw [if_neg (by decide), if_neg (by decide), if_neg (by decide)]
  refine if_pos ⟨by omega, by omega, hvalid, ?_⟩
  simp only [Bool.and_eq_true, decide_eq_true_eq]
  omega

/-! ## The instant of a date -/

/-- A reading of the clock in seconds. -/
theorem instant_ofClock (s : HttpDate.Stamp) (offset : Option Int) :
    (Moment.ofClock s.date s.hour s.minute s.second 0 offset).instant
      = s.seconds * Moment.micros - offset.getD 0 * Moment.micros := by
  have hoffset : (offset.map (· * Moment.micros)).getD 0 = offset.getD 0 * Moment.micros := by
    cases offset with
    | none => exact (Int.zero_mul _).symm
    | some _ => rfl
  rw [Moment.instant, Moment.ofClock, hoffset, HttpDate.Stamp.seconds]
  exact congrArg (· - _) (Int.add_zero _)

/-- **A date that is written for a second of the year 100 or a later one** is read
    as that second. -/
theorem read_ofSeconds {seconds : Nat} (hfirst : daysBeforeYear 100 * 86400 ≤ seconds)
    (hlast : seconds ≤ HttpDate.latest) :
    ∃ m, MailDate.read (HttpDate.ofSeconds seconds) = .ok m ∧
      m.instant = seconds * Moment.micros := by
  have hyear : 100 ≤ (Date.ofNumber (seconds / 86400)).year := by
    refine le_year_ofNumber ((Nat.le_div_iff_mul_le (by decide)).mpr hfirst)
  have hread : readYear (Date.ofNumber (seconds / 86400)).year
      = (Date.ofNumber (seconds / 86400)).year := if_neg (Nat.not_lt.mpr hyear)
  have hinstant := instant_ofClock (.ofSeconds seconds hlast) (some 0)
  rw [HttpDate.Stamp.seconds_ofSeconds hlast, Option.getD_some, Int.zero_mul, Int.sub_zero]
    at hinstant
  refine ⟨_, ?_, hinstant⟩
  rw [← HttpDate.Stamp.text_ofSeconds hlast, read_text]
  refine congrArg (fun date => Except.ok (Moment.ofClock date _ _ _ 0 (some 0))) ?_
  show { Date.ofNumber (seconds / 86400) with
    year := readYear (Date.ofNumber (seconds / 86400)).year } = _
  rw [hread]
  rfl

/-- **Every expiry date is read.** -/
theorem read_expiry (now : Moment) (age : Int) :
    ∃ m, MailDate.read (HttpDate.expiry now age) = .ok m := by
  obtain ⟨s, hs⟩ := HttpDate.exists_text_expiry now age
  rw [← hs]
  exact ⟨_, read_text s⟩

/-- Numbers that are checked are a date and a time of day with an offset of
    less than a day. -/
theorem moment_eq_ok {n : Numbers} {m : Moment} (h : n.moment = .ok m) :
    ∃ s : HttpDate.Stamp, m = Moment.ofClock s.date s.hour s.minute s.second 0 n.offset ∧
      (n.offset.getD 0).natAbs < 86400 := by
  rw [Numbers.moment] at h
  dsimp only at h
  split at h
  · exact nomatch h
  · split at h
    · exact nomatch h
    · next hoffset =>
      split at h
      · exact nomatch h
      · split at h
        · next hvalid =>
          obtain ⟨-, -, hdate, hday⟩ := hvalid
          simp only [Bool.and_eq_true, decide_eq_true_eq] at hday
          refine ⟨⟨_, n.hour.toNat, n.minute.toNat, n.second.toNat, hdate, ?_, ?_, ?_⟩,
            (Except.ok.inj h).symm, Nat.not_le.mp hoffset⟩ <;> omega
        · exact nomatch h

/-- **No date that is read lies more than a day outside** the years 1 to 9999. -/
theorem instant_of_read {m : Moment} (h : MailDate.read cs = .ok m) :
    -(86400 * Moment.micros) < m.instant ∧ m.instant < Moment.span + 86400 * Moment.micros := by
  rw [MailDate.read] at h
  cases hnumbers : numbers? cs with
  | none =>
      rw [hnumbers] at h
      exact nomatch h
  | some n =>
      rw [hnumbers] at h
      obtain ⟨s, rfl, hoffset⟩ := moment_eq_ok h
      have hseconds : s.seconds ≤ 315537897600 - 1 := s.seconds_le
      have hspan : Moment.span = 315537897600 * 1000000 := rfl
      have hmicros : Moment.micros = 1000000 := rfl
      rw [instant_ofClock, hspan, hmicros]
      omega

end HttpExchange.MailDate
