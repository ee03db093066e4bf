import HttpExchange.Proofs.Cookie.ExpiryDates

/-! # Reading the expiry date of a header

    The segment of an expiry date can be read at every moment of the years 1
    to 9999, and changes nothing but the age of the cookie.  So a reader at the
    moment at which the date was written finds the age that it was written for.

    * `described_insert` is what a segment with an expiry date changes;
    * `age_of_expires` puts writer and reader together. -/

namespace HttpExchange.Cookie

open Text

variable {now moment : Moment} {segment : List Char} {T n : Nat}

/-! ## Segments with a value -/

theorem partition_valued {key : String} (hkey : IsKey key.toList) (value : List Char) :
    partition '=' (' ' :: valued key value) = (' ' :: key.toList, some value) :=
  partition_append hkey.not_mem_cons

theorem keyOf_valued {key : String} (hkey : IsKey key.toList) (value : List Char) :
    keyOf (' ' :: valued key value) = key.toList := by
  rw [keyOf, partition_valued hkey]
  exact hkey.trim_cons

theorem valueOf_valued {key : String} (hkey : IsKey key.toList) (value : List Char) :
    valueOf (' ' :: valued key value) = bare value := by
  rw [valueOf, textOf, partition_valued hkey]
  rfl

/-! ## The segment of an expiry date -/

/-- No expiry date ends its part. -/
theorem semicolon_not_mem_expiry (now : Moment) (age : Int) : ';' ∉ HttpDate.expiry now age := by
  obtain ⟨s, hs⟩ := HttpDate.exists_text_expiry now age
  rw [← hs]
  intro h
  have hletter := List.all_eq_true.mp s.isLetter_text _ h
  exact absurd hletter (by decide)

/-- An expiry date is read as it is. -/
theorem bare_expiry (now : Moment) (age : Int) :
    bare (HttpDate.expiry now age) = HttpDate.expiry now age := by
  obtain ⟨s, hs⟩ := HttpDate.exists_text_expiry now age
  rw [← hs]
  refine (bare_eq_self_iff _).mpr ⟨?_, ?_⟩
  · obtain ⟨first, middle, hfirst, htext⟩ := s.text_ends
    rw [htext]
    exact trim_of_ends hfirst (by decide) middle
  · intro hquoted
    have hletter := List.all_eq_true.mp s.isLetter_text _ (List.mem_of_head? hquoted.2.1)
    exact absurd hletter (by decide)

/-- The segment that an expiry date stands in. -/
def expiresSegment (now : Moment) (age : Int) : List Char :=
  ' ' :: valued "Expires" (HttpDate.expiry now age)

theorem semicolon_not_mem_expiresSegment (now : Moment) (age : Int) :
    ';' ∉ expiresSegment now age := by
  intro h
  rcases List.mem_cons.mp h with e | h
  · exact absurd e (by decide)
  · exact not_mem_valued (by decide) (semicolon_not_mem_expiry now age) h

theorem keyOf_expiresSegment (now : Moment) (age : Int) :
    keyOf (expiresSegment now age) = "Expires".toList :=
  keyOf_valued (by decide) _

theorem valueOf_expiresSegment (now : Moment) (age : Int) :
    valueOf (expiresSegment now age) = HttpDate.expiry now age :=
  (valueOf_valued (by decide) _).trans (bare_expiry now age)

theorem keyword_expiresSegment (now : Moment) (age : Int) :
    keyword (expiresSegment now age) = Keyword.expires.word.toList := by
  rw [keyword, keyOf_expiresSegment]
  decide

/-- At a moment of the years 1 to 9999 it can be reckoned with. -/
theorem secondsUntil_expiry (hmoment : Moment.inSpan moment.instant = true)
    (now : Moment) (age : Int) :
    ∃ seconds, secondsUntil (.ok moment) (HttpDate.expiry now age) = .ok seconds := by
  obtain ⟨date, hread⟩ := MailDate.read_expiry now age
  exact ⟨_, secondsUntil_of_read hread hmoment⟩

theorem not_beyond_expiresSegment (hmoment : Moment.inSpan moment.instant = true)
    (now : Moment) (age : Int) :
    ¬ Beyond (.ok moment) (keyOf (expiresSegment now age)) (textOf (expiresSegment now age)) := by
  rintro ⟨-, fault, hfault, -⟩
  obtain ⟨seconds, hseconds⟩ := secondsUntil_expiry hmoment now age
  rw [bare_textOf, valueOf_expiresSegment, hseconds] at hfault
  exact nomatch hfault

/-- Then it is not reported. -/
theorem isReported_expiresSegment (hmoment : Moment.inSpan moment.instant = true)
    (now : Moment) (age : Int) : isReported (.ok moment) (expiresSegment now age) = false := by
  have hkey : keyOf (expiresSegment now age) ≠ [] := by
    rw [keyOf_expiresSegment]
    decide
  obtain ⟨seconds, hseconds⟩ := secondsUntil_expiry hmoment now age
  have hvalue : Keyword.expires.attribute? (.ok moment) (HttpDate.expiry now age)
      = some (.expires seconds) := by
    rw [Keyword.attribute?, hseconds]
    rfl
  rw [isReported_of_key_ne_nil _ hkey, attributeIn?,
    Keyword.ofText?_eq_some_iff.mpr (keyword_expiresSegment now age), valueOf_expiresSegment,
    Option.bind_some, hvalue]
  rfl

/-! ## What a date changes -/

/-- A segment counts for its own keyword only. -/
theorem valuesOf_insert {k : Keyword} (hkey : keyword segment ≠ k.word.toList)
    (front back : List (List Char)) :
    valuesOf k (front ++ segment :: back) = valuesOf k (front ++ back) := by
  simp only [valuesOf, List.filter_append, List.filter_cons, hkey, decide_false, if_false,
    Bool.false_eq_true]

/-- The expiry date is the only value of its segment. -/
theorem valuesOf_expiresSegment (now : Moment) (age : Int) :
    valuesOf .expires [expiresSegment now age] = [HttpDate.expiry now age] := by
  simp only [valuesOf, List.filter_cons, keyword_expiresSegment, decide_true, if_true,
    List.filter_nil, List.map_cons, List.map_nil, valueOf_expiresSegment]

/-- The age that segments describe. -/
def lastAge (now : Reading) (others : List (List Char)) : Int := (described now [] [] others).maxAge

/-- It is what the last readable `Max-Age` says. -/
theorem lastAge_of_number {now : Reading} {others : List (List Char)} {seconds : Int}
    (h : last? (fun value => (Integer.read value).toOption) .maxAge others = some seconds) :
    lastAge now others = max 0 seconds := by
  rw [lastAge, described]
  dsimp only
  rw [h]

/-- Without one it is what the last readable `Expires` says. -/
theorem lastAge_of_date {now : Reading} {others : List (List Char)} {seconds : Int}
    (hage : last? (fun value => (Integer.read value).toOption) .maxAge others = none)
    (h : last? (fun value => (secondsUntil now value).toOption) .expires others = some seconds) :
    lastAge now others = seconds := by
  rw [lastAge, described]
  dsimp only
  rw [hage, h]
  rfl

/-- **An expiry date changes nothing but the age.** -/
theorem described_insert (hkey : keyword segment = Keyword.expires.word.toList) (now : Reading)
    (name value : List Char) (front back : List (List Char)) :
    described now name value (front ++ segment :: back)
      = { described now name value (front ++ back) with
          maxAge := lastAge now (front ++ segment :: back) } := by
  have hvalues : ∀ k, k ≠ .expires →
      valuesOf k (front ++ segment :: back) = valuesOf k (front ++ back) := by
    intro k hk
    refine valuesOf_insert ?_ front back
    rw [hkey]
    intro hword
    have hknown := Keyword.ofText?_eq_some_iff.mpr hword
    rw [Keyword.ofText?_eq_some_iff.mpr rfl] at hknown
    exact hk (Option.some.inj hknown).symm
  have htext : ∀ k, k ≠ .expires →
      lastText k (front ++ segment :: back) = lastText k (front ++ back) := by
    intro k hk
    rw [lastText, hvalues k hk, lastText]
  have hlast : ∀ {α : Type} (read : List Char → Option α) k, k ≠ .expires →
      last? read k (front ++ segment :: back) = last? read k (front ++ back) := by
    intro α read k hk
    rw [last?, hvalues k hk, last?]
  have hoccurs : ∀ k, k ≠ .expires →
      occurs k (front ++ segment :: back) = occurs k (front ++ back) := by
    intro k hk
    rw [occurs_eq, hvalues k hk, occurs_eq]
  simp only [lastAge, described, htext .domain (by decide), htext .path (by decide),
    htext .priority (by decide), htext .comment (by decide), hoccurs .secure (by decide),
    hoccurs .httpOnly (by decide), hlast readVersion .version (by decide),
    hlast SameSite.ofWord? .sameSite (by decide)]

/-- What can be read after a keyword is enough for something to be found
    last. -/
theorem exists_last? {α : Type} {read : List Char → Option α} {k : Keyword} {a : α}
    {others : List (List Char)} (hmem : segment ∈ others) (hkey : keyword segment = k.word.toList)
    (hread : read (valueOf segment) = some a) : ∃ b, last? read k others = some b := by
  have hvalue : a ∈ (valuesOf k others).filterMap read := by
    refine List.mem_filterMap.mpr ⟨valueOf segment, ?_, hread⟩
    exact List.mem_map.mpr ⟨segment, List.mem_filter.mpr ⟨hmem, decide_eq_true hkey⟩, rfl⟩
  exact Option.isSome_iff_exists.mp (List.getLast?_isSome.mpr (List.ne_nil_of_mem hvalue))

variable {header header' : String} {front back : List (List Char)} {age : Int}
  {log : List Log.Record} {c : Cookie}

/-- **A header with one expiry date more** gives the same records and the same cookie,
    up to the age: the reader's own moment lies in the years 1 to 9999, and it
    does not matter at which moment the date was written. -/
theorem parse_insert (hmoment : Moment.inSpan moment.instant = true)
    (hfirst : (segments ';' header'.toList).1 = (segments ';' header.toList).1)
    (hothers : (segments ';' header.toList).2 = front ++ back)
    (hothers' : (segments ';' header'.toList).2 = front ++ expiresSegment now age :: back)
    (h : parse header (.ok moment) = ⟨log, .ok c⟩) :
    parse header' (.ok moment)
      = ⟨log, .ok { c with
          maxAge := lastAge (.ok moment) (front ++ expiresSegment now age :: back) }⟩ := by
  have hresult := congrArg Outcome.result h
  obtain ⟨name, value, hpair, -⟩ := parse_eq_ok hresult
  have hreckonable := not_headerBeyond_of_parse hresult
  have hreckonable' : ¬ HeaderBeyond (.ok moment) header' := by
    rintro ⟨key, text, hmem, hbeyond⟩
    rw [hothers'] at hmem
    obtain ⟨segment, hsegment, hkey, hname, htext⟩ := mem_attributesOf_iff.mp hmem
    rw [List.mem_append, List.mem_cons, or_left_comm, ← List.mem_append, ← hothers] at hsegment
    -- the segment is the expiry date, or one of the other header
    rcases hsegment with he | hold
    · rw [hname, htext, he] at hbeyond
      exact not_beyond_expiresSegment hmoment now age hbeyond
    · exact hreckonable ⟨key, text, mem_attributesOf_iff.mpr ⟨segment, hold, hkey, hname, htext⟩,
        hbeyond⟩
  have hreported : ¬ isReported (.ok moment) (expiresSegment now age) = true := by
    rw [isReported_expiresSegment hmoment]
    exact Bool.false_ne_true
  rw [parse_of_pair hpair hreckonable, hothers] at h
  obtain ⟨hlog, hcookie⟩ := Outcome.mk.inj h
  rw [parse_of_pair (by rw [hfirst]; exact hpair) hreckonable', hothers', List.filter_append,
    List.filter_cons_of_neg hreported, ← List.filter_append, hlog,
    described_insert (keyword_expiresSegment now age), Except.ok.inj hcookie]

/-- **If there is an age, the expiry date changes nothing at all.** -/
theorem parse_insert_of_age (hmoment : Moment.inSpan moment.instant = true)
    (hfirst : (segments ';' header'.toList).1 = (segments ';' header.toList).1)
    (hothers : (segments ';' header.toList).2 = front ++ back)
    (hothers' : (segments ';' header'.toList).2 = front ++ expiresSegment now age :: back)
    {seconds : Int}
    (hage : last? (fun value => (Integer.read value).toOption) .maxAge (front ++ back)
      = some seconds)
    (h : parse header (.ok moment) = ⟨log, .ok c⟩) :
    parse header' (.ok moment) = ⟨log, .ok c⟩ := by
  obtain ⟨name, value, -, hc⟩ := exists_described_of_parse (congrArg Outcome.result h)
  have hold : c.maxAge = max 0 seconds := by
    rw [hc, hothers]
    exact lastAge_of_number hage
  have hvalues : valuesOf .maxAge (front ++ expiresSegment now age :: back)
      = valuesOf .maxAge (front ++ back) := by
    refine valuesOf_insert ?_ front back
    rw [keyword_expiresSegment]
    decide
  have hage' : last? (fun value => (Integer.read value).toOption) .maxAge
      (front ++ expiresSegment now age :: back) = some seconds := by
    rw [last?, hvalues, ← last?, hage]
  rw [parse_insert hmoment hfirst hothers hothers' h, lastAge_of_number hage', ← hold]

/-! ## Writer and reader -/

/-- A header of a pair and an expiry date gives a cookie with the seconds that
    are left. -/
theorem parse_expiresSegment {pair name value : List Char} (hsemicolon : ';' ∉ pair)
    (hpair : namedPair? pair = some (name, value))
    (hmoment : Moment.inSpan moment.instant = true) {seconds : Int}
    (hseconds : secondsUntil (.ok moment) (HttpDate.expiry now age) = .ok seconds) :
    parse (String.ofList (pair ++ ';' :: expiresSegment now age)) (.ok moment)
      = ⟨[], .ok { ofText name value with maxAge := seconds }⟩ := by
  have halone : segments ';' (String.ofList pair).toList = (pair, []) := by
    rw [String.toList_ofList, segments_of_not_mem hsemicolon]
  have hdated : segments ';' (String.ofList (pair ++ ';' :: expiresSegment now age)).toList
      = (pair, [expiresSegment now age]) := by
    rw [String.toList_ofList, segments_append, pieces, segments_of_not_mem hsemicolon,
      segments_of_not_mem (semicolon_not_mem_expiresSegment now age)]
    rfl
  have hpairOnly : parse (String.ofList pair) (.ok moment) = ⟨[], .ok (ofText name value)⟩ := by
    have hreckonable : ¬ HeaderBeyond (.ok moment) (String.ofList pair) := by
      rintro ⟨key, text, hmem, -⟩
      rw [halone] at hmem
      exact absurd hmem List.not_mem_nil
    rw [parse_of_pair (by rw [halone]; exact hpair) hreckonable, halone]
    rfl
  have hdate : last? (fun value => (secondsUntil (.ok moment) value).toOption) .expires
      [expiresSegment now age] = some seconds := by
    rw [last?, valuesOf_expiresSegment, List.filterMap_cons_some (by rw [hseconds]; rfl)]
    rfl
  have hnumber : last? (fun value => (Integer.read value).toOption) .maxAge
      [expiresSegment now age] = none := by
    have hnone : valuesOf .maxAge [expiresSegment now age] = [] := by
      refine valuesOf_insert ?_ [] []
      rw [keyword_expiresSegment]
      decide
    rw [last?, hnone]
    rfl
  have hothers : (segments ';' (String.ofList pair).toList).2 = [] ++ [] := by
    rw [halone]
    rfl
  have hothers' : (segments ';' (String.ofList (pair ++ ';' :: expiresSegment now age)).toList).2
      = [] ++ [expiresSegment now age] := by
    rw [hdated]
    rfl
  rw [parse_insert hmoment (by rw [hdated, halone]) hothers hothers' hpairOnly, List.nil_append,
    lastAge_of_date hnumber hdate]

/-- The seconds from the moment at which an expiry date was written are the
    age. -/
theorem secondsUntil_own_expiry (hnow : now.instant = T * Moment.micros)
    (hfirst : Calendar.daysBeforeYear 100 * 86400 ≤ T) (hlast : T + n ≤ HttpDate.latest) :
    secondsUntil (.ok now) (HttpDate.expiry now n) = .ok n := by
  have hmicros : Moment.micros = 1000000 := rfl
  have hlatest : HttpDate.latest = 315537897600 - 1 := rfl
  have hend : now.instant + n * Moment.micros = ((T + n : Nat) : Int) * Moment.micros := by
    rw [hnow, hmicros]
    omega
  have hspan : Moment.inSpan now.instant = true := by
    rw [hnow]
    exact HttpDate.inSpan_of_le_latest (by omega)
  have hinspan : Moment.inSpan (now.instant + n * Moment.micros) = true := by
    rw [hend]
    exact HttpDate.inSpan_of_le_latest hlast
  have hsecond : HttpDate.expirySecond now n = T + n := by
    rw [HttpDate.expirySecond_of_inSpan hspan hinspan, hend, hmicros]
    omega
  obtain ⟨date, hread, hdate⟩ := MailDate.read_ofSeconds (hfirst.trans (Nat.le_add_right T n)) hlast
  have hleft : date.instant - now.instant = ((n * 1000000 : Nat) : Int) := by
    rw [hdate, hnow, hmicros]
    omega
  rw [HttpDate.expiry, hsecond, secondsUntil_of_read hread hspan, hleft,
    Binary64.roundedQuotient_mul (by decide) ?_]
  · rw [Int.max_eq_right (Int.natCast_nonneg n)]
  · have hmantissa : twoTo 53 = 9007199254740992 := by decide
    omega

/-- **Reading undoes writing**: at the moment at which it was written, an expiry
    date in the year 100 or later gives the age that it was written for. -/
theorem age_of_expires (hnow : now.instant = T * Moment.micros)
    (hfirst : Calendar.daysBeforeYear 100 * 86400 ≤ T) (hlast : T + n ≤ HttpDate.latest) :
    ∃ text, (∀ c : Cookie, c.maxAge = n → ∀ t, c.ExpiresText now t ↔ t = text) ∧
      parse (String.ofList ("a=b; Expires=".toList ++ text)) (.ok now)
        = ⟨[], .ok { ofText ['a'] ['b'] with maxAge := n }⟩ := by
  refine ⟨HttpDate.expiry now n, ?_, ?_⟩
  · intro c hc t
    have hage : 0 ≤ c.maxAge := by
      rw [hc]
      exact Int.natCast_nonneg n
    rw [expiresText_iff hage, hc]
  · have hnot : ';' ∉ ['a', '=', 'b'] := by decide
    have hpair : namedPair? ['a', '=', 'b'] = some (['a'], ['b']) := by decide
    have hspan : Moment.inSpan now.instant = true := by
      rw [hnow]
      exact HttpDate.inSpan_of_le_latest ((Nat.le_add_right T n).trans hlast)
    have hheader : "a=b; Expires=".toList ++ HttpDate.expiry now n
        = ['a', '=', 'b'] ++ ';' :: expiresSegment now n := rfl
    rw [hheader]
    exact parse_expiresSegment hnot hpair hspan (secondsUntil_own_expiry hnow hfirst hlast)

/-- An age of a thousand million seconds at 10:18:14 in UTC on the 9th of June 2025, on
    a clock two hours ahead. -/
theorem age_of_expires_decades :
    let now : Moment := ⟨63885068294000000, some 7200000000⟩
    now.instant = (63885061094 : Nat) * Moment.micros ∧
      Calendar.daysBeforeYear 100 * 86400 ≤ 63885061094 ∧
      63885061094 + 1000000000 ≤ HttpDate.latest ∧
      ∃ text, ExpiresText { ofText ['c'] ['d'] with maxAge := 1000000000 } now text ∧
        parse (String.ofList ("a=b; Expires=".toList ++ text)) (.ok now)
          = ⟨[], .ok { ofText ['a'] ['b'] with maxAge := 1000000000 }⟩ := by
  intro now
  have hnow : now.instant = (63885061094 : Nat) * Moment.micros := by decide
  have hfirst : Calendar.daysBeforeYear 100 * 86400 ≤ 63885061094 := by decide
  have hlast : 63885061094 + 1000000000 ≤ HttpDate.latest := by decide
  obtain ⟨text, htext, hparse⟩ := age_of_expires hnow hfirst hlast
  exact ⟨hnow, hfirst, hlast, text, (htext _ rfl text).mpr rfl, hparse⟩

end HttpExchange.Cookie
