import HttpExchange.Proofs.Cookie.ExpirySegments
import HttpExchange.Proofs.Cookie.Normalization

/-! # Headers with an expiry date

    A cookie that comes back from its header also comes back from its header
    at any moment: the expiry date is one more segment, and behind the age it
    counts for nothing.  Without that segment the header is the one without a
    moment.

    * `isTyped_of_equal` is the typed cookie that a cookie is written as;
    * `parse_dated` is what comes back;
    * `dated_header_returns` puts this together. -/

namespace HttpExchange.Cookie

open Text

variable {now : Reading} {c e : Cookie} {n m : Moment}

/-! ## The parts that are no expiry dates -/

/-- Has the segment another keyword than an expiry date? -/
def isUndated (segment : List Char) : Bool := keyword segment ≠ Keyword.expires.word.toList

theorem undated_valued {key : String} (hkey : IsKey key.toList)
    (hword : lower key.toList ≠ Keyword.expires.word.toList) (value : List Char) :
    isUndated (' ' :: valued key value) = true := by
  rw [isUndated, keyword, keyOf_valued hkey]
  exact decide_eq_true hword

theorem undated_key {key : String} (hkey : IsKey key.toList)
    (hword : lower key.toList ≠ Keyword.expires.word.toList) :
    isUndated (' ' :: key.toList) = true := by
  rw [isUndated, keyword, keyOf, partition_of_not_mem hkey.not_mem_cons, hkey.trim_cons]
  exact decide_eq_true hword

/-- **No part of a header without a moment is an expiry date.** -/
theorem undated_of_mem_attributeParts (c : Cookie) :
    ∀ part ∈ c.attributeParts none, isUndated (' ' :: part) = true := by
  intro part hpart
  cases isPart_of_mem hpart with
  | comment => exact undated_valued (by decide) (by decide) _
  | domain => exact undated_valued (by decide) (by decide) _
  | path => exact undated_valued (by decide) (by decide) _
  | maxAge => exact undated_valued (by decide) (by decide) _
  | secure => exact undated_key (by decide) (by decide)
  | httpOnly => exact undated_key (by decide) (by decide)
  | priority => exact undated_valued (by decide) (by decide) _
  | sameSite => exact undated_valued (by decide) (by decide) _
  | version => exact undated_valued (by decide) (by decide) _

/-! ## The segments of a header -/

/-- The semicolons of a flat cookie stand between its parts at any moment. -/
theorem IsFlat.not_mem_dated (h : c.IsFlat) (now : Option Moment) :
    ∀ part ∈ c.attributeParts now, ';' ∉ part := by
  intro part hpart
  cases now with
  | none => exact h.not_mem_attributeParts part hpart
  | some n =>
      by_cases hage : c.maxAge < 0
      · rw [attributeParts_of_neg hage] at hpart
        exact h.not_mem_attributeParts part hpart
      · obtain ⟨front, back, -, hnone, hsome⟩ := attributeParts_expires (Int.not_lt.mp hage) n
        have hundated := h.not_mem_attributeParts
        rw [hnone] at hundated
        rw [hsome] at hpart
        rcases List.mem_append.mp hpart with hfront | hback
        · exact hundated part (List.mem_append_left _ hfront)
        · rcases List.mem_cons.mp hback with rfl | hback
          · exact not_mem_valued (by decide) (semicolon_not_mem_expiry n c.maxAge)
          · exact hundated part (List.mem_append_right _ hback)

theorem IsFlat.segments_header (h : c.IsFlat) (now : Option Moment) :
    segments ';' (c.header now) = (c.pair, (c.attributeParts now).map (' ' :: ·)) := by
  rw [header, parts_eq]
  exact segments_intercalate (by decide) _ _ h.not_mem_pair (h.not_mem_dated now)

/-- A header without its expiry dates. -/
def withoutExpiry (header : List Char) : List Char :=
  [';'].intercalate ((segments ';' header).1 :: (segments ';' header).2.filter isUndated)

/-- **Without its expiry date a header is the one without a moment.** -/
theorem withoutExpiry_header (h : c.IsFlat) (n : Moment) :
    withoutExpiry (c.header (some n)) = c.header none := by
  have hkept : ∀ parts : List (List Char), (∀ part ∈ parts, isUndated (' ' :: part) = true) →
      (parts.map (' ' :: ·)).filter isUndated = parts.map (' ' :: ·) := by
    intro parts hparts
    refine List.filter_eq_self.mpr ?_
    intro segment hsegment
    obtain ⟨part, hpart, rfl⟩ := List.mem_map.mp hsegment
    exact hparts part hpart
  have hundated := undated_of_mem_attributeParts c
  have hfilter : ((c.attributeParts (some n)).map (' ' :: ·)).filter isUndated
      = (c.attributeParts none).map (' ' :: ·) := by
    by_cases hage : c.maxAge < 0
    · rw [attributeParts_of_neg hage]
      exact hkept _ hundated
    · obtain ⟨front, back, -, hnone, hsome⟩ := attributeParts_expires (Int.not_lt.mp hage) n
      have hdropped : ¬ isUndated (expiresSegment n c.maxAge) = true := by
        rw [isUndated, keyword_expiresSegment]
        decide
      rw [hnone] at hundated
      rw [hsome, hnone, List.map_append, List.map_cons, List.map_append, List.filter_append]
      show _ ++ (expiresSegment n c.maxAge :: back.map _).filter isUndated = _
      rw [List.filter_cons_of_neg hdropped, ← List.filter_append, ← List.map_append]
      exact hkept _ hundated
  rw [withoutExpiry, h.segments_header]
  dsimp only
  rw [hfilter, intercalate_blanks, header, parts_eq]

/-- There is an expiry date if and only if there is an age. -/
theorem occurs_expires_header (h : c.IsFlat) (n : Moment) :
    occurs .expires (segments ';' (c.header (some n))).2 = decide (0 ≤ c.maxAge) := by
  rw [h.segments_header]
  by_cases hage : c.maxAge < 0
  · rw [attributeParts_of_neg hage, decide_eq_false (Int.not_le.mpr hage)]
    rw [occurs, List.any_map, List.any_eq_false]
    intro part hpart
    rw [Function.comp_apply, decide_eq_true_eq]
    exact of_decide_eq_true (undated_of_mem_attributeParts c part hpart)
  · obtain ⟨front, back, -, -, hsome⟩ := attributeParts_expires (Int.not_lt.mp hage) n
    rw [hsome, decide_eq_true (Int.not_lt.mp hage), occurs, List.any_eq_true]
    refine ⟨expiresSegment n c.maxAge, ?_, decide_eq_true (keyword_expiresSegment n c.maxAge)⟩
    exact List.mem_map_of_mem (List.mem_append_right _ List.mem_cons_self)

/-! ## What comes back -/

/-- **A flat cookie comes back at any moment as what it comes back as without
    one.** -/
theorem parse_dated (hc : c.IsTyped) (hflat : c.IsFlat) (hname : '=' ∉ c.name.text)
    (hne : trim c.name.text ≠ []) (n : Moment) (hm : Moment.inSpan m.instant = true) :
    parse (c.headerString (some n)) (.ok m) = ⟨[], .ok c.reread⟩ := by
  have hnone : parse (c.headerString none) (.ok m) = ⟨[], .ok c.reread⟩ :=
    parse_headerString hc hflat hname hne
  by_cases hage : c.maxAge < 0
  · rw [headerString, header, parts_eq, attributeParts_of_neg hage]
    exact hnone
  · have hpos : 0 ≤ c.maxAge := Int.not_lt.mp hage
    obtain ⟨front, back, hmem, hundated, hdated⟩ := attributeParts_expires hpos n
    have hsegments : ∀ now, segments ';' (c.headerString now).toList
        = (c.pair, (c.attributeParts now).map (' ' :: ·)) := by
      intro now
      rw [headerString, String.toList_ofList, hflat.segments_header]
    have hothers : (segments ';' (c.headerString none).toList).2
        = front.map (' ' :: ·) ++ back.map (' ' :: ·) := by
      rw [hsegments, hundated, List.map_append]
    have hothers' : (segments ';' (c.headerString (some n)).toList).2
        = front.map (' ' :: ·) ++ expiresSegment n c.maxAge :: back.map (' ' :: ·) := by
      rw [hsegments, hdated, List.map_append]
      rfl
    -- the age is in front of the date, and it can be read
    obtain ⟨age, hread⟩ : ∃ age, last? (fun value => (Integer.read value).toOption) .maxAge
        (front.map (' ' :: ·) ++ back.map (' ' :: ·)) = some age := by
      have hsegment := List.mem_append_left (back.map (' ' :: ·))
        (List.mem_map_of_mem (f := (' ' :: ·)) hmem)
      have hkeyword : keyword (' ' :: valued "Max-Age" (Integer.write c.maxAge))
          = Keyword.maxAge.word.toList := by
        rw [keyword, keyOf_valued (by decide)]
        decide
      refine exists_last? hsegment hkeyword (a := c.maxAge) ?_
      rw [valueOf_valued (by decide), read_bare_write hpos hc.maxAge]
      rfl
    exact parse_insert_of_age hm (by rw [hsegments, hsegments]) hothers hothers' hread hnone

/-! ## Cookies that come back -/

/-- What a string is equal to is text. -/
theorem Holds.isText {P : List Char → Prop} {v w : Value} (h : Holds P v)
    (heq : v.equal w = true) : IsText w := by
  obtain ⟨s, rfl, -⟩ := h
  cases w with
  | str t => exact ⟨t, rfl⟩
  | sameSite t => exact ⟨t.word, rfl⟩
  | _ => exact absurd heq Bool.false_ne_true

/-- What an integer is equal to is equal to no other one. -/
theorem equal_int_of_equal {k : Int} {v : Value} (h : (Value.int k).equal v = true) (i : Int) :
    v.equal (.int i) = (k == i) := by
  cases v with
  | bool b =>
      rw [Value.equal, beq_iff_eq] at h
      rw [Value.equal, h]
  | int j =>
      rw [Value.equal, beq_iff_eq] at h
      rw [Value.equal, h]
  | float x =>
      rw [Value.equal, Value.floatIsInt, beq_iff_eq] at h
      rw [Value.equal, Value.floatIsInt, h]
      rfl
  | _ => exact absurd h Bool.false_ne_true

/-- **A cookie that is equal to one that was read is written as a typed
    cookie**: itself with the version as a number. -/
theorem isTyped_of_equal {header : String} (he : (parse header now).result = .ok e)
    (heq : e.equal c = true) :
    IsTyped { c with version := e.version } ∧ e.equal { c with version := e.version } = true ∧
      ∀ n, parts { c with version := e.version } n = c.parts n := by
  obtain ⟨htyped, -⟩ := isTyped_of_parse he
  have hfields := textFields_of_parse he
  simp only [equal, Bool.and_eq_true, beq_iff_eq] at heq ⊢
  obtain ⟨⟨⟨⟨⟨⟨⟨⟨⟨⟨hversion, hname⟩, hvalue⟩, hcomment⟩, hdomain⟩, hpath⟩, hpriority⟩, hsecure⟩,
    hage⟩, hhttpOnly⟩, hsameSite⟩ := heq
  obtain ⟨k, hk⟩ : ∃ k, e.version = .int k :=
    htyped.version.elim (fun h => ⟨0, h⟩) (fun h => ⟨1, h⟩)
  have hself : e.version.equal e.version = true := by
    rw [hk, Value.equal, beq_iff_eq]
  have hone : isVersionOne { c with version := e.version } = c.isVersionOne := by
    rw [isVersionOne, isVersionOne, hk, Value.equal]
    rw [hk] at hversion
    exact (equal_int_of_equal hversion 1).symm
  refine ⟨⟨(name_of_parse he).isText hname, (value_of_parse he).isText hvalue,
    hfields.comment.isText hcomment, hfields.domain.isText hdomain, hfields.path.isText hpath,
    hfields.priority.isText hpriority, htyped.version, hage ▸ htyped.maxAge⟩, ?_, ?_⟩
  · exact ⟨⟨⟨⟨⟨⟨⟨⟨⟨⟨hself, hname⟩, hvalue⟩, hcomment⟩, hdomain⟩, hpath⟩, hpriority⟩, hsecure⟩,
      hage⟩, hhttpOnly⟩, hsameSite⟩
  · intro n
    rw [parts, parts, hone]
    rfl

/-- **The expiry date changes nothing.**  A cookie that comes back from its
    header comes back from its header at any moment, to a reader whose own
    moment lies in the years 1 to 9999.  There is an expiry date in that header
    if and only if there is an age, and without it the header is the one
    without a moment. -/
theorem dated_header_returns (he : (parse (c.headerString none) now).result = .ok e)
    (heq : e.equal c = true) (n : Moment) :
    (∀ m : Moment, Moment.inSpan m.instant = true →
      parse (c.headerString (some n)) (.ok m) = ⟨[], .ok e⟩ ∧ e.equal c = true) ∧
    withoutExpiry (c.header (some n)) = c.header none ∧
    occurs .expires (segments ';' (c.header (some n))).2 = decide (0 ≤ c.maxAge) := by
  obtain ⟨hd, hequal, hparts⟩ := isTyped_of_equal he heq
  have hheader : ∀ n, header { c with version := e.version } n = c.header n :=
    fun n => congrArg ([';', ' '].intercalate ·) (hparts n)
  have hstring : ∀ n, headerString { c with version := e.version } n = c.headerString n :=
    fun n => congrArg String.ofList (hheader n)
  rw [← hstring] at he
  obtain ⟨hflat, hne, htrim, hequals, -⟩ := isFlat_of_parse hd he hequal
  have hname := htrim.symm ▸ hne
  have hreread : reread { c with version := e.version } = e := by
    rw [parse_headerString hd hflat hequals hname] at he
    exact Except.ok.inj he
  refine ⟨?_, ?_, ?_⟩
  · intro m hm
    rw [← hstring, parse_dated hd hflat hequals hname n hm, hreread]
    exact ⟨rfl, heq⟩
  · rw [← hheader, ← hheader]
    exact withoutExpiry_header hflat n
  · rw [← hheader]
    exact occurs_expires_header hflat n

/-- A cookie of version 1 that is written when it is still year 0 in UTC, and read at
    the start of 1970. -/
theorem dated_header_returns_version_one :
    ∃ c : Cookie, c.headerString none = "id=7; Comment=a b; Max-Age=60; Secure; Version=1" ∧
      (parse (c.headerString none) (.ok ⟨0, none⟩)).result = .ok c ∧ c.equal c = true ∧
      Moment.inSpan (⟨62135596800000000, none⟩ : Moment).instant = true ∧
      parse (c.headerString (some ⟨0, some 3600000000⟩)) (.ok ⟨62135596800000000, none⟩)
        = ⟨[], .ok c⟩ := by
  have hheader : headerString { ofText ['i', 'd'] ['7'] with
      version := .int 1, comment := .str "a b", maxAge := 60, secure := true } none
      = "id=7; Comment=a b; Max-Age=60; Secure; Version=1" := by decide
  have he : (parse "id=7; Comment=a b; Max-Age=60; Secure; Version=1" (.ok ⟨0, none⟩)).result
      = .ok { ofText ['i', 'd'] ['7'] with
        version := .int 1, comment := .str "a b", maxAge := 60, secure := true } := rfl
  have heq : equal { ofText ['i', 'd'] ['7'] with
      version := .int 1, comment := .str "a b", maxAge := 60, secure := true }
      { ofText ['i', 'd'] ['7'] with
        version := .int 1, comment := .str "a b", maxAge := 60, secure := true } = true := by decide
  have hm : Moment.inSpan (⟨62135596800000000, none⟩ : Moment).instant = true := by decide
  rw [← hheader] at he
  obtain ⟨hreturns, -, -⟩ := dated_header_returns he heq ⟨0, some 3600000000⟩
  exact ⟨_, hheader, he, heq, hm, (hreturns _ hm).1⟩

end HttpExchange.Cookie
