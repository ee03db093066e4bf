import HttpExchange.Proofs.Cookie.ExpiryDates
import HttpExchange.Proofs.Cookie.RoundTrip

/-! # Normal headers

    Whatever a header looks like, the cookie that is read from it has text in
    its text fields, version 0 or 1, and an age that is -1 or not negative and
    has no more digits than are read.  So the cookie can be written, and if no
    quotes stand in the header, nothing stands around its texts that reading
    takes off.  Only the comment of a cookie of version 0 is not written: the
    header that is written is normal, because writing what is read from it
    gives it again.

    * `isTyped_of_parse` is what all cookies that are read have in common;
    * `parse_headerString_of_parse` is the normal form of a header. -/

namespace HttpExchange.Cookie

open Text

variable {now : Reading} {c : Cookie} {header : String} {others : List (List Char)}

/-! ## The cookies that are read -/

/-- What is found last was read from some value. -/
theorem exists_of_last? {α : Type} {read : List Char → Option α} {k : Keyword} {a : α}
    (h : last? read k others = some a) : ∃ value, read value = some a := by
  rw [last?] at h
  obtain ⟨value, -, hvalue⟩ := List.mem_filterMap.mp (List.mem_of_getLast? h)
  exact ⟨value, hvalue⟩

theorem exists_of_last?_toOption {ε α : Type} {read : List Char → Except ε α} {k : Keyword} {a : α}
    (h : last? (fun value => (read value).toOption) k others = some a) :
    ∃ value, read value = .ok a := by
  obtain ⟨value, hvalue⟩ := exists_of_last? h
  cases hread : read value with
  | error fault =>
      rw [hread] at hvalue
      exact nomatch hvalue
  | ok b =>
      rw [hread] at hvalue
      exact ⟨value, hread.trans (congrArg Except.ok (Option.some.inj hvalue))⟩

theorem of_readVersion {cs : List Char} {n : Int} (h : readVersion cs = some n) :
    n = 0 ∨ n = 1 := by
  rw [readVersion] at h
  split at h
  · split at h
    · next hn => exact Option.some.inj h ▸ hn
    · exact nomatch h
  · exact nomatch h

theorem lt_pow_digitLimit {n : Int} (h : n < 10 ^ 12) : n < 10 ^ Integer.digitLimit := by
  have hpower : 10 ^ 12 ≤ 10 ^ Integer.digitLimit := Nat.pow_le_pow_right (by decide) (by decide)
  have hcast : ((10 ^ 12 : Nat) : Int) ≤ ((10 ^ Integer.digitLimit : Nat) : Int) :=
    Int.ofNat_le.mpr hpower
  rw [natCast_pow_digitLimit] at hcast
  exact Int.lt_of_lt_of_le h hcast

/-- The version that segments describe. -/
theorem version_described (now : Reading) (name value : List Char) (others : List (List Char)) :
    (described now name value others).version = .int 0 ∨
      (described now name value others).version = .int 1 := by
  rw [described]
  dsimp only
  cases hlast : last? readVersion .version others with
  | none => exact Or.inl rfl
  | some n =>
      obtain ⟨cs, hread⟩ := exists_of_last? hlast
      rcases of_readVersion hread with rfl | rfl
      · exact Or.inl rfl
      · exact Or.inr rfl

/-- The age that segments describe: every number and every expiry date is
    bounded. -/
theorem maxAge_described_bounds (now : Reading) (name value : List Char)
    (others : List (List Char)) :
    -1 ≤ (described now name value others).maxAge ∧
      (described now name value others).maxAge < 10 ^ Integer.digitLimit := by
  rw [described]
  dsimp only
  cases hage : last? (fun value => (Integer.read value).toOption) .maxAge others with
  | some n =>
      obtain ⟨cs, hread⟩ := exists_of_last?_toOption hage
      have hbound := Integer.natAbs_lt_of_read hread
      have hcast := natCast_pow_digitLimit
      dsimp only
      constructor <;> omega
  | none =>
      cases hdate : last? (fun value => (secondsUntil now value).toOption) .expires others with
      | none => exact ⟨Int.le_refl _, lt_pow_digitLimit (by decide)⟩
      | some seconds =>
          obtain ⟨cs, hread⟩ := exists_of_last?_toOption hdate
          obtain ⟨hpos, hbound⟩ := secondsUntil_bounds hread
          exact ⟨Int.le_trans (by decide) hpos, lt_pow_digitLimit hbound⟩

/-- **Every cookie that is read** holds text where it is meant to, and an age
    within bounds. -/
theorem isTyped_of_parse (h : (parse header now).result = .ok c) : c.IsTyped ∧ -1 ≤ c.maxAge := by
  obtain ⟨name, value, -, rfl⟩ := exists_described_of_parse h
  obtain ⟨hpos, hbound⟩ := maxAge_described_bounds now name value (segments ';' header.toList).2
  exact ⟨⟨⟨_, rfl⟩, ⟨_, rfl⟩, ⟨_, rfl⟩, ⟨_, rfl⟩, ⟨_, rfl⟩, ⟨_, rfl⟩, version_described _ _ _ _,
    hbound⟩, hpos⟩

/-- **Every cookie that is read can be written.** -/
theorem written_of_parse (h : (parse header now).result = .ok c) (moment : Option Moment) :
    c.written moment = .ok (c.headerString moment) :=
  written_of_isTyped (isTyped_of_parse h).1 moment

/-! ## Headers without quotes -/

/-- Without quotes and semicolons, what is read from a text can stand in a
    part. -/
theorem isBare_bare {text : List Char} (hquote : '"' ∉ text) (hsemicolon : ';' ∉ text) :
    IsBare (bare text) := by
  have hnot : ¬ IsQuoted (trim text) :=
    fun hquoted => hquote (mem_of_mem_trim (List.mem_of_head? hquoted.2.1))
  have htrim : bare text = trim text := unquote_of_not_isQuoted hnot
  rw [htrim]
  exact ⟨fun hmem => hsemicolon (mem_of_mem_trim hmem), trim_trim text, hnot⟩

/-- A text that can stand in a part is read as it is. -/
theorem Holds.reread {v : Value} (h : Holds IsBare v) :
    Value.str (String.ofList (bare v.text)) = v := by
  obtain ⟨s, rfl, hs⟩ := h
  rw [Value.text_str, (bare_eq_self_iff _).mpr hs.2, String.ofList_toList]

theorem Holds.semicolon_not_mem {v : Value} (h : Holds IsBare v) : ';' ∉ v.text := by
  obtain ⟨s, rfl, hs⟩ := h
  exact hs.1

/-- A cookie that was read without quotes comes back but for a comment that is
    not written. -/
theorem reread_eq (hc : c.IsTyped) (hage : -1 ≤ c.maxAge)
    (hname : Holds (fun name => trim name = name) c.name) (hvalue : Holds IsBare c.value)
    (hfields : TextFields IsBare c) :
    c.reread = if c.isVersionOne then c else { c with comment := .str "" } := by
  obtain ⟨name, hname, htrim⟩ := hname
  have hnameText : Value.str (String.ofList (trim c.name.text)) = c.name := by
    rw [hname, Value.text_str, htrim, String.ofList_toList]
  have hversion : Value.int (if c.isVersionOne then 1 else 0) = c.version := by
    rcases hc.version with h | h
    · rw [isVersionOne, h]
      rfl
    · rw [isVersionOne, h]
      rfl
  have hseconds : (if c.maxAge < 0 then -1 else c.maxAge) = c.maxAge := by
    split <;> omega
  rw [Cookie.reread, hnameText, hversion, hvalue.reread, hfields.domain.reread,
    hfields.path.reread, hfields.priority.reread, hseconds]
  by_cases hone : c.isVersionOne = true
  · rw [if_pos hone, if_pos hone, hfields.comment.reread]
  · rw [if_neg hone, if_neg hone]

/-- The comment of a cookie of version 0 is not written. -/
theorem headerString_comment (hversion : c.isVersionOne = false) (comment : Value) :
    headerString { c with comment } none = c.headerString none := by
  have hcopy : isVersionOne { c with comment } = false := hversion
  rw [headerString, header, parts, headerString, header, parts, hcopy, hversion]
  rfl

/-- **Headers without quotes have a normal form.**  What is read from such a
    header is written as a header that gives it back, at any moment and without
    a record; only the comment of a cookie of version 0 is lost.  Written
    again, it is the same header. -/
theorem parse_headerString_of_parse (hquote : '"' ∉ header.toList)
    (h : (parse header now).result = .ok c) (now' : Reading) :
    ∃ e, parse (c.headerString none) now' = ⟨[], .ok e⟩ ∧
      (c.version = .int 0 ∧ e = { c with comment := .str "" } ∨ c.version = .int 1 ∧ e = c) ∧
      e.headerString none = c.headerString none := by
  obtain ⟨hc, hage⟩ := isTyped_of_parse h
  have hbare : Holds IsBare c.value ∧ TextFields IsBare c := by
    refine texts_of_parse ?_ h
    intro text hsub hsemicolon
    exact isBare_bare (fun hmem => hquote (hsub _ hmem)) hsemicolon
  obtain ⟨hvalue, hfields⟩ := hbare
  obtain ⟨name, hname, hne, htrim, hequals, hsemicolon⟩ := name_of_parse h
  have htext : c.name.text = name.toList := by rw [hname, Value.text_str]
  have hflat : c.IsFlat := by
    refine ⟨htext ▸ hsemicolon, hvalue.semicolon_not_mem, hfields.domain.semicolon_not_mem,
      hfields.path.semicolon_not_mem, hfields.priority.semicolon_not_mem, ?_⟩
    intro _
    exact hfields.comment.semicolon_not_mem
  refine ⟨c.reread, parse_headerString hc hflat (htext ▸ hequals) ?_, ?_⟩
  · rw [htext, htrim]
    exact hne
  · rw [reread_eq hc hage ⟨name, hname, htrim⟩ hvalue hfields]
    by_cases hone : c.isVersionOne = true
    · rw [if_pos hone]
      exact ⟨Or.inr ⟨(isVersionOne_iff hc).mp hone, rfl⟩, rfl⟩
    · rw [if_neg hone]
      have hzero : c.version = .int 0 :=
        hc.version.resolve_right (fun h => hone ((isVersionOne_iff hc).mpr h))
      exact ⟨Or.inl ⟨hzero, rfl⟩, headerString_comment (Bool.eq_false_iff.mpr hone) (.str "")⟩

/-- A header with blanks, a sign and an underscore in a number, an attribute
    that is unknown and one without a key. -/
theorem parse_headerString_of_parse_lenient :
    '"' ∉ " id = 7 ;Max-Age= +1_0; =x; SECURE=no; Foo; Comment=a; Path=/a; Path=/b".toList ∧
      ∃ c, (parse " id = 7 ;Max-Age= +1_0; =x; SECURE=no; Foo; Comment=a; Path=/a; Path=/b"
          (.ok ⟨0, none⟩)).result = .ok c ∧
        c.headerString none = "id=7; Path=/b; Max-Age=10; Secure" ∧
        ∃ e, parse "id=7; Path=/b; Max-Age=10; Secure" (.ok ⟨0, none⟩) = ⟨[], .ok e⟩ ∧
          e.headerString none = "id=7; Path=/b; Max-Age=10; Secure" := by
  have hquote : '"' ∉
      " id = 7 ;Max-Age= +1_0; =x; SECURE=no; Foo; Comment=a; Path=/a; Path=/b".toList := by
    decide
  have h : (parse " id = 7 ;Max-Age= +1_0; =x; SECURE=no; Foo; Comment=a; Path=/a; Path=/b"
      (.ok ⟨0, none⟩)).result = .ok { ofText ['i', 'd'] ['7'] with
        comment := .str "a", path := .str "/b", maxAge := 10, secure := true } := rfl
  obtain ⟨e, he, -, hheader⟩ := parse_headerString_of_parse hquote h (.ok ⟨0, none⟩)
  have hwritten : headerString { ofText ['i', 'd'] ['7'] with
      comment := .str "a", path := .str "/b", maxAge := 10, secure := true } none
      = "id=7; Path=/b; Max-Age=10; Secure" := by decide
  rw [hwritten] at he hheader
  exact ⟨hquote, _, h, hwritten, e, he, hheader⟩

end HttpExchange.Cookie
