import HttpExchange.Proofs.Cookie.HeaderReading
import HttpExchange.Proofs.Cookie.HeaderWriting
import Mathlib.Algebra.Group.Int.Defs

/-! # Which cookies survive writing and reading

    A cookie whose texts hold no semicolon is read back part by part; what
    comes back are its texts without the blanks and the quotes around them,
    the comment of a cookie of version 1, and the age unless it is negative.
    So a cookie comes back as it was when its texts have nothing around them
    and it holds nothing that is not written, and these cookies are the only
    ones: a text with a semicolon cannot come back, whatever attributes it
    smuggles in, because no field of a cookie that was read holds one. -/

namespace HttpExchange.Cookie

open Text

variable {now : Reading} {c : Cookie} {d : Draft}

/-! ## The cookies in question -/

/-- A cookie whose fields are of the kind that they are meant for: the texts
    are text, the version is the number 0 or 1, and the age has no more digits
    than are read. -/
structure IsTyped (c : Cookie) : Prop where
  name : IsText c.name
  value : IsText c.value
  comment : IsText c.comment
  domain : IsText c.domain
  path : IsText c.path
  priority : IsText c.priority
  version : c.version = .int 0 ∨ c.version = .int 1
  maxAge : c.maxAge < 10 ^ Integer.digitLimit

theorem natCast_pow_digitLimit :
    ((10 ^ Integer.digitLimit : Nat) : Int) = 10 ^ Integer.digitLimit := by
  push_cast
  rfl

/-- **Typed cookies can be written.** -/
theorem written_of_isTyped (hc : c.IsTyped) (now : Option Moment) :
    c.written now = .ok (c.headerString now) := by
  have htext {v : Value} (h : IsText v) : v.isWritable = true := by
    rcases h.cases with ⟨s, rfl⟩ | ⟨s, rfl⟩ <;> rfl
  have hage : (c.maxAge < 0 || Integer.isWritable c.maxAge) = true := by
    have hbound := hc.maxAge
    have hcast := natCast_pow_digitLimit
    have hpower (n : Nat) : tenTo n = 10 ^ n := rfl
    rw [Bool.or_eq_true, decide_eq_true_eq, Integer.isWritable, decide_eq_true_eq, hpower]
    omega
  refine if_pos ?_
  simp only [isWritable, htext hc.name, htext hc.value, htext hc.comment, htext hc.domain,
    htext hc.path, htext hc.priority, hage, Bool.or_true, Bool.and_self]

/-- A text that can stand in a part: it does not end the part, and nothing
    stands around it that reading takes off. -/
def IsBare (cs : List Char) : Prop := ';' ∉ cs ∧ trim cs = cs ∧ ¬ IsQuoted cs

instance : DecidablePred IsBare := fun cs =>
  inferInstanceAs (Decidable (';' ∉ cs ∧ trim cs = cs ∧ ¬ IsQuoted cs))

/-- A cookie that says all of itself in its header. -/
structure WellFormed (c : Cookie) : Prop where
  name_ne_nil : c.name.text ≠ []
  trim_name : trim c.name.text = c.name.text
  equals_not_mem_name : '=' ∉ c.name.text
  semicolon_not_mem_name : ';' ∉ c.name.text
  value : IsBare c.value.text
  domain : IsBare c.domain.text
  path : IsBare c.path.text
  priority : IsBare c.priority.text
  comment : IsBare c.comment.text
  maxAge : -1 ≤ c.maxAge
  comment_eq_nil : c.version ≠ .int 1 → c.comment.text = []

/-! ## What comes back -/

/-- What a cookie comes back as, in text. -/
def reread (c : Cookie) : Cookie where
  version := .int (if c.isVersionOne then 1 else 0)
  name := .str (String.ofList (trim c.name.text))
  value := .str (String.ofList (bare c.value.text))
  comment := .str (String.ofList (if c.isVersionOne then bare c.comment.text else []))
  domain := .str (String.ofList (bare c.domain.text))
  path := .str (String.ofList (bare c.path.text))
  priority := .str (String.ofList (bare c.priority.text))
  secure := c.secure
  maxAge := if c.maxAge < 0 then -1 else c.maxAge
  httpOnly := c.httpOnly
  sameSite := c.sameSite

/-- An unset text attribute changes nothing, a set one is read. -/
theorem turns_textPart (key : String) {v : Value} (make : String → Attribute)
    (hkey : IsKey key.toList) (hv : IsText v)
    (hread : ∀ value, Attribute.read now key.toList value = .ok (make (String.ofList (bare value))))
    (hunset : d.apply (make "") = d) :
    Turns now (textPart key v) d (d.apply (make (String.ofList (bare v.text)))) := by
  rw [textPart]
  by_cases h : v.truthy = true
  · rw [if_pos h]
    refine turns_valued key hkey ?_ d
    rw [hread, bare_trim]
  · rw [if_neg h]
    have hempty : v.text = [] := by
      by_contra hne
      exact h (hv.truthy_iff.mpr hne)
    rw [hempty, show String.ofList (bare []) = "" from rfl, hunset]
    exact Turns.nil d

/-- A flag that is not set changes nothing, a set one is read. -/
theorem turns_flagPart (key : String) {a : Attribute} {flag : Bool} {e : Draft}
    (hkey : IsKey key.toList) (hread : Attribute.read now key.toList [] = .ok a)
    (hset : flag = true → d.apply a = e) (hunset : flag = false → d = e) :
    Turns now (flagPart key flag) d e := by
  cases flag with
  | true =>
      rw [← hset rfl]
      exact turns_key key hkey hread d
  | false =>
      rw [← hunset rfl]
      exact Turns.nil d

theorem turns_secure (flag : Bool) (hunset : d.cookie.secure = false) :
    Turns now (flagPart "Secure" flag) d { d with cookie := { d.cookie with secure := flag } } := by
  refine turns_flagPart "Secure" (a := .secure) (by decide) rfl ?_ ?_
  · intro h
    rw [h]
    rfl
  · intro h
    rw [h, ← hunset]

theorem turns_httpOnly (flag : Bool) (hunset : d.cookie.httpOnly = false) :
    Turns now (flagPart "HttpOnly" flag) d
      { d with cookie := { d.cookie with httpOnly := flag } } := by
  refine turns_flagPart "HttpOnly" (a := .httpOnly) (by decide) rfl ?_ ?_
  · intro h
    rw [h]
    rfl
  · intro h
    rw [h, ← hunset]

/-- The comment of a cookie of version 1 is read, any other is not written. -/
theorem turns_comment (hcomment : IsText c.comment) (hunset : d.apply (.comment "") = d) :
    Turns now (if c.isVersionOne then textPart "Comment" c.comment else []) d
      (d.apply (.comment
        (String.ofList (if c.isVersionOne then bare c.comment.text else [])))) := by
  cases c.isVersionOne with
  | true => exact turns_textPart "Comment" .comment (by decide) hcomment (fun _ => rfl) hunset
  | false =>
      show Turns now [] d (d.apply (.comment ""))
      rw [hunset]
      exact Turns.nil d

/-- Version 1 is read, version 0 is not written. -/
theorem turns_version (hunset : d.apply (.version 0) = d) :
    Turns now (if c.isVersionOne then [valued "Version" ['1']] else []) d
      (d.apply (.version (if c.isVersionOne then 1 else 0))) := by
  cases c.isVersionOne with
  | true => exact turns_valued "Version" (by decide) rfl d
  | false =>
      show Turns now [] d (d.apply (.version 0))
      rw [hunset]
      exact Turns.nil d

/-- The digits of a number are read as they are. -/
theorem bare_toDigits (n : Nat) : bare (Nat.toDigits 10 n) = Nat.toDigits 10 n := by
  have hdigits := Integer.isDigits_toDigits n
  refine (bare_eq_self_iff _).mpr ⟨trim_of_not_blank ?_, ?_⟩
  · intro c hc
    exact Integer.isBlank_of_isDigit (hdigits c hc)
  · intro hquoted
    have hmem := List.mem_of_head? hquoted.2.1
    exact absurd (hdigits '"' hmem) (by decide)

/-- An age that is not negative and has no more digits than are read is read
    back. -/
theorem read_bare_write {n : Int} (hn : 0 ≤ n) (hbound : n < 10 ^ Integer.digitLimit) :
    Integer.read (bare (Integer.write n)) = .ok n := by
  have hwrite : Integer.write n = Nat.toDigits 10 n.natAbs := if_neg (by omega)
  have hbare : bare (Integer.write n) = Integer.write n := by
    rw [hwrite]
    exact bare_toDigits _
  have hnat : n.natAbs < 10 ^ Integer.digitLimit := by
    have hcast := natCast_pow_digitLimit
    omega
  rw [hbare, Integer.read_write hnat]

theorem read_maxAge {n : Int} (hn : 0 ≤ n) (hbound : n < 10 ^ Integer.digitLimit) :
    Attribute.read now "Max-Age".toList (trim (Integer.write n)) = .ok (.maxAge n) := by
  show readWith .maxAge "Max-Age" (bare (trim (Integer.write n)))
    (readAge (bare (trim (Integer.write n)))) = _
  rw [bare_trim, readAge, read_bare_write hn hbound]
  show Except.ok (Attribute.maxAge (max 0 n)) = _
  rw [Int.max_eq_right hn]

/-- An age that is not negative is read, a negative one is not written. -/
theorem turns_ageParts (hbound : c.maxAge < 10 ^ Integer.digitLimit)
    (hage : d.cookie.maxAge = -1) (hseen : d.hasAge = false) :
    Turns now (c.ageParts none) d
      { d with
        cookie := { d.cookie with maxAge := if c.maxAge < 0 then -1 else c.maxAge }
        hasAge := decide (0 ≤ c.maxAge) } := by
  rw [ageParts]
  by_cases h : c.maxAge < 0
  · rw [if_pos h, if_pos h, decide_eq_false (by omega), ← hage, ← hseen]
    exact Turns.nil d
  · rw [if_neg h, if_neg h, decide_eq_true (by omega)]
    exact turns_valued "Max-Age" (by decide) (read_maxAge (by omega) hbound) d

theorem read_sameSite (s : SameSite) :
    Attribute.read now "SameSite".toList (trim s.word.toList) = .ok (.sameSite s) := by
  cases s <;> rfl

/-- A SameSite value that is not specified is not written, any other is
    read. -/
theorem turns_sameSitePart (s : SameSite) (hunset : d.cookie.sameSite = .notSpecified) :
    Turns now (sameSitePart s) d { d with cookie := { d.cookie with sameSite := s } } := by
  rw [sameSitePart]
  by_cases h : s = .notSpecified
  · have he : { d with cookie := { d.cookie with sameSite := s } } = d := by
      rw [h, ← hunset]
    rw [if_pos h, he]
    exact Turns.nil d
  · rw [if_neg h]
    exact turns_valued "SameSite" (by decide) (read_sameSite s) d

/-- **The attributes of a cookie are read one after the other** into a cookie
    that has none. -/
theorem turns_attributeParts (hc : c.IsTyped) (name value : List Char) :
    Turns now (c.attributeParts none) (.ofCookie (ofText name value))
      ⟨{ c.reread with name := .str (String.ofList name), value := .str (String.ofList value) },
        decide (0 ≤ c.maxAge), none⟩ := by
  -- each part finds its own field as it is in a cookie without attributes
  have h1 : Turns now _ (.ofCookie (ofText name value)) _ := turns_comment hc.comment rfl
  have h2 := h1.append (turns_textPart "Domain" .domain (by decide) hc.domain (fun _ => rfl) rfl)
  have h3 := h2.append (turns_textPart "Path" .path (by decide) hc.path (fun _ => rfl) rfl)
  have h4 := h3.append (turns_ageParts hc.maxAge rfl rfl)
  have h5 := h4.append (turns_secure c.secure rfl)
  have h6 := h5.append (turns_httpOnly c.httpOnly rfl)
  have h7 := h6.append
    (turns_textPart "Priority" .priority (by decide) hc.priority (fun _ => rfl) rfl)
  have h8 := h7.append (turns_sameSitePart c.sameSite rfl)
  exact h8.append (turns_version rfl)

/-- **What a flat cookie comes back as**: its texts without what stands around
    them, and without a comment unless its version is 1. -/
theorem parse_headerString (hc : c.IsTyped) (hflat : c.IsFlat) (hname : '=' ∉ c.name.text)
    (hne : trim c.name.text ≠ []) :
    parse (c.headerString none) now = ⟨[], .ok c.reread⟩ := by
  have hsegments : segments ';' (c.headerString none).toList
      = (c.pair, (c.attributeParts none).map (' ' :: ·)) := by
    rw [headerString, String.toList_ofList, header, parts_eq]
    exact segments_intercalate (by decide) _ _ hflat.not_mem_pair hflat.not_mem_attributeParts
  have hpair : namedPair? c.pair = some (trim c.name.text, bare c.value.text) := by
    rw [namedPair?, keyValue, pair, partition_append hname]
    dsimp only [Option.map_some]
    rw [if_neg (by rw [List.isEmpty_eq_false_iff.mpr hne]; exact Bool.false_ne_true)]
    rfl
  -- the equals sign of the pair keeps the header from being blank
  have hblank : (trim (c.headerString none).toList).isEmpty = false := by
    have hmem : '=' ∈ (c.headerString none).toList := by
      rw [headerString, String.toList_ofList, header, parts_eq]
      exact mem_intercalate_cons (List.mem_append_right _ List.mem_cons_self) _
    exact List.isEmpty_eq_false_iff.mpr (List.ne_nil_of_mem (mem_trim (by decide) hmem))
  rw [parse, hblank, if_neg Bool.false_ne_true, hsegments]
  dsimp only
  rw [hpair]
  dsimp only
  rw [withAttributes, turns_attributeParts hc]
  rfl

/-! ## Which cookies come back as they were -/

/-- A typed cookie is equal to what it comes back as if and only if nothing
    stands around its texts and it holds nothing that is not written. -/
theorem reread_equal_iff (hc : c.IsTyped) :
    c.reread.equal c = true ↔
      trim c.name.text = c.name.text ∧ bare c.value.text = c.value.text ∧
        (if c.isVersionOne then bare c.comment.text else []) = c.comment.text ∧
        bare c.domain.text = c.domain.text ∧ bare c.path.text = c.path.text ∧
        bare c.priority.text = c.priority.text ∧ -1 ≤ c.maxAge := by
  have hversion : (Value.int (if c.isVersionOne then 1 else 0)).equal c.version = true := by
    rcases hc.version with h | h
    · rw [isVersionOne, h]
      rfl
    · rw [isVersionOne, h]
      rfl
  have hage : (if c.maxAge < 0 then -1 else c.maxAge) = c.maxAge ↔ -1 ≤ c.maxAge := by
    split <;> omega
  simp only [equal, hversion, Bool.and_eq_true, reread, beq_self_eq_true, beq_iff_eq, true_and,
    and_true, hc.name.equal_iff, hc.value.equal_iff, hc.comment.equal_iff, hc.domain.equal_iff,
    hc.path.equal_iff, hc.priority.equal_iff, String.toList_ofList, hage, and_assoc]

theorem Holds.text {P : List Char → Prop} {v w : Value} (h : Holds P v) (hw : IsText w)
    (heq : v.equal w = true) : P w.text := by
  obtain ⟨s, rfl, hs⟩ := h
  rw [← (hw.equal_iff s).mp heq]
  exact hs

/-- **No text of a cookie that comes back as it was holds a semicolon**, since
    no field of a cookie that was read does; and its name is one that was
    read. -/
theorem isFlat_of_parse {header : String} {e : Cookie} (hc : c.IsTyped)
    (he : (parse header now).result = .ok e) (heq : e.equal c = true) :
    c.IsFlat ∧ c.name.text ≠ [] ∧ trim c.name.text = c.name.text ∧ '=' ∉ c.name.text ∧
      ';' ∉ c.comment.text := by
  simp only [equal, Bool.and_eq_true] at heq
  obtain ⟨⟨⟨⟨⟨⟨⟨⟨⟨⟨-, hname⟩, hvalue⟩, hcomment⟩, hdomain⟩, hpath⟩, hpriority⟩, -⟩, -⟩, -⟩, -⟩ :=
    heq
  obtain ⟨hne, htrim, hequals, hsemicolon⟩ := (name_of_parse he).text hc.name hname
  have hfields := textFields_of_parse he
  have hnot := hfields.comment.text hc.comment hcomment
  refine ⟨⟨hsemicolon, ?_, ?_, ?_, ?_, fun _ => hnot⟩, hne, htrim, hequals, hnot⟩
  · exact (value_of_parse he).text hc.value hvalue
  · exact hfields.domain.text hc.domain hdomain
  · exact hfields.path.text hc.path hpath
  · exact hfields.priority.text hc.priority hpriority

theorem WellFormed.isFlat (h : c.WellFormed) : c.IsFlat :=
  ⟨h.semicolon_not_mem_name, h.value.1, h.domain.1, h.path.1, h.priority.1, fun _ => h.comment.1⟩

theorem isVersionOne_iff (hc : c.IsTyped) : c.isVersionOne = true ↔ c.version = .int 1 := by
  rcases hc.version with h | h
  · rw [isVersionOne, h]
    exact iff_of_false Bool.false_ne_true (fun e => nomatch e)
  · rw [isVersionOne, h]
    exact iff_of_true rfl rfl

/-- **A typed cookie comes back as it was if and only if it is well formed.** -/
theorem parse_headerString_iff (hc : c.IsTyped) (now : Reading) :
    (∃ e, (parse (c.headerString none) now).result = .ok e ∧ e.equal c = true) ↔
      c.WellFormed := by
  constructor
  · rintro ⟨e, he, heq⟩
    obtain ⟨hflat, hne, htrim, hequals, hsemicolon⟩ := isFlat_of_parse hc he heq
    -- no text of the cookie ends a part, so what was read is what it comes back as
    rw [parse_headerString hc hflat hequals (htrim.symm ▸ hne)] at he
    rw [← Except.ok.inj he] at heq
    obtain ⟨-, hvalue, hcomment, hdomain, hpath, hpriority, hage⟩ := (reread_equal_iff hc).mp heq
    refine ⟨hne, htrim, hequals, hflat.name, ⟨hflat.value, (bare_eq_self_iff _).mp hvalue⟩,
      ⟨hflat.domain, (bare_eq_self_iff _).mp hdomain⟩,
      ⟨hflat.path, (bare_eq_self_iff _).mp hpath⟩,
      ⟨hflat.priority, (bare_eq_self_iff _).mp hpriority⟩, ⟨hsemicolon, ?_⟩, hage, ?_⟩
    · -- the comment of a cookie of version 0 is not written, so it is empty
      split at hcomment
      · exact (bare_eq_self_iff _).mp hcomment
      · rw [← hcomment]
        decide
    · intro hversion
      rw [if_neg (fun h => hversion ((isVersionOne_iff hc).mp h))] at hcomment
      exact hcomment.symm
  · intro h
    have htrim : trim c.name.text ≠ [] := by
      rw [h.trim_name]
      exact h.name_ne_nil
    refine ⟨c.reread, ?_, (reread_equal_iff hc).mpr ⟨h.trim_name, ?_, ?_, ?_, ?_, ?_, h.maxAge⟩⟩
    · rw [parse_headerString hc h.isFlat h.equals_not_mem_name htrim]
    · exact (bare_eq_self_iff _).mpr h.value.2
    · split
      · exact (bare_eq_self_iff _).mpr h.comment.2
      · next hversion =>
        exact (h.comment_eq_nil (fun e => hversion ((isVersionOne_iff hc).mpr e))).symm
    · exact (bare_eq_self_iff _).mpr h.domain.2
    · exact (bare_eq_self_iff _).mpr h.path.2
    · exact (bare_eq_self_iff _).mpr h.priority.2

/-- A cookie with every attribute comes back, although its value looks like an
    attribute. -/
theorem parse_headerString_every_attribute :
    let c : Cookie := ⟨.int 1, .str "id", .str "a=b, Path", .str "remark", .str "example.com",
      .str "/docs", .str "High", true, 3600, true, .lax⟩
    let now : Reading := .ok ⟨0, none⟩
    c.IsTyped ∧ ∃ e, (parse (c.headerString none) now).result = .ok e ∧ e.equal c = true := by
  intro c now
  have hlimit : ((10 ^ 4 : Nat) : Int) ≤ ((10 ^ Integer.digitLimit : Nat) : Int) :=
    Int.ofNat_le.mpr (Nat.pow_le_pow_right (by decide) (by decide))
  have hage : c.maxAge < 10 ^ Integer.digitLimit := by
    rw [natCast_pow_digitLimit] at hlimit
    exact Int.lt_of_lt_of_le (by decide) hlimit
  have hc : c.IsTyped :=
    ⟨⟨_, rfl⟩, ⟨_, rfl⟩, ⟨_, rfl⟩, ⟨_, rfl⟩, ⟨_, rfl⟩, ⟨_, rfl⟩, Or.inr rfl, hage⟩
  have hbare : IsBare c.value.text ∧ IsBare c.domain.text ∧ IsBare c.path.text ∧
      IsBare c.priority.text ∧ IsBare c.comment.text := by
    decide
  obtain ⟨hvalue, hdomain, hpath, hpriority, hcomment⟩ := hbare
  refine ⟨hc, (parse_headerString_iff hc now).mpr ?_⟩
  exact ⟨by decide, by decide, by decide, by decide, hvalue, hdomain, hpath, hpriority, hcomment,
    by decide, fun h => absurd rfl h⟩

end HttpExchange.Cookie
