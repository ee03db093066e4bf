import HttpExchange.Proofs.Cookie.PairReading
import HttpExchange.Proofs.Percent.RoundTrip
import HttpExchange.Proofs.Value.Mapping

/-! # Cookies with escaped values

    An escaped text holds nothing that ends a part, no blanks and no quotes.
    So whatever the text is, it comes back from the Set-Cookie header and from
    the Cookie header, and changes nothing else that is read from them. -/

namespace HttpExchange

namespace Cookie

open Text

variable {c : Cookie}

/-! ## Escaped texts -/

theorem isBlank_of_isPlain {ch : Char} (h : Percent.IsPlain ch) : isBlank ch = false := by
  obtain ⟨hlow, hhigh, -⟩ := h
  simp only [isBlank, Bool.or_eq_false_iff, Bool.and_eq_false_iff, decide_eq_false_iff_not,
    beq_eq_false_iff_ne]
  omega

/-- **An escaped text can stand in a part.** -/
theorem isBare_escape (v : String) : IsBare (Percent.escape v).toList := by
  have hplain : ∀ ch ∈ (Percent.escape v).toList, Percent.IsPlain ch := by
    intro ch hch
    rw [Percent.escape, String.toList_ofList] at hch
    obtain ⟨b, -, hb⟩ := List.mem_flatMap.mp hch
    exact Percent.isPlain_of_mem_escapeByte hb
  refine ⟨?_, trim_of_not_blank fun ch hch => isBlank_of_isPlain (hplain ch hch), ?_⟩
  · exact fun h => absurd (hplain _ h) (by decide)
  · exact fun h => absurd (hplain _ (List.mem_of_head? h.2.1)) (by decide)

/-! ## Set-Cookie headers -/

/-- A cookie that says all of itself but its value in its header. -/
structure WellAttributed (c : Cookie) : Prop where
  name : IsName c.name.text
  domain : IsBare c.domain.text
  path : IsBare c.path.text
  priority : IsBare c.priority.text
  comment : IsBare c.comment.text
  maxAge : -1 ≤ c.maxAge
  comment_eq_nil : c.version ≠ .int 1 → c.comment.text = []

/-- Such a cookie with an escaped value. -/
def withEscaped (c : Cookie) (v : String) : Cookie := { c with value := .str (Percent.escape v) }

theorem IsTyped.withEscaped (h : c.IsTyped) (v : String) : (c.withEscaped v).IsTyped :=
  ⟨h.name, ⟨_, rfl⟩, h.comment, h.domain, h.path, h.priority, h.version, h.maxAge⟩

theorem WellAttributed.isFlat (h : c.WellAttributed) (v : String) : (c.withEscaped v).IsFlat :=
  ⟨h.name.semicolon_not_mem, (isBare_escape v).1, h.domain.1, h.path.1, h.priority.1,
    fun _ => h.comment.1⟩

/-- Only the value of what a cookie comes back as depends on the text. -/
theorem reread_withEscaped (c : Cookie) (v : String) :
    (c.withEscaped v).reread = c.reread.withEscaped v := by
  have hbare : bare (Percent.escape v).toList = (Percent.escape v).toList :=
    (bare_eq_self_iff _).mpr (isBare_escape v).2
  simp only [reread, withEscaped, Value.text_str, hbare, String.ofList_toList]
  rfl

/-- It comes back as it was. -/
theorem WellAttributed.equal_reread (hc : c.IsTyped) (h : c.WellAttributed) (v : String) :
    (c.reread.withEscaped v).equal (c.withEscaped v) = true := by
  rw [← reread_withEscaped]
  refine (reread_equal_iff (hc.withEscaped v)).mpr ⟨h.name.trim_eq, ?_, ?_, ?_, ?_, ?_, h.maxAge⟩
  · exact (bare_eq_self_iff _).mpr (isBare_escape v).2
  · split
    · exact (bare_eq_self_iff _).mpr h.comment.2
    · next hversion =>
      exact (h.comment_eq_nil
        (fun e => hversion ((isVersionOne_iff (hc.withEscaped v)).mpr e))).symm
  · exact (bare_eq_self_iff _).mpr h.domain.2
  · exact (bare_eq_self_iff _).mpr h.path.2
  · exact (bare_eq_self_iff _).mpr h.priority.2

/-! ## Cookie headers -/

/-- The cookies with names and escaped values. -/
def escapedCookies (pairs : List (String × String)) : List Cookie :=
  pairs.map fun (name, v) => (ofPair (.str name) (.str "")).withEscaped v

theorem pairsOf_escapedCookies {pairs : List (String × String)}
    (hnames : ∀ pair ∈ pairs, IsName pair.1.toList) :
    pairsOf ([';', ' '].intercalate ((escapedCookies pairs).map pair))
      = pairs.map fun (name, v) => (name.toList, (Percent.escape v).toList) := by
  have hparts : (escapedCookies pairs).map pair
      = (pairs.map fun (name, v) => (name.toList, (Percent.escape v).toList)).map
          fun pair => pair.1 ++ '=' :: pair.2 := by
    rw [escapedCookies, List.map_map, List.map_map]
    rfl
  rw [hparts]
  refine pairsOf_joined ?_
  intro part hpart
  obtain ⟨pair, hpair, rfl⟩ := List.mem_map.mp hpart
  exact ⟨hnames pair hpair, isBare_escape pair.2⟩

/-- **Nothing is added and nothing is lost**: what is read from the Cookie header
    are the names with the escaped values. -/
theorem requestMapping_escapedCookies {pairs : List (String × String)} (hdistinct : Distinct pairs)
    (hnames : ∀ pair ∈ pairs, IsName pair.1.toList) :
    requestMapping (String.ofList ([';', ' '].intercalate ((escapedCookies pairs).map pair)))
      = pairs.map fun (name, v) => (name, Percent.escape v) := by
  have hkeys : Distinct (pairs.map fun (name, v) => (name, Percent.escape v)) := by
    rw [Distinct, List.map_map]
    exact hdistinct
  rw [requestMapping, String.toList_ofList, pairsOf_escapedCookies hnames, List.map_map,
    ← hkeys.ofPairs_eq]
  congr 1
  refine List.map_congr_left fun pair _ => ?_
  simp only [Function.comp_apply, String.ofList_toList]

/-- **Escaped values are safe.**  A cookie that says all of itself but its value in
    its header comes back with any escaped text as its value, the text comes
    back from that, and nothing else that is read depends on the text.  And
    cookies with distinct names and escaped values come back from a Cookie
    header, each with its own text. -/
theorem escaped_values_return :
    (∀ c : Cookie, c.IsTyped → c.WellAttributed →
      ∃ e : Cookie, ∀ (v : String) (now : Reading),
        parse ((c.withEscaped v).headerString none) now = ⟨[], .ok (e.withEscaped v)⟩ ∧
          (e.withEscaped v).equal (c.withEscaped v) = true ∧
          Percent.unescape (Percent.escape v) = .ok v) ∧
    ∀ pairs : List (String × String), Distinct pairs →
      (∀ pair ∈ pairs, IsName pair.1.toList) →
        (requestMapping
          (String.ofList ([';', ' '].intercalate ((escapedCookies pairs).map pair)))).map
            (fun (name, value) => (name, Percent.unescape value))
          = pairs.map fun (name, v) => (name, .ok v) := by
  refine ⟨?_, ?_⟩
  · intro c hc h
    refine ⟨c.reread, fun v now => ⟨?_, h.equal_reread hc v, Percent.unescape_escape_eq v⟩⟩
    have htrim : trim (c.withEscaped v).name.text ≠ [] := by
      rw [show trim (c.withEscaped v).name.text = _ from h.name.trim_eq]
      exact h.name.ne_nil
    rw [← reread_withEscaped,
      parse_headerString (hc.withEscaped v) (h.isFlat v) h.name.equals_not_mem htrim]
  · intro pairs hdistinct hnames
    rw [requestMapping_escapedCookies hdistinct hnames, List.map_map]
    refine List.map_congr_left fun pair _ => ?_
    simp only [Function.comp_apply, Percent.unescape_escape_eq]

/-- A value that looks like an attribute and a pair, in a cookie with
    attributes and between other cookies. -/
theorem escaped_values_return_attribute :
    let c : Cookie := { ofPair (.str "id") (.str "") with path := .str "/", secure := true }
    let v := "\"; Domain=evil; sid=1 ä%"
    let now : Reading := .ok ⟨0, none⟩
    (∃ e : Cookie, parse ((c.withEscaped v).headerString none) now
      = ⟨[], .ok (e.withEscaped v)⟩ ∧ (e.withEscaped v).equal (c.withEscaped v) = true) ∧
    (requestMapping (String.ofList ([';', ' '].intercalate
        ((escapedCookies [("a", v), ("b", "")]).map pair)))).map
          (fun (name, value) => (name, Percent.unescape value))
      = [("a", .ok v), ("b", .ok "")] := by
  intro c v now
  have hage : c.maxAge < 10 ^ Integer.digitLimit := by
    rw [← natCast_pow_digitLimit]
    exact Int.lt_of_lt_of_le (by decide) (Int.natCast_nonneg _)
  have hc : c.IsTyped :=
    ⟨⟨_, rfl⟩, ⟨_, rfl⟩, ⟨_, rfl⟩, ⟨_, rfl⟩, ⟨_, rfl⟩, ⟨_, rfl⟩, Or.inl rfl, hage⟩
  have h : c.WellAttributed :=
    ⟨by decide, by decide, by decide, by decide, by decide, by decide, fun _ => rfl⟩
  obtain ⟨hcookie, hpairs⟩ := escaped_values_return
  obtain ⟨e, he⟩ := hcookie c hc h
  refine ⟨⟨e, (he v now).1, (he v now).2.1⟩, hpairs [("a", v), ("b", "")] ?_ ?_⟩
  · show List.Nodup ["a", "b"]
    decide
  · show ∀ pair ∈ [("a", v), ("b", "")], IsName pair.1.toList
    decide

end Cookie

end HttpExchange
