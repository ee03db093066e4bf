import HttpExchange.Jar.Match
import HttpExchange.Proofs.Cookie.PairReading
import HttpExchange.Proofs.Value.Mapping

/-! # Cookie headers as lists and as mappings

    A Cookie header is read pair by pair, so a header that is put together
    from two is read as the one and then the other, wherever the cut lies: an
    empty part, a part without a name and half of a quoted text are read as
    they are on their own.  As a mapping the second header is set in the first
    one.  Cookies whose names and values stand for themselves come back from
    the header that is written for them.

    * `requestCookies_append` and `requestMapping_append` are the cut, for all
      texts;
    * `pairsOf_joinPairs` is the way back, for all lists of cookies;
    * `request_header_laws` puts both together, with the order and the last
      values of the mapping. -/

namespace HttpExchange.Cookie

open Text

variable {c : Cookie} {cookies : List Cookie}

/-! ## Cutting a header -/

theorem toList_append_semicolon (a b : String) :
    (a ++ ";" ++ b).toList = a.toList ++ ';' :: b.toList := by
  simp [String.toList_append]

theorem requestCookies_append (a b : String) :
    requestCookies (a ++ ";" ++ b) = requestCookies a ++ requestCookies b := by
  rw [requestCookies, toList_append_semicolon, pairsOf_append, List.map_append]
  rfl

/-- As a mapping, what stands behind the cut is set in what stands before it. -/
theorem requestMapping_append (a b : String) :
    requestMapping (a ++ ";" ++ b) = Value.assignAll (requestMapping b) (requestMapping a) := by
  rw [requestMapping, toList_append_semicolon, pairsOf_append, List.map_append,
    Value.ofPairs_append, ← Value.assignAll_ofPairs]
  rfl

/-! ## Headers that are written -/

/-- The name and the value of the cookie stand for themselves in a Cookie
    header. -/
structure IsSendable (c : Cookie) : Prop where
  name : Holds IsName c.name
  value : Holds IsBare c.value

/-- **The pairs of sendable cookies come back** from the header that is written
    for them. -/
theorem pairsOf_joinPairs (h : ∀ c ∈ cookies, c.IsSendable) :
    pairsOf (Jar.joinPairs (cookies.map pair)).toList
      = cookies.map fun c => (c.name.text, c.value.text) := by
  have hparts : cookies.map pair
      = (cookies.map fun c => (c.name.text, c.value.text)).map
          fun pair => pair.1 ++ '=' :: pair.2 := by
    rw [List.map_map]
    rfl
  rw [Jar.joinPairs, String.toList_ofList, hparts]
  refine pairsOf_joined ?_
  intro part hpart
  obtain ⟨c, hc, rfl⟩ := List.mem_map.mp hpart
  obtain ⟨⟨name, hname, isName⟩, ⟨value, hvalue, isBare⟩⟩ := h c hc
  rw [hname, hvalue, Value.text_str, Value.text_str]
  exact ⟨isName, isBare⟩

/-- As cookies they have their names and values and no attributes. -/
theorem requestCookies_joinPairs (h : ∀ c ∈ cookies, c.IsSendable) :
    requestCookies (Jar.joinPairs (cookies.map pair))
      = cookies.map fun c => ofPair c.name c.value := by
  rw [requestCookies, pairsOf_joinPairs h, List.map_map]
  refine List.map_congr_left ?_
  intro c hc
  obtain ⟨⟨name, hname, -⟩, ⟨value, hvalue, -⟩⟩ := h c hc
  show ofText c.name.text c.value.text = ofPair c.name c.value
  rw [ofText, hname, hvalue, Value.text_str, Value.text_str, String.ofList_toList,
    String.ofList_toList]

theorem requestMapping_joinPairs (h : ∀ c ∈ cookies, c.IsSendable) :
    requestMapping (Jar.joinPairs (cookies.map pair))
      = Value.ofPairs (cookies.map fun c => (c.name.toText, c.value.toText)) := by
  rw [requestMapping, pairsOf_joinPairs h, List.map_map]
  rfl

/-- The first cookie with a name gives the value that is found under it. -/
theorem lookup_map_pairs (cookies : List Cookie) (name : String) :
    (cookies.map fun c => (c.name.toText, c.value.toText)).lookup name
      = (cookies.find? fun c => c.name.toText = name).map fun c => c.value.toText := by
  induction cookies with
  | nil => rfl
  | cons c cookies ih =>
      rw [List.map_cons, List.lookup_cons, List.find?_cons, ih]
      by_cases hname : c.name.toText = name
      · simp [hname]
      · simp [hname, beq_eq_false_iff_ne.mpr (Ne.symm hname)]

/-- **Cookie headers are read part by part**, as a list and as a mapping.  The
    header of sendable cookies is read as their names and values, in order; and
    as a mapping with the names in the order in which they first occur, each
    with the value of the last cookie that has it. -/
theorem request_header_laws :
    (∀ a b : String,
      requestCookies (a ++ ";" ++ b) = requestCookies a ++ requestCookies b ∧
      requestMapping (a ++ ";" ++ b)
        = Value.assignAll (requestMapping b) (requestMapping a)) ∧
    ∀ cookies : List Cookie, (∀ c ∈ cookies, c.IsSendable) →
      let header := Jar.joinPairs (cookies.map pair)
      requestCookies header = (cookies.map fun c => ofPair c.name c.value) ∧
      (requestMapping header).map (·.1) = (cookies.map fun c => c.name.toText).eraseDups ∧
      ∀ name, (requestMapping header).lookup name
        = (cookies.reverse.find? fun c => c.name.toText = name).map fun c => c.value.toText := by
  refine ⟨fun a b => ⟨requestCookies_append a b, requestMapping_append a b⟩, ?_⟩
  intro cookies h header
  have hmapping := requestMapping_joinPairs h
  refine ⟨requestCookies_joinPairs h, ?_, ?_⟩
  · rw [hmapping, Value.keys_ofPairs, List.map_map]
    rfl
  · intro name
    rw [hmapping, Value.listLookup_ofPairs, ← List.map_reverse, lookup_map_pairs]

/-- A header cut inside a quoted value, and one that is written for cookies of
    which two share a name. -/
theorem request_header_laws_repeated :
    let cookies := [ofText ['a'] ['1'], { ofText ['b'] ['=', '"'] with secure := true },
      ofText ['a'] []]
    requestCookies "a=\"x;b=y\"" = requestCookies "a=\"x" ++ requestCookies "b=y\"" ∧
    (∀ c ∈ cookies, c.IsSendable) ∧
    requestCookies "a=1; b==\"; a=" = (cookies.map fun c => ofPair c.name c.value) ∧
    requestMapping "a=1; b==\"; a=" = [("a", ""), ("b", "=\"")] := by
  intro cookies
  have h : ∀ c ∈ cookies, c.IsSendable := by
    intro c hc
    simp only [cookies, List.mem_cons, List.not_mem_nil, or_false] at hc
    rcases hc with rfl | rfl | rfl
    · exact ⟨⟨_, rfl, by decide⟩, ⟨_, rfl, by decide⟩⟩
    · exact ⟨⟨_, rfl, by decide⟩, ⟨_, rfl, by decide⟩⟩
    · exact ⟨⟨_, rfl, by decide⟩, ⟨_, rfl, by decide⟩⟩
  obtain ⟨hcut, hwritten⟩ := request_header_laws
  exact ⟨(hcut "a=\"x" "b=y\"").1, h, (hwritten cookies h).1, by decide⟩

end HttpExchange.Cookie
