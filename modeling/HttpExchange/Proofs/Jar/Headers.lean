import HttpExchange.Proofs.Connection.Preparation
import HttpExchange.Proofs.Cookie.HeaderFailing
import HttpExchange.Proofs.Jar.History
import HttpExchange.Proofs.Number.Range
import Mathlib

/-! # The headers of a response, one after the other

    A response may come with any number of Set-Cookie headers, and one that is
    malformed is left out and reported.  Two kinds of headers do more than
    that, and end the whole operation: those with an expiry date that the
    calendar cannot reckon with, and those with an age that is too large for
    the clock.

    * `Ends` tells these headers from all others;
    * `setCookies_append` goes through headers of which none is such a one;
    * `setCookies_of_ends` stops at one;
    * `setCookies_of_accepts` says what any headers come to. -/

namespace HttpExchange

/-! ## Warnings -/

/-- The warnings of a log. -/
def Log.warnings (log : Log) : Log := log.filter fun record => record.level = .warning

theorem Log.warnings_append (first second : Log) :
    (first ++ second).warnings = first.warnings ++ second.warnings := List.filter_append ..

theorem Log.warnings_eq_nil {log : Log} (h : ∀ record ∈ log, record.level = .debug) :
    log.warnings = [] := by
  refine List.filter_eq_nil_iff.mpr ?_
  intro record hrecord
  rw [h record hrecord]
  decide

namespace Jar

variable {now : Reading} {clock : Float} {c : Cookie} {url header : String} {j : Jar}

/-- The warning that an arrival leaves. -/
def Arrival.warning? : Arrival → Option Log.Record
  | .rejected name domain host => some (rejection name domain host)
  | _ => none

theorem receive_log (j : Jar) (a : Arrival) : (j.receive a).log = a.warning?.toList := by
  cases a with
  | rejected name domain host => rfl
  | removal domain path name =>
      rw [receive]
      split
      · rfl
      · split
        · rfl
        · rfl
  | storage domain path hostOnly t d =>
      rw [receive]
      split
      · rfl
      · rfl

theorem warnings_warning? (a : Arrival) :
    Log.warnings a.warning?.toList = a.warning?.toList := by
  cases a <;> rfl

/-! ## Ages -/

/-- **The clock counts every age** below the limit, and no other one. -/
theorem expiry_eq_error_iff {age : Int} {failure : Failure} :
    expiry clock age = .error failure ↔
      failure = .overflow ∧ (Binary64.intLimit : Int) ≤ age := by
  have hlimit : 0 < Binary64.intLimit := Binary64.intLimit_pos
  rw [expiry]
  split
  · next hage =>
    have habs : (Binary64.intLimit : Int) ≤ age ↔ Binary64.intLimit ≤ age.natAbs := by omega
    rw [habs, ← Binary64.ofInt?_eq_none_iff]
    cases Binary64.ofInt? age with
    | none => simp [eq_comm]
    | some seconds => simp
  · next hage => exact iff_of_false (fun h => nomatch h) (by omega)

/-- A cookie is settled in its place, unless its age is too large. -/
theorem settled_eq_error_iff {p : Place} {failure : Failure} :
    settled clock c p = .error failure ↔
      failure = .overflow ∧ (Binary64.intLimit : Int) ≤ c.maxAge := by
  rw [settled]
  split
  · next hage =>
    have hlimit : 0 < Binary64.intLimit := Binary64.intLimit_pos
    refine iff_of_false ?_ (by omega)
    rintro ⟨⟩
  · have hexpiry : expiry clock c.maxAge = .error failure ↔ _ := expiry_eq_error_iff
    rw [← hexpiry]
    cases expiry clock c.maxAge with
    | error other =>
        constructor
        · rintro ⟨⟩
          rfl
        · rintro ⟨⟩
          rfl
    | ok t =>
        refine iff_of_false ?_ ?_
        · rintro ⟨⟩
        · rintro ⟨⟩

/-! ## One header -/

/-- A cookie that was read from a header is turned away by the host of a URL
    that connections take, or accepted in a place. -/
theorem arrival_of_parse (haccepts : Connection.Accepts url)
    (hparse : (Cookie.parse header now).result = .ok c) (clock : Float) :
    (∃ domain host, arrival clock c url = .ok (.rejected c.name domain host)) ∨
      ∃ p, Accepted url c p := by
  obtain ⟨u, hsplit, husable⟩ := haccepts
  have hhost : u.host ≠ "" := Connection.host_ne_empty_of_isUsable husable
  obtain ⟨-, ⟨given, hdomain, -⟩, ⟨path, hpath, -⟩, -⟩ := Cookie.textFields_of_parse hparse
  have hgiven : textOf c.domain = .ok given := by rw [hdomain]; rfl
  have htext : textOf c.path = .ok path := by rw [hpath]; rfl
  by_cases hrefused : undotted given ≠ [] ∧ ¬ HostWithin (domainForm given) u.host
  · refine .inl ⟨domainForm given, u.host, ?_⟩
    rw [arrival_eq hsplit hhost, hgiven]
    exact if_pos ((refuses_iff _ _).mpr hrefused)
  · refine .inr ⟨placeOf u given path, u, given, path, hsplit, hhost, hgiven, htext, ?_, rfl⟩
    intro hne
    exact Classical.byContradiction fun hnot => hrefused ⟨hne, hnot⟩

/-- Does a header from the URL end the operation?  It is not malformed, but an
    expiry date in it cannot be reckoned with, or its cookie is accepted with an
    age that the clock cannot count. -/
def Ends (now : Reading) (url header : String) : Prop :=
  ¬ Cookie.Malformed header ∧
    (Cookie.HeaderBeyond now header ∨
      ∃ c p, (Cookie.parse header now).result = .ok c ∧ Accepted url c p ∧
        (Binary64.intLimit : Int) ≤ c.maxAge)

/-- The warning that a header from the URL leaves: one for a malformed header,
    and one for a cookie that is turned away. -/
def warning? (now : Reading) (clock : Float) (url header : String) : Option Log.Record :=
  if Cookie.Malformed header then some (dropped url (Cookie.malformation header))
  else
    match (Cookie.parse header now).result with
    | .ok c => ((arrival clock c url).toOption.bind Arrival.warning?)
    | .error _ => none

theorem isRejection_malformation (header : String) :
    (Cookie.malformation header).isRejection = true := by
  rw [Cookie.malformation]
  split
  · rfl
  · rfl

theorem insertHeader_of_malformed (h : Cookie.Malformed header) (j : Jar) (now : Reading)
    (clock : Float) (url : String) :
    j.insertHeader now clock header url = ⟨j, [], .error (Cookie.malformation header)⟩ := by
  rw [insertHeader, Cookie.parse_of_malformed h]

/-- What a header reports is what its cookie reports. -/
theorem warnings_insertHeader (hparse : (Cookie.parse header now).result = .ok c)
    (j : Jar) (url : String) :
    (j.insertHeader now clock header url).log.warnings
      = ((arrival clock c url).toOption.bind Arrival.warning?).toList := by
  have hdebug : (Cookie.parse header now).log.warnings = [] :=
    Log.warnings_eq_nil fun _ => Cookie.level_of_mem_parse
  rw [insertHeader, hparse]
  show Log.warnings (_ ++ (j.insert clock c url).log) = _
  rw [Log.warnings_append, hdebug, List.nil_append, insert]
  cases ha : arrival clock c url with
  | error failure => rfl
  | ok a =>
      dsimp only
      rw [receive_log, warnings_warning?]
      rfl

/-- **A header that does not end the operation** and is not malformed is
    inserted. -/
theorem insertHeader_of_not_ends (haccepts : Connection.Accepts url)
    (hwell : ¬ Cookie.Malformed header) (hends : ¬ Ends now url header) (j : Jar)
    (clock : Float) :
    (j.insertHeader now clock header url).result = .ok () ∧
      (j.insertHeader now clock header url).log.warnings
        = (warning? now clock url header).toList := by
  have hreckonable : ¬ Cookie.HeaderBeyond now header :=
    fun hbeyond => hends ⟨hwell, .inl hbeyond⟩
  obtain ⟨c, hparse⟩ := Cookie.parse_of_reckonable hwell hreckonable
  refine ⟨?_, ?_⟩
  · rw [(insertHeader_state hparse j clock url).2, insert_result_of_parse hparse]
    rcases arrival_of_parse haccepts hparse clock with ⟨domain, host, harrival⟩ | ⟨p, hp⟩
    · rw [harrival]
      rfl
    · rw [arrival_of_accepted hp]
      cases hsettled : settled clock c p with
      | ok a => rfl
      | error failure =>
          obtain ⟨-, hage⟩ := settled_eq_error_iff.mp hsettled
          exact absurd ⟨hwell, .inr ⟨c, p, hparse, hp, hage⟩⟩ hends
  · rw [warnings_insertHeader hparse, warning?, if_neg hwell, hparse]

/-- **A header that ends the operation** changes nothing, and reports nothing. -/
theorem insertHeader_of_ends (hends : Ends now url header) (j : Jar) (clock : Float) :
    ∃ failure, (j.insertHeader now clock header url).result = .error failure ∧
      (failure = .overflow ∨ failure = .clockYear ∧ now = .error .yearTooLarge) ∧
      (j.insertHeader now clock header url).state = j ∧
      (j.insertHeader now clock header url).log.warnings = [] := by
  obtain ⟨hwell, hbeyond | ⟨c, p, hparse, hp, hage⟩⟩ := hends
  · obtain ⟨failure, hfailure, hkind⟩ := Cookie.parse_of_beyond hwell hbeyond
    have hinsert : j.insertHeader now clock header url
        = ⟨j, (Cookie.parse header now).log, .error failure⟩ := by
      rw [insertHeader, hfailure]
    rw [hinsert]
    exact ⟨failure, rfl, hkind, rfl, Log.warnings_eq_nil fun _ => Cookie.level_of_mem_parse⟩
  · have harrival : arrival clock c url = .error .overflow := by
      rw [arrival_of_accepted hp]
      exact settled_eq_error_iff.mpr ⟨rfl, hage⟩
    have hresult : (j.insertHeader now clock header url).result = .error .overflow := by
      rw [(insertHeader_state hparse j clock url).2, insert_result_of_parse hparse, harrival]
      rfl
    refine ⟨.overflow, hresult, .inl rfl, insertHeader_of_error hresult, ?_⟩
    rw [warnings_insertHeader hparse, harrival]
    rfl

/-! ## All headers -/

/-- Insert the cookies of headers one after the other. -/
def insertAll (j : Jar) (now : Reading) (clock : Float) (url : String)
    (headers : List String) : Jar :=
  headers.foldl (fun j header => (j.insertHeader now clock header url).state) j

/-- The headers that are not malformed. -/
def wellFormed (headers : List String) : List String :=
  headers.filter fun header => ¬ Cookie.Malformed header

theorem wellFormed_cons (header : String) (rest : List String) :
    wellFormed (header :: rest) = wellFormed [header] ++ wellFormed rest := by
  rw [wellFormed, wellFormed, wellFormed, ← List.filter_append, List.singleton_append]

theorem insertAll_append (j : Jar) (clock : Float) (url : String) (first second : List String) :
    j.insertAll now clock url (first ++ second)
      = (j.insertAll now clock url first).insertAll now clock url second := List.foldl_append ..

/-- A header that does not end the operation, and then the others. -/
theorem setCookies_cons (haccepts : Connection.Accepts url) (hends : ¬ Ends now url header)
    (rest : List String) (j : Jar) (clock : Float) :
    let next := (j.insertAll now clock url (wellFormed [header])).setCookies now clock url rest
    (j.setCookies now clock url (header :: rest)).state = next.state ∧
      (j.setCookies now clock url (header :: rest)).result = next.result ∧
      (j.setCookies now clock url (header :: rest)).log.warnings
        = (warning? now clock url header).toList ++ next.log.warnings := by
  rw [setCookies]
  by_cases hmalformed : Cookie.Malformed header
  · have hnone : wellFormed [header] = [] :=
      List.filter_cons_of_neg (by simpa using hmalformed)
    rw [hnone, warning?, if_pos hmalformed, insertHeader_of_malformed hmalformed]
    simp only [isRejection_malformation, if_true]
    refine ⟨rfl, rfl, ?_⟩
    exact Log.warnings_append [dropped url (Cookie.malformation header)] _
  · have hone : wellFormed [header] = [header] :=
      List.filter_cons_of_pos (by simpa using hmalformed)
    obtain ⟨hresult, hwarnings⟩ := insertHeader_of_not_ends haccepts hmalformed hends j clock
    rw [hone, ← hwarnings]
    simp only [hresult]
    exact ⟨rfl, rfl, Log.warnings_append _ _⟩

/-- **Headers of which none ends the operation**, and then the others: the ones
    that are not malformed are inserted, and the warnings of all of them are
    left. -/
theorem setCookies_append (haccepts : Connection.Accepts url) {front : List String}
    (hfront : ∀ header ∈ front, ¬ Ends now url header) (rest : List String) (j : Jar)
    (clock : Float) :
    let next := (j.insertAll now clock url (wellFormed front)).setCookies now clock url rest
    (j.setCookies now clock url (front ++ rest)).state = next.state ∧
      (j.setCookies now clock url (front ++ rest)).result = next.result ∧
      (j.setCookies now clock url (front ++ rest)).log.warnings
        = front.filterMap (warning? now clock url) ++ next.log.warnings := by
  induction front generalizing j with
  | nil => exact ⟨rfl, rfl, rfl⟩
  | cons header front ih =>
      have hheader : ¬ Ends now url header := hfront header List.mem_cons_self
      obtain ⟨hstate, hresult, hwarnings⟩ :=
        setCookies_cons haccepts hheader (front ++ rest) j clock
      obtain ⟨ihstate, ihresult, ihwarnings⟩ :=
        ih (fun other hother => hfront other (List.mem_cons_of_mem _ hother))
          (j.insertAll now clock url (wellFormed [header]))
      rw [wellFormed_cons, insertAll_append]
      refine ⟨hstate.trans ihstate, hresult.trans ihresult, ?_⟩
      rw [List.cons_append, hwarnings, ihwarnings, ← List.append_assoc]
      cases hwarning : warning? now clock url header with
      | none => rw [List.filterMap_cons_none hwarning]; rfl
      | some record => rw [List.filterMap_cons_some hwarning]; rfl

/-- **A header that ends the operation** keeps those behind it from being
    stored. -/
theorem setCookies_of_ends (hends : Ends now url header) (rest : List String) (j : Jar)
    (clock : Float) :
    ∃ failure, (j.setCookies now clock url (header :: rest)).result = .error failure ∧
      (failure = .overflow ∨ failure = .clockYear ∧ now = .error .yearTooLarge) ∧
      (j.setCookies now clock url (header :: rest)).state = j ∧
      (j.setCookies now clock url (header :: rest)).log.warnings = [] := by
  obtain ⟨failure, hresult, hkind, hstate, hwarnings⟩ := insertHeader_of_ends hends j clock
  have hnot : failure.isRejection = false := by
    rcases hkind with rfl | ⟨rfl, -⟩
    · rfl
    · rfl
  refine ⟨failure, ?_⟩
  rw [setCookies]
  simp only [hresult, hnot, Bool.false_eq_true, if_false]
  exact ⟨trivial, hkind, hstate, hwarnings⟩

/-- **The headers of a response** from a URL that connections take: if none of
    them ends the operation, the ones that are not malformed are inserted in
    order, and a warning is left for each of the others and for each cookie
    that is turned away; otherwise the same is done up to the first one that
    does, and the operation fails. -/
theorem setCookies_of_accepts (haccepts : Connection.Accepts url) (j : Jar) (now : Reading)
    (clock : Float) (headers : List String) :
    ((∀ header ∈ headers, ¬ Ends now url header) →
      (j.setCookies now clock url headers).result = .ok () ∧
      (j.setCookies now clock url headers).state = j.insertAll now clock url (wellFormed headers) ∧
      (j.setCookies now clock url headers).log.warnings
        = headers.filterMap (warning? now clock url)) ∧
    ∀ front bad rest, headers = front ++ bad :: rest →
      (∀ header ∈ front, ¬ Ends now url header) → Ends now url bad →
        (∃ failure, (j.setCookies now clock url headers).result = .error failure ∧
          (failure = .overflow ∨ failure = .clockYear ∧ now = .error .yearTooLarge)) ∧
        (j.setCookies now clock url headers).state = j.insertAll now clock url (wellFormed front) ∧
        (j.setCookies now clock url headers).log.warnings
          = front.filterMap (warning? now clock url) := by
  refine ⟨?_, ?_⟩
  · intro hheaders
    obtain ⟨hstate, hresult, hwarnings⟩ := setCookies_append haccepts hheaders [] j clock
    rw [List.append_nil] at hstate hresult hwarnings
    exact ⟨hresult, hstate, hwarnings.trans (List.append_nil _)⟩
  · rintro front bad rest rfl hfront hbad
    obtain ⟨hstate, hresult, hwarnings⟩ := setCookies_append haccepts hfront (bad :: rest) j clock
    obtain ⟨failure, hfailure, hkind, hsame, hnone⟩ :=
      setCookies_of_ends hbad rest (j.insertAll now clock url (wellFormed front)) clock
    refine ⟨⟨failure, hresult.trans hfailure, hkind⟩, hstate.trans hsame, ?_⟩
    rw [hwarnings, hnone, List.append_nil]

/-- A malformed header and a good one, and then one with the year 99999999999 that
    keeps a third cookie from being stored. -/
theorem setCookies_of_accepts_expiry :
    let now : Reading := .ok ⟨62135596800000000, none⟩
    let url := "http://example.com/"
    let front := ["no name", "b=2"]
    let date := "Mon, 01 Jan 99999999999 00:00:00 GMT"
    let bad := "a=1; Expires=" ++ date
    Connection.Accepts url ∧ (∀ header ∈ front, ¬ Ends now url header) ∧ Ends now url bad ∧
      (empty.setCookies now 0 url front).result = .ok () ∧
      (empty.setCookies now 0 url (front ++ bad :: ["c=3"])).state
        = empty.insertAll now 0 url (wellFormed front) := by
  intro now url front date bad
  have haccepts : Connection.Accepts url := ⟨⟨"http", "example.com", "/"⟩, by cbv, by decide⟩
  have hmalformed : Cookie.Malformed "no name" := by decide +kernel
  have hwell : ¬ Cookie.Malformed bad := by decide +kernel
  have hattributes : Cookie.attributesOf (Text.segments ';' bad.toList).2
      = [("Expires".toList, date.toList)] := by
    decide +kernel
  have hdate : Cookie.secondsUntil now "Mon, 01 Jan 99999999999 00:00:00 GMT".toList
      = .error .overflow := rfl
  have hbare : Cookie.bare date.toList = date.toList := by decide +kernel
  have hends : Ends now url bad := by
    refine ⟨hwell, .inl ⟨"Expires".toList, date.toList, ?_, by decide, .overflow, ?_, ?_⟩⟩
    · rw [hattributes]
      exact List.mem_singleton_self _
    · rw [hbare]
      exact hdate
    · decide
  have hplain : Cookie.attributesOf (Text.segments ';' "b=2".toList).2 = [] := by decide +kernel
  have hcookie : (Cookie.parse "b=2" now).result = .ok (Cookie.ofText ['b'] ['2']) := rfl
  have hfront : ∀ header ∈ front, ¬ Ends now url header := by
    intro header hheader
    rcases List.mem_cons.mp hheader with rfl | hheader
    · exact fun h => h.1 hmalformed
    · rw [List.mem_singleton.mp hheader]
      rintro ⟨-, ⟨key, value, hmem, -⟩ | ⟨c, p, hparse, -, hage⟩⟩
      · rw [hplain] at hmem
        exact absurd hmem List.not_mem_nil
      · cases hcookie.symm.trans hparse
        exact absurd hage (by show ¬ (Binary64.intLimit : Int) ≤ -1; omega)
  refine ⟨haccepts, hfront, hends, ?_, ?_⟩
  · exact ((setCookies_of_accepts haccepts empty now 0 front).1 hfront).1
  · exact ((setCookies_of_accepts haccepts empty now 0 (front ++ bad :: ["c=3"])).2 front bad
      ["c=3"] rfl hfront hends).2.1

/-- An age of 310 digits, which no double can hold, keeps the next header from
    being stored. -/
theorem setCookies_stops_at_age :
    let now : Reading := .ok ⟨62135596800000000, none⟩
    let bad := String.ofList ("a=1; Max-Age=1".toList ++ List.replicate 309 '0')
    ¬ Cookie.Malformed bad ∧
      (empty.setCookies now 0 "http://example.com/" [bad, "a=2"]).result ≠ .ok () ∧
      (empty.setCookies now 0 "http://example.com/" [bad, "a=2"]).state.size = 0 ∧
      (empty.setCookies now 0 "http://example.com/" ["a=2"]).state.size = 1 := by
  intro now bad
  have hlist : bad.toList = "a=1; Max-Age=1".toList ++ List.replicate 309 '0' :=
    String.toList_ofList
  have hwell : ¬ Cookie.Malformed bad := by
    rw [Cookie.Malformed, hlist]
    decide +kernel
  have hinsert : (empty.insertHeader now 0 bad "http://example.com/").result.mapError
      Failure.isRejection = .error false := by
    rw [insertHeader, Cookie.parse, hlist]
    decide +kernel
  have hsecond : (empty.setCookies now 0 "http://example.com/" ["a=2"]).state.size = 1 := by
    decide +kernel
  cases hresult : (empty.insertHeader now 0 bad "http://example.com/").result with
  | ok =>
      rw [hresult] at hinsert
      cases hinsert
  | error failure =>
      rw [hresult] at hinsert
      have hrejection : failure.isRejection = false := Except.error.inj hinsert
      rw [setCookies]
      simp only [hresult, hrejection, Bool.false_eq_true, if_false]
      refine ⟨hwell, ?_, ?_, hsecond⟩
      · rintro ⟨⟩
      · rw [insertHeader_of_error hresult]
        rfl

end Jar

end HttpExchange
