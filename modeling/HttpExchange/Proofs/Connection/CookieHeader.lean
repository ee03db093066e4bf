import HttpExchange.Proofs.Connection.Preparation
import HttpExchange.Proofs.Value.Mapping

/-! # The Cookie header of a request

    A connection keeps its headers under their names in lower case, so a
    request has one header of each name.  The cookies of the request take the
    place of any Cookie header that was set. -/

namespace HttpExchange

open Text

/-! ## Headers under their names -/

theorem Headers.first?_cons (entry : String × String) (rest : Headers) (asked : String) :
    Headers.first? (entry :: rest) asked
      = if Headers.sameName entry.1 asked then some entry.2 else Headers.first? rest asked := by
  by_cases hsame : Headers.sameName entry.1 asked = true
  · simp [Headers.first?, Headers.all, hsame]
  · simp [Headers.first?, Headers.all, hsame]

/-- Headers that stand under their names in lower case. -/
def Keyed (headers : List (String × String × String)) : Prop :=
  ∀ entry ∈ headers, entry.1 = lowerString entry.2.1

namespace Keyed

variable {headers : List (String × String × String)}

theorem assign (h : Keyed headers) {key name : String} (hkey : key = lowerString name)
    (value : String) : Keyed (Value.assign key (name, value) headers) := by
  intro entry hentry
  rcases Value.mem_assign hentry with rfl | hentry
  · exact hkey
  · exact h entry hentry

/-- Headers that are set one after the other. -/
theorem assignAll {entries : List (String × String × String)} (hentries : Keyed entries)
    (h : Keyed headers) :
    Keyed (Value.assignAll entries headers) := by
  induction entries generalizing headers with
  | nil => exact h
  | cons entry entries ih =>
      obtain ⟨hentry, hrest⟩ := List.forall_mem_cons.mp hentries
      exact ih hrest (h.assign hentry entry.2.2)

/-- **A header that is set** is the first of its name, and the first headers of
    other names are those that they were. -/
theorem first?_assign (h : Keyed headers) (name value asked : String) :
    Headers.first? ((Value.assign (lowerString name) (name, value) headers).map (·.2)) asked
      = if Headers.sameName name asked then some value
        else Headers.first? (headers.map (·.2)) asked := by
  induction headers with
  | nil => exact Headers.first?_cons _ _ _
  | cons entry rest ih =>
      obtain ⟨hentry, hrest⟩ := List.forall_mem_cons.mp h
      rw [Value.assign, List.map_cons, Headers.first?_cons]
      by_cases hkey : entry.1 = lowerString name
      · -- the header takes the place of one with the same name
        have hsame : Headers.sameName entry.2.1 asked = Headers.sameName name asked := by
          rw [Headers.sameName, Headers.sameName, ← hentry, hkey]
        rw [if_pos hkey, List.map_cons, Headers.first?_cons, hsame]
        split <;> rfl
      · rw [if_neg hkey, List.map_cons, Headers.first?_cons, ih hrest]
        by_cases hfirst : Headers.sameName entry.2.1 asked = true
        · -- the header in front has the name that is asked for, so the set one has another
          have hother : ¬ Headers.sameName name asked = true := by
            rw [Headers.sameName, beq_iff_eq] at hfirst ⊢
            exact fun e => hkey (hentry.trans (hfirst.trans e.symm))
          rw [if_pos hfirst, if_neg hother, if_pos hfirst]
        · rw [if_neg hfirst, if_neg hfirst]

end Keyed

namespace Connection

variable {κ τ : Type} {c c' : Connection κ}

/-- **The headers of a prepared connection** stand under their names. -/
theorem Prepared.keyed (h : c.Prepared) : Keyed c.headers := by
  induction h with
  | fresh settings => exact fun _ h => nomatch h
  | setUrl _ hset ih =>
      obtain ⟨-, rfl⟩ := setUrl_eq_ok_iff.mp hset
      exact ih
  | setMethod _ hset ih =>
      obtain ⟨-, rfl⟩ := setMethod_eq_ok_iff.mp hset
      exact ih
  | setHeader _ name value ih => exact ih.assign rfl value
  | setBody _ body ih => exact ih
  | addCookie _ cookie ih => exact ih
  | onJson _ callback ih => exact ih
  | run _ pair now clock send ih =>
      obtain ⟨received, hconnection⟩ := Exchange.run_connection _ pair now clock send
      rw [hconnection]
      exact ih

/-- So do those of its requests, cookies aside. -/
theorem keyed_plainHeaders (h : Keyed c.headers) : Keyed c.plainHeaders := by
  refine Keyed.assignAll ?_ ?_
  · intro entry hentry
    rcases List.mem_append.mp hentry with hdefault | hown
    · obtain ⟨_, -, rfl⟩ := List.mem_map.mp hdefault
      rfl
    · exact h entry hown
  · intro entry hentry
    rw [List.mem_singleton.mp hentry]
    show "user-agent" = lowerString "User-Agent"
    decide

/-- **The Cookie header** of a request holds its cookies. -/
theorem first?_requestHeaders (h : Keyed c.headers) (text : String) :
    (c.requestHeaders (some text)).first? "cookie" = some text := by
  have hkey : ("cookie" : String) = lowerString "Cookie" := by decide
  show Headers.first? ((Value.assign "cookie" ("Cookie", text) c.plainHeaders).map (·.2)) _ = _
  rw [hkey, (keyed_plainHeaders h).first?_assign]
  exact if_pos (by decide)

end Connection

namespace Exchange

variable {κ τ : Type} {x : Exchange κ τ} {j : Jar} {url text : String} {clock : Float}

/-- The text that a store has for a URL is not empty. -/
theorem isEmpty_of_header? (h : j.header? clock url = .ok (some text)) : text.isEmpty = false := by
  rw [Jar.header?] at h
  split at h
  · cases h
  · next cookies hne _ =>
    -- every pair has an equals sign
    obtain ⟨c, rest, rfl⟩ := List.exists_cons_of_ne_nil hne
    have hmem : '=' ∈ text.toList := by
      rw [← Option.some.inj (Except.ok.inj h), Jar.joinPairs, String.toList_ofList]
      exact mem_intercalate_cons (List.mem_append_right _ List.mem_cons_self) _
    rw [← Bool.not_eq_true, String.isEmpty_iff, ← String.toList_eq_nil_iff]
    exact List.ne_nil_of_mem hmem
  · cases h

/-- **The cookies that a store has for a URL** come first in the Cookie header
    of a request, and those of the connection follow. -/
theorem request_of_stored (hprepared : x.connection.Prepared)
    (hurl : x.connection.url = some url) (hjar : x.jar = some j)
    (hsend : x.connection.settings.sendCookies = true)
    (htext : j.header? clock url = .ok (some text)) (pair : κ → List Char) :
    ∃ r, x.request pair clock = .ok r ∧ r.header? "cookie" = some (String.ofList
      ([';', ' '].intercalate (text.toList :: x.connection.cookies.map pair))) := by
  have hstored : Option.filter (fun text => !text.isEmpty) (some text) = some text := by
    rw [Option.filter_some, isEmpty_of_header? htext]
    rfl
  have hrequest : x.request pair clock = .ok ⟨x.connection.method, url,
      x.connection.requestHeaders (x.connection.cookieText pair (some text)),
      x.connection.body, x.connection.settings.timeout⟩ := by
    rw [request, Connection.buildRequest, hurl, hjar]
    simp only [Option.map_some, hsend, if_true, htext]
    rfl
  refine ⟨_, hrequest, ?_⟩
  rw [Connection.cookieText, hstored]
  exact Connection.first?_requestHeaders hprepared.keyed _

end Exchange

end HttpExchange
