import HttpExchange.Proofs.Connection.CookieHeader
import Mathlib

/-! # What a request is assembled from

    A request holds what the calls said that prepared its connection: the last
    URL and the last method that were accepted, the body that was set last, and
    one header of each name.  The user agent, the default headers, the explicit
    headers and the cookies are layers: a name stands where it occurs first in
    them, and with the value that it has last.

    * `Headers.merged` puts layers of headers together;
    * `after_eq` says what calls leave of a connection, and `requestHeaders_after`
      which headers its request has then. -/

namespace HttpExchange

open Text

/-! ## Layers of headers -/

namespace Headers

/-- Headers under their names in lower case. -/
def keyed (headers : Headers) : List (String × String × String) :=
  headers.map fun (name, value) => (lowerString name, name, value)

/-- Headers that were set one after the other: a later one takes the place of
    an earlier one with the same name. -/
def merged (headers : Headers) : Headers := (Value.ofPairs headers.keyed).map (·.2)

/-- The names of headers in lower case. -/
def names (headers : Headers) : List String := headers.map fun (name, _) => lowerString name

/-- The last value of a header. -/
def last? (headers : Headers) (name : String) : Option String := (headers.all name).getLast?

theorem keyed_append (front back : Headers) :
    keyed (front ++ back) = keyed front ++ keyed back := List.map_append

theorem keyed_keyed (headers : Headers) : Keyed headers.keyed := by
  intro entry hentry
  obtain ⟨header, -, rfl⟩ := List.mem_map.mp hentry
  rfl

theorem keyed_merged (headers : Headers) : Keyed (Value.ofPairs headers.keyed) :=
  fun entry hentry => keyed_keyed headers entry (mem_of_mem_ofPairs entry hentry)

/-- Which names are asked for when a name with the given lower case is found. -/
theorem sameName_iff {name key : String} (h : lowerString name = key) (asked : String) :
    sameName name asked = true ↔ lowerString asked = key := by
  rw [sameName, beq_iff_eq, h, eq_comm]

theorem last?_append (front back : Headers) (asked : String) :
    last? (front ++ back) asked = (last? back asked).or (last? front asked) := by
  rw [last?, all, List.filter_append, List.map_append, List.getLast?_append]
  rfl

theorem last?_singleton (name value asked : String) :
    last? [(name, value)] asked = if sameName name asked then some value else none := by
  by_cases hsame : sameName name asked = true
  · simp [last?, all, hsame]
  · simp [last?, all, hsame]

/-- The names of merged headers, in the order in which they first occur. -/
theorem names_merged (headers : Headers) : headers.merged.names = headers.names.eraseDups := by
  have hkeys : headers.merged.names = (Value.ofPairs headers.keyed).map (·.1) := by
    rw [names, merged, List.map_map]
    exact List.map_congr_left fun entry hentry => (keyed_merged headers entry hentry).symm
  rw [hkeys, Value.keys_ofPairs, keyed, List.map_map]
  rfl

/-- No name occurs twice in merged headers. -/
theorem nodup_names_merged (headers : Headers) : headers.merged.names.Nodup := by
  have hkeys := Value.keys_ofPairs headers.keyed
  rw [keyed, List.map_map] at hkeys
  rw [names_merged]
  exact hkeys ▸ distinct_ofPairs headers.keyed

/-- **A merged header has its last value.** -/
theorem first?_merged (headers : Headers) (asked : String) :
    headers.merged.first? asked = headers.last? asked := by
  induction headers using List.reverseRecOn with
  | nil => rfl
  | append_singleton front header ih =>
      obtain ⟨name, value⟩ := header
      have hmerged : merged (front ++ [(name, value)])
          = (Value.assign (lowerString name) (name, value)
              (Value.ofPairs (keyed front))).map (·.2) := by
        rw [merged, keyed_append, Value.ofPairs_append]
        rfl
      rw [hmerged, (keyed_merged front).first?_assign, last?_append, last?_singleton]
      split
      · rfl
      · exact ih

end Headers

namespace Connection

variable {κ : Type} {c c' : Connection κ}

/-! ## Calls -/

/-- A call that prepares a connection. -/
inductive Setup (κ : Type) where
  | setUrl (url : String)
  | setMethod (method : String)
  | setHeader (name value : String)
  | setBody (body : Option (List UInt8))
  | addCookie (cookie : κ)

namespace Setup

/-- What a call does to a connection. -/
def run (c : Connection κ) : Setup κ → Except Failure (Connection κ)
  | .setUrl url => c.setUrl url
  | .setMethod method => c.setMethod method
  | .setHeader name value => .ok (c.setHeader name value)
  | .setBody body => .ok (c.setBody body)
  | .addCookie cookie => .ok (c.addCookie cookie)

/-- The URL that a call sets. -/
def url? : Setup κ → Option String
  | .setUrl url => some url
  | _ => none

/-- The method that a call sets, in upper case. -/
def method? : Setup κ → Option String
  | .setMethod method => some (String.ofList (upper method.toList))
  | _ => none

/-- The header that a call sets. -/
def header? : Setup κ → Option (String × String)
  | .setHeader name value => some (name, value)
  | _ => none

/-- The body that a call sets. -/
def body? : Setup κ → Option (Option (List UInt8))
  | .setBody body => some body
  | _ => none

/-- The cookie that a call adds. -/
def cookie? : Setup κ → Option κ
  | .addCookie cookie => some cookie
  | _ => none

end Setup

/-- A connection after calls: one that fails leaves it as it was. -/
def after (c : Connection κ) : List (Setup κ) → Connection κ
  | [] => c
  | call :: rest =>
    match call.run c with
    | .ok c' => c'.after rest
    | .error _ => c.after rest

/-- The calls that succeed. -/
def succeeded (c : Connection κ) : List (Setup κ) → List (Setup κ)
  | [] => []
  | call :: rest =>
    match call.run c with
    | .ok c' => call :: c'.succeeded rest
    | .error _ => c.succeeded rest

/-- What calls that succeed leave of a connection. -/
def updated (c : Connection κ) (done : List (Setup κ)) : Connection κ :=
  { c with
    url := (done.filterMap Setup.url?).getLast?.or c.url
    method := (done.filterMap Setup.method?).getLast?.getD c.method
    headers := Value.assignAll (Headers.keyed (done.filterMap Setup.header?)) c.headers
    body := (done.filterMap Setup.body?).getLast?.getD c.body
    cookies := c.cookies ++ done.filterMap Setup.cookie? }

theorem updated_nil (c : Connection κ) : c.updated [] = c := by
  rw [updated]
  simp only [List.filterMap_nil, List.getLast?_nil, Option.none_or, Option.getD_none,
    List.append_nil]
  rfl

theorem updated_append (c : Connection κ) (front back : List (Setup κ)) :
    c.updated (front ++ back) = (c.updated front).updated back := by
  rw [updated, updated, updated]
  simp only [List.filterMap_append, List.getLast?_append, Option.or_assoc, Option.getD_or,
    List.append_assoc, Headers.keyed, List.map_append, Value.assignAll, List.foldl_append]

/-- **A call that succeeds** changes what it sets, and nothing else. -/
theorem run_eq_ok {call : Setup κ} (h : call.run c = .ok c') : c' = c.updated [call] := by
  cases call with
  | setUrl url =>
      obtain ⟨-, rfl⟩ := setUrl_eq_ok_iff.mp h
      show _ = { c with url := some url, cookies := c.cookies ++ [] }
      rw [List.append_nil]
  | setMethod method =>
      obtain ⟨-, rfl⟩ := setMethod_eq_ok_iff.mp h
      show _ = { c with method := String.ofList (upper method.toList), cookies := c.cookies ++ [] }
      rw [List.append_nil]
  | setHeader name value =>
      obtain rfl := Except.ok.inj h
      show _ = { c.setHeader name value with cookies := c.cookies ++ [] }
      rw [List.append_nil]
      rfl
  | setBody body =>
      obtain rfl := Except.ok.inj h
      show _ = { c with body, cookies := c.cookies ++ [] }
      rw [List.append_nil]
      rfl
  | addCookie cookie =>
      obtain rfl := Except.ok.inj h
      rfl

/-- **What calls leave of a connection** is what those that succeed leave. -/
theorem after_eq (c : Connection κ) (calls : List (Setup κ)) :
    c.after calls = c.updated (c.succeeded calls) := by
  induction calls generalizing c with
  | nil => exact (updated_nil c).symm
  | cons call rest ih =>
      rw [after, succeeded]
      cases hrun : call.run c with
      | error failure => exact ih c
      | ok c' =>
          show c'.after rest = c.updated ([call] ++ c'.succeeded rest)
          rw [updated_append, ← run_eq_ok hrun, ih]

/-- Calls prepare a connection. -/
theorem Prepared.after (h : c.Prepared) (calls : List (Setup κ)) : (c.after calls).Prepared := by
  induction calls generalizing c with
  | nil => exact h
  | cons call rest ih =>
      rw [Connection.after]
      cases hrun : call.run c with
      | error failure => exact ih h
      | ok c' =>
          refine ih ?_
          cases call with
          | setUrl url => exact .setUrl h hrun
          | setMethod method => exact .setMethod h hrun
          | setHeader name value => exact Except.ok.inj hrun ▸ .setHeader h name value
          | setBody body => exact Except.ok.inj hrun ▸ .setBody h body
          | addCookie cookie => exact Except.ok.inj hrun ▸ .addCookie h cookie

/-! ## Requests -/

/-- What the provider has for a URL, if it is asked. -/
def provided (settings : Settings)
    (provider : Option (String → Except Failure (Option String))) (url : String) :
    Except Failure (Option String) :=
  match provider with
  | some cookies => if settings.sendCookies then cookies url else .ok none
  | none => .ok none

/-- The parts of the Cookie header after calls: what the provider has, unless it
    is empty, and the cookies that were added. -/
def cookieParts (pair : κ → List Char) (stored : Option String) (done : List (Setup κ)) :
    List (List Char) :=
  ((stored.filter fun text => !text.isEmpty).map String.toList).toList
    ++ (done.filterMap Setup.cookie?).map pair

/-- The parts with semicolons between them, if there are any. -/
def combined : List (List Char) → Option String
  | [] => none
  | parts => some (String.ofList ([';', ' '].intercalate parts))

/-- The layers of the headers after calls, with the given cookies. -/
def layers (settings : Settings) (done : List (Setup κ)) (cookies : Option String) : Headers :=
  ("User-Agent", settings.userAgent) :: settings.defaultHeaders
    ++ done.filterMap Setup.header? ++ (cookies.map fun text => ("Cookie", text)).toList

/-- The headers of a request without its cookies are merged. -/
theorem plainHeaders_updated (settings : Settings) (done : List (Setup κ)) :
    ((fresh settings).updated done).plainHeaders
      = Value.ofPairs (Headers.keyed (layers settings done none)) := by
  have hagent : lowerString "User-Agent" = "user-agent" := by decide
  rw [layers, Option.map_none, Option.toList_none, List.append_nil, Headers.keyed_append,
    Value.ofPairs_append, ← Value.assignAll_ofPairs]
  show List.foldl _ _ (_ ++ _) = _
  rw [List.foldl_append]
  show Value.assignAll _ (Value.assignAll _ [("user-agent", _)]) = _
  rw [← hagent]
  rfl

/-- **The headers of a request** are its layers, merged. -/
theorem requestHeaders_updated (settings : Settings) (done : List (Setup κ))
    (cookies : Option String) :
    ((fresh settings).updated done).requestHeaders cookies
      = (layers settings done cookies).merged := by
  cases cookies with
  | none => exact congrArg (List.map (·.2)) (plainHeaders_updated settings done)
  | some text =>
      have hcookie : lowerString "Cookie" = "cookie" := by decide
      have hlayers : layers settings done (some text)
          = layers settings done none ++ [("Cookie", text)] := by
        rw [layers, layers, Option.map_none, Option.toList_none, List.append_nil]
        rfl
      rw [hlayers, Headers.merged, Headers.keyed_append, Value.ofPairs_append,
        ← plainHeaders_updated]
      show List.map _ (Value.assign "cookie" ("Cookie", text) _) = _
      rw [← hcookie]
      rfl

/-- **The value of a header**: the cookies, or the last explicit header of the
    name, or the last default one, or the user agent. -/
theorem last?_layers (settings : Settings) (done : List (Setup κ)) (cookies : Option String)
    (asked : String) :
    (layers settings done cookies).last? asked
      = (if lowerString asked = "cookie" then cookies else none).or
          ((Headers.last? (done.filterMap Setup.header?) asked).or
            ((Headers.last? settings.defaultHeaders asked).or
              (if lowerString asked = "user-agent" then some settings.userAgent else none))) := by
  have hagent : Headers.sameName "User-Agent" asked = true ↔ lowerString asked = "user-agent" :=
    Headers.sameName_iff (by decide) asked
  have hcookie : Headers.sameName "Cookie" asked = true ↔ lowerString asked = "cookie" :=
    Headers.sameName_iff (by decide) asked
  have hcookies : Headers.last? (cookies.map fun text => ("Cookie", text)).toList asked
      = if lowerString asked = "cookie" then cookies else none := by
    cases cookies with
    | none => exact (ite_self none).symm
    | some text =>
        refine (Headers.last?_singleton _ _ _).trans ?_
        simp only [hcookie]
  have hdefaults :
      Headers.last? (("User-Agent", settings.userAgent) :: settings.defaultHeaders) asked
        = (Headers.last? settings.defaultHeaders asked).or
            (if lowerString asked = "user-agent" then some settings.userAgent else none) := by
    rw [← List.singleton_append, Headers.last?_append, Headers.last?_singleton]
    simp only [hagent]
  rw [layers, Headers.last?_append, Headers.last?_append, hcookies, hdefaults]

/-! ## What is built -/

/-- Is the request the one that calls on a new connection have prepared, with
    what the provider has stored? -/
structure Assembled (settings : Settings) (pair : κ → List Char) (stored : Option String)
    (done : List (Setup κ)) (r : Request) : Prop where
  url : (done.filterMap Setup.url?).getLast? = some r.url
  usable : ∃ u, Url.split r.url = .ok u ∧ (u.scheme = "http" ∨ u.scheme = "https") ∧ u.host ≠ ""
  method : r.method = (done.filterMap Setup.method?).getLast?.getD "GET"
  method_mem : r.method ∈ methods
  body : r.body = (done.filterMap Setup.body?).getLast?.getD none
  timeout : r.timeout = settings.timeout
  names : r.headers.names
    = (layers settings done (combined (cookieParts pair stored done))).names.eraseDups
  names_nodup : r.headers.names.Nodup
  header (asked : String) : r.header? asked
    = (if lowerString asked = "cookie" then combined (cookieParts pair stored done) else none).or
        ((Headers.last? (done.filterMap Setup.header?) asked).or
          ((Headers.last? settings.defaultHeaders asked).or
            (if lowerString asked = "user-agent" then some settings.userAgent else none)))

variable {provider : Option (String → Except Failure (Option String))}

/-- Without a URL no request is built. -/
theorem buildRequest_of_no_url (h : c.url = none) (pair : κ → List Char) :
    c.buildRequest pair provider = .error .noUrl := by
  rw [buildRequest, h]

/-- With one, a request is built if the provider does not fail. -/
theorem buildRequest_of_provided {url : String} {stored : Option String} (hurl : c.url = some url)
    (hstored : provided c.settings provider url = .ok stored) (pair : κ → List Char) :
    c.buildRequest pair provider = .ok ⟨c.method, url, c.requestHeaders (c.cookieText pair stored),
      c.body, c.settings.timeout⟩ := by
  rw [buildRequest, hurl]
  show Except.map _ (provided c.settings provider url) = _
  rw [hstored]
  rfl

theorem cookieText_updated (settings : Settings) (pair : κ → List Char) (stored : Option String)
    (done : List (Setup κ)) :
    ((fresh settings).updated done).cookieText pair stored
      = combined (cookieParts pair stored done) := rfl

/-- **The request of a new connection after calls.**  It is refused if no URL
    was accepted; otherwise it is put together from the last URL, the last
    method and the last body, and from the layers of headers, whatever calls
    have failed in between. -/
theorem buildRequest_after (settings : Settings) (calls : List (Setup κ)) (pair : κ → List Char)
    (provider : Option (String → Except Failure (Option String)))
    (hprovider : ∀ url,
      (((fresh settings).succeeded calls).filterMap Setup.url?).getLast? = some url →
        ∃ stored, provided settings provider url = .ok stored) :
    let done := (fresh settings).succeeded calls
    let built := ((fresh settings).after calls).buildRequest pair provider
    ((∃ failure, built = .error failure ∧ failure.kind = .argument) ↔
      done.filterMap Setup.url? = []) ∧
    (done.filterMap Setup.url? ≠ [] → ∃ r stored, built = .ok r ∧
      provided settings provider r.url = .ok stored ∧ Assembled settings pair stored done r) := by
  intro done built
  have hafter : (fresh settings).after calls = (fresh settings).updated done := after_eq _ calls
  have hprepared : ((fresh settings).updated done).Prepared :=
    hafter ▸ (Prepared.fresh settings).after calls
  cases hlast : (done.filterMap Setup.url?).getLast? with
  | none =>
      have hnil := List.getLast?_eq_none_iff.mp hlast
      have hurl : ((fresh settings).updated done).url = none := by
        rw [updated, hlast]
        rfl
      have hbuilt : built = .error .noUrl := by
        show buildRequest _ pair provider = _
        rw [hafter, buildRequest_of_no_url hurl]
      exact ⟨iff_of_true ⟨.noUrl, hbuilt, rfl⟩ hnil, fun hne => absurd hnil hne⟩
  | some url =>
      obtain ⟨stored, hstored⟩ := hprovider url hlast
      have hurl : ((fresh settings).updated done).url = some url := by
        rw [updated, hlast]
        rfl
      have hbuilt : built = .ok ⟨((fresh settings).updated done).method, url,
          (layers settings done (combined (cookieParts pair stored done))).merged,
          ((fresh settings).updated done).body, settings.timeout⟩ := by
        show buildRequest _ pair provider = _
        rw [hafter, buildRequest_of_provided hurl hstored, requestHeaders_updated,
          cookieText_updated]
        rfl
      have hne : done.filterMap Setup.url? ≠ [] := List.ne_nil_of_mem (List.mem_of_getLast? hlast)
      refine ⟨iff_of_false ?_ hne, fun _ => ⟨_, stored, hbuilt, hstored, ?_⟩⟩
      · rintro ⟨failure, hfailure, -⟩
        exact nomatch hbuilt.symm.trans hfailure
      · exact {
          url := hlast
          usable := (hprepared.accepts hurl).split
          method := rfl
          method_mem := hprepared.method_mem
          body := rfl
          timeout := rfl
          names := Headers.names_merged _
          names_nodup := Headers.nodup_names_merged _
          header := fun asked =>
            (Headers.first?_merged _ asked).trans (last?_layers settings done _ asked) }

/-- Of five calls the second URL and the second method are refused; the agent
    and a default header are overridden, and cookies take the place of a default
    one. -/
theorem buildRequest_after_overridden :
    let settings := { Settings.default with
      defaultHeaders := [("accept", "a"), ("cookie", "x=1"), ("Accept", "b")] }
    let calls : List (Setup (List Char)) := [.setUrl "http://h.org/a", .setMethod "post",
      .setHeader "user-Agent" "own", .setUrl "ftp://h.org/", .setHeader "x" "1",
      .setMethod "fetch", .setHeader "X" "2", .addCookie ['c', '=', '3']]
    let provider : Option (String → Except Failure (Option String)) :=
      some fun _ => .ok (some "b=2")
    (∀ url, provided settings provider url = .ok (some "b=2")) ∧
      ∃ r, ((fresh settings).after calls).buildRequest id provider = .ok r ∧
        Assembled settings id (some "b=2") ((fresh settings).succeeded calls) r ∧
        r.url = "http://h.org/a" ∧ r.method = "POST" ∧
        r.headers.names = ["user-agent", "accept", "cookie", "x"] ∧
        r.header? "COOKIE" = some "b=2; c=3" ∧ r.header? "X" = some "2" ∧
        r.header? "Accept" = some "b" ∧ r.header? "User-Agent" = some "own" := by
  intro settings calls provider
  have hstored : ∀ url, provided settings provider url = .ok (some "b=2") := fun _ => rfl
  have hdone : (fresh settings).succeeded calls = [.setUrl "http://h.org/a", .setMethod "post",
      .setHeader "user-Agent" "own", .setHeader "x" "1", .setHeader "X" "2",
      .addCookie ['c', '=', '3']] := by
    have hsplit : Url.split "http://h.org/a" = .ok ⟨"http", "h.org", "/a"⟩ := by cbv
    have hforeign : Url.split "ftp://h.org/" = .ok ⟨"ftp", "h.org", "/"⟩ := by cbv
    have haccepted : ∀ c : Connection (List Char), c.setUrl "http://h.org/a"
        = .ok { c with url := some "http://h.org/a" } :=
      fun _ => setUrl_eq_ok_iff.mpr ⟨⟨_, hsplit, by decide⟩, rfl⟩
    have hrefused : ∀ c : Connection (List Char), c.setUrl "ftp://h.org/"
        = .error (.unusableUrl "ftp://h.org/") := by
      intro c
      rw [setUrl, hforeign]
      rfl
    have hknown : ∀ c : Connection (List Char), c.setMethod "post"
        = .ok { c with method := "POST" } := fun _ => rfl
    have hunknown : ∀ c : Connection (List Char), c.setMethod "fetch"
        = .error (.unknownMethod "fetch") := fun _ => rfl
    simp only [calls, succeeded, Setup.run, haccepted, hrefused, hknown, hunknown]
  obtain ⟨-, hbuilt⟩ := buildRequest_after settings calls id provider fun url _ =>
    ⟨_, hstored url⟩
  obtain ⟨r, stored, hr, hstored', hassembled⟩ := hbuilt (by rw [hdone]; exact List.cons_ne_nil _ _)
  obtain rfl := Except.ok.inj (hstored'.symm.trans (hstored r.url))
  refine ⟨hstored, r, hr, hassembled, ?_⟩
  rw [hdone] at hassembled
  refine ⟨(Option.some.inj hassembled.url).symm, ?_, ?_, ?_, ?_, ?_, ?_⟩
  · exact hassembled.method
  · exact hassembled.names.trans (by decide)
  · exact (hassembled.header _).trans (by decide)
  · exact (hassembled.header _).trans (by decide)
  · exact (hassembled.header _).trans (by decide)
  · exact (hassembled.header _).trans (by decide)

end Connection

end HttpExchange
