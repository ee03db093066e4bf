import HttpExchange.Module.Basic
import HttpExchange.Proofs.Connection.CookieHeader
import HttpExchange.Proofs.Connection.Processing
import HttpExchange.Proofs.Jar.Sending

/-! # Cookies between the connections of a module

    The connections of a module share its cookie store.  So a cookie that one
    of them is given comes back with the requests of all others to the same
    host, whatever else they send. -/

namespace HttpExchange

open Text

namespace Exchange

variable {κ τ : Type} {x : Exchange κ τ} {now : Reading} {clock : Float} {url : String} {u : Url}
variable {name value : List Char}

/-- **An exchange keeps a cookie for the root** when it comes last, however the
    exchange ends. -/
theorem mem_run_rootHeader {j : Jar} {r : Request} {response : Response} {earlier : List String}
    {pair : κ → List Char} {send : τ → Request → Transition τ Response}
    (hsplit : Url.split url = .ok u) (husable : Connection.isUsable u = true)
    (hjar : x.jar = some j) (hstore : x.connection.settings.storeCookies = true)
    (hrequest : x.request pair clock = .ok r) (hr : r.url = url)
    (hresponse : (send x.transport r).result = .ok response)
    (hname : Cookie.IsName name) (hvalue : Cookie.IsBare value)
    (hheaders : response.headerAll "set-cookie" = earlier ++ [Jar.rootHeader name value])
    (hearlier : (j.setCookies now clock url earlier).result = .ok ()) :
    ∃ kept, (x.run pair now clock send).state.jar = some kept ∧
      Jar.rootEntry u name value ∈ kept.entries := by
  have hprocessed := processed_process { x with transport := (send x.transport r).state } now
    clock r response
  have hkept := hprocessed.kept j hjar hstore
    (by rw [hheaders]; exact List.append_ne_nil_of_right_ne_nil _ (List.cons_ne_nil _ _))
  rw [run_of_response hrequest hresponse, Transition.after_state, hkept, hheaders, hr]
  exact ⟨_, rfl, Jar.mem_setCookies_rootHeader hsplit husable hname hvalue hearlier⟩

/-- **A cookie for the root is sent** in every request to its host. -/
theorem request_of_mem_rootEntry {kept : Jar} {url' : String} {u' : Url}
    (hname : Cookie.IsName name) (hvalue : Cookie.IsBare value)
    (hmem : Jar.rootEntry u name value ∈ kept.entries) (hprepared : x.connection.Prepared)
    (hsend : x.connection.settings.sendCookies = true) (hjar : x.jar = some kept)
    (hurl : x.connection.url = some url') (hsplit : Url.split url' = .ok u')
    (hhost : u'.host = u.host) (pair : κ → List Char) (clock : Float) :
    ∃ r text, x.request pair clock = .ok r ∧ r.header? "cookie" = some text ∧
      Cookie.ofText name value ∈ Cookie.requestCookies text := by
  have husable : Connection.isUsable u' = true :=
    (Connection.accepts_iff_of_split hsplit).mp (hprepared.accepts hurl)
  have hgoes := Jar.goes_rootEntry name value hsplit husable hhost clock
  obtain ⟨text, htext, hpairs⟩ := Jar.pairsOf_header? hsplit hmem hgoes
  obtain ⟨r, hrequest, hheader⟩ := request_of_stored hprepared hurl hjar hsend htext pair
  have hpair : (Jar.rootEntry u name value).cookie.pair = name ++ '=' :: value := by
    simp [Jar.rootEntry, Jar.Entry.cookie, Jar.rootCookie, Cookie.pair, Cookie.ofText,
      Cookie.ofPair]
  rw [hpair, Cookie.pairsOf_pair hname hvalue] at hpairs
  refine ⟨r, _, hrequest, hheader, List.mem_map.mpr ⟨(name, value), ?_, rfl⟩⟩
  rw [String.toList_ofList, Cookie.pairsOf_intercalate, List.flatMap_cons]
  exact List.mem_append_left _ (hpairs _ (List.mem_singleton_self _))

end Exchange

namespace Module

variable {κ τ : Type} {m : Module Jar} {c : Connection κ} {url : String} {u : Url}
variable {name value : List Char}

/-- **A cookie comes back** with every connection of the module: once a
    connection has been answered with it behind headers that the store takes,
    and whatever comes of the exchange then, the store is in a state in which
    every other connection of the module, whatever has been done to it, builds
    requests to the host that hold the cookie. -/
theorem cookie_returns (hsend : m.settings.sendCookies = true)
    (hstore : m.settings.storeCookies = true) (hprepared : c.Prepared)
    (hmade : c.settings = m.settings) (hurl : c.url = some url) (hsplit : Url.split url = .ok u)
    (hname : Cookie.IsName name) (hvalue : Cookie.IsBare value) (pair : κ → List Char)
    (now : Reading) (clock : Float) (transport : τ)
    (send : τ → Request → Transition τ Response) :
    ∃ r, Exchange.request ⟨c, some m.jar, transport⟩ pair clock = .ok r ∧
      ∀ response earlier, (send transport r).result = .ok response →
        response.headerAll "set-cookie" = earlier ++ [Jar.rootHeader name value] →
        (m.jar.setCookies now clock url earlier).result = .ok () →
        ∃ kept,
          (Exchange.run ⟨c, some m.jar, transport⟩ pair now clock send).state.jar = some kept ∧
          ∀ x : Exchange κ τ, x.connection.Prepared → x.connection.settings = m.settings →
            x.jar = some kept →
            ∀ url' u', x.connection.url = some url' → Url.split url' = .ok u' →
              u'.host = u.host → ∀ pair' clock', ∃ r' text, x.request pair' clock' = .ok r' ∧
                r'.header? "cookie" = some text ∧
                Cookie.ofText name value ∈ Cookie.requestCookies text := by
  have haccepts := hprepared.accepts hurl
  have husable := (Connection.accepts_iff_of_split hsplit).mp haccepts
  obtain ⟨r, hrequest, hr, -⟩ :=
    Exchange.request_of_accepts (x := ⟨c, some m.jar, transport⟩) haccepts hurl pair clock
  refine ⟨r, hrequest, ?_⟩
  intro response earlier hresponse hheaders hearlier
  obtain ⟨kept, hkept, hmem⟩ := Exchange.mem_run_rootHeader hsplit husable rfl
    (hmade ▸ hstore) hrequest hr hresponse hname hvalue hheaders hearlier
  refine ⟨kept, hkept, ?_⟩
  intro x hother hsettings hjar url' u' hurl' hsplit' hhost pair' clock'
  exact Exchange.request_of_mem_rootEntry hname hvalue hmem hother (hsettings ▸ hsend) hjar hurl'
    hsplit' hhost pair' clock'

/-- A cookie that comes with an error status goes along with a request to
    another port of the host, although that sets a Cookie header and has a cookie
    of the same name. -/
theorem cookie_returns_error_status :
    let now : Reading := .ok ⟨62135596800000000, none⟩
    let given : Settings.Given := { Settings.Given.none with errorForStatus := some true }
    let m : Module Jar := ⟨Jar.empty, given, true⟩
    let c : Connection Unit := { m.newConnection with url := some "http://example.com/a?b" }
    let response : Response :=
      ⟨500, [("Set-Cookie", "no name"), ("set-cookie", "n=v; Path=/")], []⟩
    let other : Connection Unit :=
      { ((m.newConnection.setHeader "Cookie" "x=y").addCookie ()) with
        url := some "https://EXAMPLE.com:8443" }
    let t := Exchange.run ⟨c, some m.jar, ()⟩ (fun _ => []) now 0 fun _ _ => .done () response
    ∃ r text, Exchange.request ⟨other, t.state.jar, ()⟩ (fun _ => "n=w".toList) 1 = .ok r ∧
      r.header? "cookie" = some text ∧
      Cookie.ofText ['n'] ['v'] ∈ Cookie.requestCookies text := by
  intro now given m c response other t
  have hsplit : Url.split "http://example.com/a?b" = .ok ⟨"http", "example.com", "/a"⟩ := by cbv
  have hsplit' : Url.split "https://EXAMPLE.com:8443" = .ok ⟨"https", "EXAMPLE.com:8443", ""⟩ := by
    cbv
  have hprepared : c.Prepared :=
    .setUrl (.fresh m.settings) (Connection.setUrl_eq_ok_iff.mpr ⟨⟨_, hsplit, by decide⟩, rfl⟩)
  have hother : other.Prepared :=
    .setUrl (.addCookie (.setHeader (.fresh m.settings) "Cookie" "x=y") ())
      (Connection.setUrl_eq_ok_iff.mpr ⟨⟨_, hsplit', by decide⟩, rfl⟩)
  have hheaders : response.headerAll "set-cookie"
      = ["no name"] ++ [Jar.rootHeader ['n'] ['v']] := by
    decide +kernel
  have hearlier :
      (m.jar.setCookies now 0 "http://example.com/a?b" ["no name"]).result = .ok () := by
    rfl
  have hname : Cookie.IsName ['n'] := by decide
  have hvalue : Cookie.IsBare ['v'] := by decide
  obtain ⟨r, -, hreturns⟩ := cookie_returns (m := m) (c := c) rfl rfl hprepared rfl rfl hsplit
    hname hvalue (fun _ => []) now 0 () fun _ _ => .done () response
  obtain ⟨kept, hkept, hsent⟩ := hreturns response ["no name"] rfl hheaders hearlier
  exact hsent ⟨other, t.state.jar, ()⟩ hother rfl hkept _ _ rfl hsplit' (by decide) _ _

end Module

end HttpExchange
