import HttpExchange.Proofs.Jar.Replay
import HttpExchange.Proofs.Jar.Selection

/-! # Where the cookies for a request come from

    Every cookie that a store sends along was put in by an arrival that it
    accepted and that nothing has undone since.  The place of the cookie was
    fixed then, so the host that gets it now is in scope of the cookie as it
    came: no history makes a store hand a cookie to a host that the one that
    set it could not have set it for. -/

namespace HttpExchange.Jar

/-- A request to a URL is entitled to a cookie that was made of another one
    when that arrived from its own URL: both hosts are in scope of the cookie
    that arrived, the path is in scope of the cookie that is sent, and so is
    the security of the connection. -/
structure Entitled (url : String) (c : Cookie) (origin : String) (given : Cookie)
    (u v : Url) (domain path : String) : Prop where
  split_origin : Url.split origin = .ok u
  split_url : Url.split url = .ok v
  domain_eq : textOf given.domain = .ok domain
  path_eq : c.path = .str path
  host_eq : undotted domain = [] → v.host = u.host
  within : undotted domain ≠ [] →
    HostWithin (domainForm domain) u.host ∧ HostWithin (domainForm domain) v.host
  secure : c.secure = true → v.scheme = "https"
  pathWithin : PathWithin path (requestPath v)

/-- An entry that a cookie from a URL made goes only with requests that are
    entitled to it. -/
theorem entitled_of_goes {clock t : Float} {url origin : String} {given : Cookie} {v : Url}
    {e : Entry} (hstores : (Event.arrival t given origin).Stores e)
    (hsplit : Url.split url = .ok v) (hgoes : e.Goes clock v) :
    ∃ u domain path, Entitled url e.cookie origin given u v domain path := by
  obtain ⟨⟨u, domain, path, hu, -, hdomain, -, hwithin, hplace⟩, -, -, -, rfl⟩ := hstores
  -- the domain of the entry and the hosts that it is for were fixed on arrival
  have heDomain : e.domain = if undotted domain = [] then u.host else domainForm domain :=
    congrArg Place.domain hplace
  have heHost : e.hostOnly = decide (undotted domain = []) := congrArg Place.hostOnly hplace
  refine ⟨u, domain, e.path, hu, hsplit, hdomain, rfl, ?_, ?_, hgoes.secure, hgoes.path⟩
  · intro hempty
    have hhost := hgoes.host (heHost.trans (decide_eq_true hempty))
    rw [hhost, heDomain, if_pos hempty]
  · intro hne
    have hv := hgoes.within (heHost.trans (decide_eq_false hne))
    rw [heDomain, if_neg hne] at hv
    exact ⟨hwithin hne, hv⟩

theorem exists_arrival_of_stores {ev : Event} {e : Entry} (h : ev.Stores e) :
    ∃ t c url, ev = .arrival t c url := by
  cases ev with
  | arrival t c url => exact ⟨t, c, url, rfl⟩
  | removal k => exact h.elim
  | clearing => exact h.elim

/-- Every entry was stored by an arrival that nothing has undone since. -/
theorem arrival_of_mem_run {history : List (Float × Operation)} {e : Entry}
    (he : e ∈ (run history).entries) :
    ∃ earlier t given origin later,
      trace history = earlier ++ .arrival t given origin :: later ∧
      (Event.arrival t given origin).Stores e ∧ ∀ ev ∈ later, ¬ ev.Touches e.key := by
  obtain ⟨earlier, ev, later, htrace, hstores, -, hlater⟩ := lastStored_of_mem_run he
  obtain ⟨t, given, origin, rfl⟩ := exists_arrival_of_stores hstores
  exact ⟨earlier, t, given, origin, later, htrace, hstores, hlater⟩

/-- A cookie that is stored is inserted without a failure. -/
theorem insert_result_of_stores {t : Float} {c : Cookie} {url : String} {e : Entry}
    (h : (Event.arrival t c url).Stores e) (j : Jar) : (j.insert t c url).result = .ok () := by
  obtain ⟨harrival, hname⟩ := stores_arrival_iff.mp h
  rw [insert, harrival]
  show (j.receive (.storage e.domain e.path e.hostOnly e.expiresAt e.origin)).result = _
  rw [receive, hname]
  rfl

/-- **Every cookie for a request comes from an arrival** that was accepted, and
    whose entry has not been replaced or dropped since; and the request is
    entitled to it. -/
theorem cookiesFor_run {history : List (Float × Operation)} {clock : Float} {url : String}
    {cookies : List Cookie} (h : (run history).cookiesFor clock url = .ok cookies) {c : Cookie}
    (hc : c ∈ cookies) :
    ∃ earlier t given origin later e, trace history = earlier ++ .arrival t given origin :: later ∧
      ((replay earlier).insert t given origin).result = .ok () ∧
      (Event.arrival t given origin).Stores e ∧ (∀ ev ∈ later, ¬ ev.Touches e.key) ∧
      c = e.cookie ∧ ∃ u v domain path, Entitled url c origin given u v domain path := by
  obtain ⟨v, e, hsplit, hmem, hgoes, rfl⟩ := mem_cookiesFor h hc
  obtain ⟨earlier, ev, later, htrace, hstores, -, hlater⟩ := lastStored_of_mem_run hmem
  obtain ⟨t, given, origin, rfl⟩ := exists_arrival_of_stores hstores
  obtain ⟨u, domain, path, hentitled⟩ := entitled_of_goes hstores hsplit hgoes
  exact ⟨earlier, t, given, origin, later, e, htrace, insert_result_of_stores hstores _, hstores,
    hlater, rfl, u, v, domain, path, hentitled⟩

/-- A secure cookie of a domain goes to another host of the domain, after the
    removal of a cookie with another path. -/
theorem cookiesFor_run_domain :
    let given : Cookie :=
      { Cookie.ofPair (.str "id") (.str "1") with domain := .str ".H.org", secure := true }
    let c : Cookie := { given with domain := .str "h.org", path := .str "/x" }
    let history : List (Float × Operation) :=
      [(0, .insert given "https://www.h.org/x/y"), (0, .remove ⟨"h.org", "/", .text "id"⟩)]
    (run history).cookiesFor 0 "https://h.org/x/z" = .ok [c] ∧
      ∃ earlier t given origin later e,
        trace history = earlier ++ .arrival t given origin :: later ∧
        ((replay earlier).insert t given origin).result = .ok () ∧
        (Event.arrival t given origin).Stores e ∧ (∀ ev ∈ later, ¬ ev.Touches e.key) ∧
        c = e.cookie ∧
        ∃ u v domain path, Entitled "https://h.org/x/z" c origin given u v domain path := by
  refine ⟨?sent, cookiesFor_run ?sent List.mem_cons_self⟩
  rfl

end HttpExchange.Jar
