import HttpExchange.Proofs.Jar.Coherence
import HttpExchange.Proofs.Jar.Provenance
import HttpExchange.Proofs.Text.Casing

/-! # Hosts that leave each other's cookies alone

    A cookie that gives no domain belongs to the host that set it, and is kept
    under a key with that host in it, without the points in front.  So what a
    host does without giving a domain touches its own keys only, and those of
    the hosts that differ from it by points in front: `h.org` and `.h.org` share
    their keys, although neither of them ever gets the cookies of the other.

    * `domainForm_host` tells what is left of a host in a key, which takes that
      a text in lower case stays in lower case when points are taken off;
    * `domain_of_touches` is the step, an arrival without a domain, and
      `hostOnly_survives` is about every entry of every run. -/

namespace HttpExchange.Jar

open Text

/-! ## Hosts in keys -/

theorem undotted_suffix (domain : String) : undotted domain <:+ domain.toList :=
  List.dropWhile_suffix _

/-- **A host in a key** has lost the points in front of it, and nothing else. -/
theorem domainForm_host (u : Url) : domainForm u.host = String.ofList (undotted u.host) := by
  have hlower : IsLower u.host.toList := by
    rw [Url.host, String.toList_ofList]
    exact isLower_lower _
  have hrest : IsLower (undotted u.host) :=
    fun c hc => hlower c ((undotted_suffix u.host).subset hc)
  rw [domainForm, ← undotted, lower_of_isLower hrest]

/-- Hosts with the same key are the same up to points in front. -/
theorem undotted_host_eq {u v : Url} (h : domainForm u.host = domainForm v.host) :
    undotted u.host = undotted v.host := by
  rw [domainForm_host, domainForm_host] at h
  exact String.ofList_injective h

/-! ## What an arrival without a domain touches -/

variable {url : String} {c : Cookie} {v : Url} {given : String}

/-- A cookie without a domain gets that of the host. -/
theorem Accepted.domain_eq_host {p : Place} (h : Accepted url c p)
    (hsplit : Url.split url = .ok v) (hgiven : textOf c.domain = .ok given)
    (hnone : undotted given = []) : p.domain = v.host := by
  obtain ⟨u, domain, path, hu, -, hdomain, -, -, rfl⟩ := h
  cases hu.symm.trans hsplit
  cases hdomain.symm.trans hgiven
  exact if_pos hnone

/-- **A cookie without a domain** touches keys of its host only. -/
theorem domain_of_touches {clock : Float} {k : Key} (hsplit : Url.split url = .ok v)
    (hgiven : textOf c.domain = .ok given) (hnone : undotted given = [])
    (h : (Event.arrival clock c url).Touches k) : k.domain = domainForm v.host := by
  rcases h with ⟨-, p, hplace, hdomain, -⟩ | ⟨e, ⟨hplace, -⟩, rfl⟩
  · rw [hdomain, hplace.domain_eq_host hsplit hgiven hnone]
  · exact congrArg domainForm (hplace.domain_eq_host hsplit hgiven hnone)

/-- The event is the arrival of a cookie from the URL that gives no domain. -/
def Event.NoDomainFrom (url : String) : Event → Prop
  | .arrival _ c origin => origin = url ∧ ∃ given, textOf c.domain = .ok given ∧ undotted given = []
  | .removal _ => False
  | .clearing => False

theorem Event.NoDomainFrom.domain_of_touches {ev : Event} {k : Key} (h : ev.NoDomainFrom url)
    (hsplit : Url.split url = .ok v) (htouches : ev.Touches k) : k.domain = domainForm v.host := by
  cases ev with
  | arrival clock c origin =>
      obtain ⟨rfl, given, hgiven, hnone⟩ := h
      exact Jar.domain_of_touches hsplit hgiven hnone htouches
  | removal l => exact h.elim
  | clearing => exact h.elim

/-! ## What survives -/

/-- The domain of an entry for one host alone is the host of the URL that set
    it. -/
theorem host_of_hostOnly {t : Float} {e : Entry} (h : (Event.arrival t c url).Stores e)
    (honly : e.hostOnly = true) : ∃ u, Url.split url = .ok u ∧ u.host = e.domain := by
  obtain ⟨⟨u, given, path, hsplit, -, -, -, -, hplace⟩, -⟩ := h
  have hnone : undotted given = [] :=
    of_decide_eq_true ((congrArg Place.hostOnly hplace).symm.trans honly)
  have hdomain : e.domain = u.host := (congrArg Place.domain hplace).trans (if_pos hnone)
  exact ⟨u, hsplit, hdomain.symm⟩

/-- **The cookies of a host survive what other hosts do.**  In every run, an
    entry for one host alone was stored by an arrival from a URL with that host.
    Cookies that arrive from another host and give no domain, be it to remove
    something, leave it as it was, if the hosts differ in more than the points in
    front of them. -/
theorem hostOnly_survives {history : List (Float × Operation)} {e : Entry}
    (he : e ∈ (run history).entries) (honly : e.hostOnly = true) {clock : Float} {o : Operation}
    (hsplit : Url.split url = .ok v) (hevents : ∀ ev ∈ o.events clock, ev.NoDomainFrom url) :
    ∃ earlier t given origin later u,
      trace history = earlier ++ .arrival t given origin :: later ∧
      (Event.arrival t given origin).Stores e ∧ (∀ ev ∈ later, ¬ ev.Touches e.key) ∧
      Url.split origin = .ok u ∧ u.host = e.domain ∧
      (undotted u.host ≠ undotted v.host →
        ((run history).perform clock o).state.find? e.key = some e) := by
  obtain ⟨earlier, t, given, origin, later, htrace, hstores, hlater⟩ := arrival_of_mem_run he
  obtain ⟨u, horigin, hhost⟩ := host_of_hostOnly hstores honly
  refine ⟨earlier, t, given, origin, later, u, htrace, hstores, hlater, horigin, hhost, ?_⟩
  intro hne
  have huntouched : ∀ ev ∈ o.events clock, ¬ ev.Touches e.key := by
    intro ev hev htouches
    have hkey : domainForm e.domain = domainForm v.host :=
      (hevents ev hev).domain_of_touches hsplit htouches
    rw [← hhost] at hkey
    exact hne (undotted_host_eq hkey)
  rw [perform_state, find?_foldl_of_not_touches _ huntouched]
  exact find?_of_mem_run he

/-- A cookie stays when the host below removes its own one of the same name. -/
theorem hostOnly_survives_removal :
    let history : List (Float × Operation) :=
      [(0, .insert (.ofPair (.str "a") (.str "1")) "http://h.org/")]
    let o : Operation :=
      .insert { Cookie.ofPair (.str "a") (.str "") with maxAge := 0 } "http://www.h.org/"
    let e : Entry := ⟨"h.org", "/", .text "a", .ofPair (.str "a") (.str "1"), true, none⟩
    e ∈ (run history).entries ∧ e.hostOnly = true ∧
      (∀ ev ∈ o.events 1, ev.NoDomainFrom "http://www.h.org/") ∧
      ((run history).perform 1 o).state.find? e.key = some e := by
  intro history o e
  have he : e ∈ (run history).entries := by
    show e ∈ [e]
    exact List.mem_singleton_self e
  have hevents : ∀ ev ∈ o.events 1, ev.NoDomainFrom "http://www.h.org/" := by
    rintro ev hev
    rw [List.mem_singleton.mp hev]
    exact ⟨rfl, "", rfl, rfl⟩
  have hsplit : Url.split "http://www.h.org/" = .ok ⟨"http", "www.h.org", "/"⟩ := by cbv
  obtain ⟨_, _, _, _, _, u, -, -, -, -, hhost, hsurvives⟩ :=
    hostOnly_survives he rfl hsplit hevents
  refine ⟨he, rfl, hevents, hsurvives ?_⟩
  rw [hhost]
  decide

/-- The host with a point in front overwrites the cookie, or removes it: its own
    one is kept under the same key. -/
theorem hostOnly_lost_to_dotted_host :
    let history : List (Float × Operation) :=
      [(0, .insert (.ofPair (.str "a") (.str "1")) "http://h.org/")]
    let e : Entry := ⟨"h.org", "/", .text "a", .ofPair (.str "a") (.str "1"), true, none⟩
    let other : Cookie := .ofPair (.str "a") (.str "2")
    let u : Url := ⟨"http", "h.org", "/"⟩
    let v : Url := ⟨"http", ".h.org", "/"⟩
    Url.split "http://h.org/" = .ok u ∧ Url.split "http://.h.org/" = .ok v ∧ u.host ≠ v.host ∧
      run history = ⟨[e]⟩ ∧ e.hostOnly = true ∧ u.host = e.domain ∧
      ((run history).perform 1 (.insert other "http://.h.org/")).state
        = ⟨[⟨".h.org", "/", .text "a", other, true, none⟩]⟩ ∧
      ((run history).perform 1 (.insert { other with maxAge := 0 } "http://.h.org/")).state
        = empty := by
  intro history e other u v
  have hsplit : Url.split "http://h.org/" = .ok u := by cbv
  have hsplit' : Url.split "http://.h.org/" = .ok v := by cbv
  have hrun : run history = ⟨[e]⟩ := by rfl
  have hstored : arrival 1 other "http://.h.org/"
      = .ok (.storage ".h.org" "/" true none other) := by rfl
  have hremoved : arrival 1 { other with maxAge := 0 } "http://.h.org/"
      = .ok (.removal ".h.org" "/" (.str "a")) := by rfl
  have hkey : e.key = ⟨domainForm ".h.org", "/", .text "a"⟩ := by decide
  refine ⟨hsplit, hsplit', by decide, hrun, rfl, by decide, ?_, ?_⟩
  · rw [hrun]
    show (insert ⟨[e]⟩ 1 other "http://.h.org/").state = _
    rw [insert, hstored]
    exact congrArg Jar.mk (if_pos hkey)
  · rw [hrun]
    show (insert ⟨[e]⟩ 1 { other with maxAge := 0 } "http://.h.org/").state = _
    rw [insert, hremoved]
    refine congrArg Jar.mk (List.filter_cons_of_neg ?_)
    rw [hkey]
    exact fun h => of_decide_eq_true h rfl

end HttpExchange.Jar
