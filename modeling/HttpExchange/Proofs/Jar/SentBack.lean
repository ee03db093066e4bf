import HttpExchange.Proofs.Jar.Ordering
import HttpExchange.Proofs.Jar.Sending

/-! # What a URL gets back

    The host and the path of a cookie are worked out when it arrives, and again
    when it is asked for.  Both ways agree: a cookie that may be set by a URL is
    sent back to that URL, and it is the only one with its domain, path and
    name.  A cookie without a path gets the default path of its URL, which
    covers the URL whatever its path looks like. -/

namespace HttpExchange

/-- A URL with a host has one as it is written. -/
theorem Url.hasHost_of_host_ne_empty {u : Url} (h : u.host ≠ "") : u.hasHost = true := by
  rw [hasHost, Bool.not_eq_true', List.isEmpty_eq_false_iff]
  intro hempty
  rw [host, hempty] at h
  exact h rfl

namespace Jar

variable {clock : Float} {c : Cookie} {url given path : String} {u : Url} {name : Atom} {p : Place}

/-- The entry that a cookie of the session is kept as. -/
def sessionEntry (c : Cookie) (p : Place) (name : Atom) : Entry :=
  ⟨p.domain, p.path, name, c, p.hostOnly, none⟩

/-- **A cookie of the session is kept** in the place in which it is accepted,
    whatever the store holds. -/
theorem insert_of_session (haccepted : Accepted url c p) (hname : c.name.atom? = some name)
    (hage : c.maxAge < 0) (j : Jar) (clock : Float) :
    j.insert clock c url = .done ⟨put (sessionEntry c p name) j.entries⟩ () := by
  have hexpiry : expiry clock c.maxAge = .ok none := if_neg (by omega)
  rw [insert, arrival_of_accepted haccepted, settled, if_neg (by omega), hexpiry]
  show j.receive (.storage p.domain p.path p.hostOnly none c) = _
  rw [receive, hname]
  rfl

/-- The place of a cookie covers the path of the URL, if its own path does or
    it has none. -/
theorem pathWithin_placeOf (hsplit : Url.split url = .ok u) (hhost : u.host ≠ "")
    (hscope : path.toList.head? ≠ some '/' ∨ PathWithin path (requestPath u)) (given : String) :
    PathWithin (placeOf u given path).path (requestPath u) := by
  show PathWithin (pathOf path u) (requestPath u)
  rw [pathOf]
  split
  · next hslash => exact hscope.resolve_left fun hne => hne hslash
  · rw [← defaultPath_requestPath]
    exact pathWithin_defaultPath (head?_requestPath hsplit (Url.hasHost_of_host_ne_empty hhost))

/-- It goes with a request to the URL. -/
theorem goes_sessionEntry (hsplit : Url.split url = .ok u) (hhost : u.host ≠ "")
    (hdomain : undotted given ≠ [] → HostWithin (domainForm given) u.host)
    (hscope : path.toList.head? ≠ some '/' ∨ PathWithin path (requestPath u))
    (hsecure : c.secure = true → u.scheme = "https") (name : Atom) (clock : Float) :
    (sessionEntry c (placeOf u given path) name).Goes clock u where
  fresh := rfl
  host honly := (if_pos (of_decide_eq_true honly)).symm
  within hdomainOnly := by
    have hne : undotted given ≠ [] := of_decide_eq_false hdomainOnly
    show HostWithin (if undotted given = [] then u.host else domainForm given) u.host
    rw [if_neg hne]
    exact hdomain hne
  path := pathWithin_placeOf hsplit hhost hscope given
  secure := hsecure

/-- An entry that is selected is selected once: no other one has its domain,
    path and name. -/
theorem selected_eq_append {history : List (Float × Operation)} {e : Entry}
    (he : e ∈ (run history).selected clock u) :
    ∃ front back, (run history).selected clock u = front ++ e :: back ∧
      ∀ d ∈ front ++ back, d.key ≠ e.key := by
  have hnodup : ((run history).selected clock u).Nodup :=
    (perm_sortByPath _).nodup_iff.mpr
      ((List.Nodup.of_map _ (nodup_keys_run history)).filter _)
  obtain ⟨front, back, hcut⟩ := List.append_of_mem he
  refine ⟨front, back, hcut, ?_⟩
  intro d hd hkey
  have hmem : d ∈ (run history).selected clock u := by
    rw [hcut]
    exact List.mem_append.mpr ((List.mem_append.mp hd).imp_right (List.mem_cons_of_mem e))
  have heq : d = e := List.inj_on_of_nodup_map (nodup_keys_run history)
    (mem_selected_iff.mp hmem).1 (mem_selected_iff.mp he).1 hkey
  rw [hcut, List.nodup_middle] at hnodup
  exact (List.nodup_cons.mp hnodup).1 (heq ▸ hd)

/-- **A cookie is sent back to its URL**: whatever was done to the store, once
    a URL with a host has set a cookie of the session whose domain, path and
    security let the URL have it, the cookies for the URL are the cookie in its
    place and others that differ from it in the domain, the path or the name. -/
theorem cookiesFor_own (history : List (Float × Operation)) (clock clock' : Float)
    (hsplit : Url.split url = .ok u) (hhost : u.host ≠ "")
    (hgiven : textOf c.domain = .ok given) (hpath : textOf c.path = .ok path)
    (hname : c.name.atom? = some name) (hage : c.maxAge < 0)
    (hdomain : undotted given = [] ∨ HostWithin (domainForm given) u.host)
    (hscope : path.toList.head? ≠ some '/' ∨ PathWithin path (requestPath u))
    (hsecure : c.secure = true → u.scheme = "https") :
    let p := placeOf u given path
    ((run history).insert clock c url).result = .ok () ∧
      ∃ front back,
        ((run history).insert clock c url).state.cookiesFor clock' url
          = .ok (front ++ { c with domain := .str p.domain, path := .str p.path } :: back) ∧
        ∀ d ∈ front ++ back,
          ¬ (d.domain = .str p.domain ∧ d.path = .str p.path ∧ d.name.atom? = some name) := by
  intro p
  have hwithin : undotted given ≠ [] → HostWithin (domainForm given) u.host := hdomain.resolve_left
  have haccepted : Accepted url c p :=
    ⟨u, given, path, hsplit, hhost, hgiven, hpath, hwithin, rfl⟩
  have hinsert := insert_of_session haccepted hname hage (run history) clock
  -- the store with the cookie is one to which a history leads, too
  have hrun : run (history ++ [(clock, .insert c url)])
      = ⟨put (sessionEntry c p name) (run history).entries⟩ := by
    have hstep : run (history ++ [(clock, .insert c url)])
        = ((run history).insert clock c url).state := List.foldl_concat ..
    rw [hstep, hinsert]
    rfl
  have hselected : sessionEntry c p name
      ∈ (run (history ++ [(clock, .insert c url)])).selected clock' u := by
    rw [hrun]
    exact mem_selected_iff.mpr ⟨mem_put _ _,
      goes_sessionEntry hsplit hhost hwithin hscope hsecure name clock'⟩
  obtain ⟨front, back, hcut, hothers⟩ := selected_eq_append hselected
  rw [hinsert]
  refine ⟨rfl, front.map Entry.cookie, back.map Entry.cookie, ?_, ?_⟩
  · show cookiesFor ⟨put (sessionEntry c p name) (run history).entries⟩ clock' url = _
    rw [← hrun, cookiesFor, hsplit]
    dsimp only
    rw [hcut, List.map_append, List.map_cons]
    rfl
  · intro d hd
    rw [← List.map_append] at hd
    obtain ⟨e, he, rfl⟩ := List.mem_map.mp hd
    rintro ⟨hedomain, hepath, hename⟩
    have hmem : e ∈ (run (history ++ [(clock, .insert c url)])).entries := by
      refine (mem_selected_iff.mp (?_ : e ∈ selected _ clock' u)).1
      rw [hcut]
      exact List.mem_append.mpr ((List.mem_append.mp he).imp_right (List.mem_cons_of_mem _))
    refine hothers e he ?_
    have hkept : e.name = name :=
      Option.some.inj ((name_of_mem_run hmem).symm.trans hename)
    show (⟨domainForm e.domain, e.path, e.name⟩ : Key) = ⟨domainForm p.domain, p.path, name⟩
    rw [hkept, Value.str.inj hedomain, Value.str.inj hepath]

/-- A cookie without a domain and a path comes back to a URL whose path is full
    of slashes, next to one of the same name. -/
theorem cookiesFor_own_slashes :
    let c := Cookie.ofPair (.str "n") (.str "v")
    let history : List (Float × Operation) :=
      [(0, .insert (.ofPair (.str "n") (.str "w")) "https://h.org/")]
    let p := placeOf ⟨"http", "h.org", "//a//"⟩ "" ""
    p = ⟨"h.org", "//a/", true⟩ ∧
      ((run history).insert 0 c "http://h.org//a//?b").state.header? 1 "http://h.org//a//?b"
        = .ok (some "n=v; n=w") ∧
      ((run history).insert 0 c "http://h.org//a//?b").result = .ok () ∧
      ∃ front back,
        ((run history).insert 0 c "http://h.org//a//?b").state.cookiesFor 1 "http://h.org//a//?b"
          = .ok (front ++ { c with domain := .str p.domain, path := .str p.path } :: back) ∧
        ∀ d ∈ front ++ back,
          ¬ (d.domain = .str p.domain ∧ d.path = .str p.path ∧
            d.name.atom? = some (.text "n")) := by
  intro c history p
  have hsplit : Url.split "http://h.org//a//?b" = .ok ⟨"http", "h.org", "//a//"⟩ := by cbv
  refine ⟨by rfl, ?_, cookiesFor_own history 0 1 hsplit (by decide) rfl rfl rfl (by decide)
    (.inl rfl) (.inl (by decide)) fun h => absurd h Bool.false_ne_true⟩
  dsimp only [c, history]
  rfl

end Jar

end HttpExchange
