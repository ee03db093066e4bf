import HttpExchange.Proofs.Jar.Ordering

/-! # What the reads of a store agree on

    A store can be read in six ways: by key, with or without expired cookies,
    by listing, with or without them, by URL, and by counting.  Every read has
    a test of expiry or a key of its own, and in every store to which a history
    leads they tell the same story.

    * `ownKey?` is the key under which a cookie asks for itself;
    * `RunsOut` is when the age of a cookie has run out that was stored at a
      reading of the clock;
    * `Entry.Coherent` is what all reads say about one entry, and
      `reads_agree` that they say so about every cookie that is listed. -/

namespace HttpExchange.Jar

variable {history : List (Float × Operation)} {c : Cookie} {e : Entry} {p : Place}
variable {t stored : Float} {u : Url} {url : String}

/-! ## Where a cookie is kept -/

theorem Accepted.domain_ne_empty (h : Accepted url c p) : p.domain ≠ "" := by
  obtain ⟨u, given, path, -, hhost, -, -, -, rfl⟩ := h
  show (if undotted given = [] then u.host else domainForm given) ≠ ""
  split
  · exact hhost
  · next hgiven => exact fun hempty => hgiven ((domainForm_eq_empty_iff given).mp hempty)

theorem Accepted.head?_path (h : Accepted url c p) : p.path.toList.head? = some '/' := by
  obtain ⟨u, given, path, -, -, -, -, -, rfl⟩ := h
  show (pathOf path u).toList.head? = some '/'
  rw [pathOf]
  split
  · assumption
  · exact head?_defaultPath u.path

/-- The key under which a cookie asks for itself: that of its own domain, path
    and name. -/
def ownKey? (c : Cookie) : Option Key :=
  match c.domain, c.path, c.name.atom? with
  | .str domain, .str path, some name => some ⟨domainForm domain, path, name⟩
  | _, _, _ => none

/-- **Every cookie of a store is kept under its own key.** -/
theorem ownKey?_cookie (he : e ∈ (run history).entries) : ownKey? e.cookie = some e.key := by
  have hname : e.cookie.name.atom? = some e.name := name_of_mem_run he
  rw [ownKey?, hname]
  rfl

/-! ## When a cookie has expired -/

/-- The age of a cookie that was stored at one reading of the clock has run out
    at another: it is positive, and the sum of the first reading and the age,
    as the clock adds, is not behind the second one. -/
def RunsOut (stored : Float) (age : Int) (t : Float) : Prop :=
  0 < age ∧ ∃ seconds, Binary64.ofInt? age = some seconds ∧ stored + seconds ≤ t

/-- **An entry has expired** when the age of its cookie has run out since it was
    stored. -/
theorem expired_iff_of_stores {given : Cookie} (h : (Event.arrival stored given url).Stores e)
    (t : Float) : e.expired t = true ↔ RunsOut stored e.cookie.maxAge t := by
  obtain ⟨-, -, hexpiry, -, rfl⟩ := h
  show e.expired t = true ↔ RunsOut stored e.origin.maxAge t
  rw [expiry] at hexpiry
  rw [Entry.expired, RunsOut]
  by_cases hage : 0 < e.origin.maxAge
  · rw [if_pos hage] at hexpiry
    cases hseconds : Binary64.ofInt? e.origin.maxAge with
    | none =>
        rw [hseconds] at hexpiry
        exact nomatch hexpiry
    | some seconds =>
        rw [hseconds] at hexpiry
        simp [← Except.ok.inj hexpiry, hage]
  · rw [if_neg hage] at hexpiry
    simp [← Except.ok.inj hexpiry, hage]

/-! ## The reads of one entry -/

theorem find?_of_mem_run (he : e ∈ (run history).entries) :
    (run history).find? e.key = some e := find?_key (nodup_keys_run history) he

theorem get?_of_mem_run (he : e ∈ (run history).entries) (t : Float) :
    (run history).get? t e.key = if e.expired t then none else some e.cookie := by
  rw [get?, find?_of_mem_run he]

/-- A cookie is handed out by its key as long as its entry has not expired. -/
theorem get?_eq_some_iff (he : e ∈ (run history).entries) (t : Float) :
    (run history).get? t e.key = some e.cookie ↔ e.expired t = false := by
  rw [get?_of_mem_run he]
  cases e.expired t with
  | true => simp
  | false => simp

theorem contains_eq (he : e ∈ (run history).entries) (t : Float) :
    (run history).contains t e.key = !e.expired t := by
  rw [contains, get?_of_mem_run he]
  cases e.expired t with
  | true => rfl
  | false => rfl

/-- The listing of the cookies that have not expired has those of the entries
    that have not. -/
theorem mem_unexpired_iff (he : e ∈ (run history).entries) (t : Float) :
    e.cookie ∈ (run history).unexpired t ↔ e.expired t = false := by
  rw [unexpired, List.mem_map]
  constructor
  · rintro ⟨d, hd, hcookie⟩
    obtain ⟨hmem, hfresh⟩ := List.mem_filter.mp hd
    rw [← eq_of_cookie_eq hmem he hcookie]
    simpa using hfresh
  · intro hfresh
    exact ⟨e, List.mem_filter.mpr ⟨he, by simp [hfresh]⟩, rfl⟩

/-- A URL is in scope of an entry, whatever the clock shows: its host is covered
    by the domain, its path by the path, and it is as secure as the cookie
    asks. -/
structure Entry.InScope (e : Entry) (u : Url) : Prop where
  host : e.hostOnly = true → u.host = e.domain
  within : e.hostOnly = false → HostWithin e.domain u.host
  path : PathWithin e.path (requestPath u)
  secure : e.cookie.secure = true → u.scheme = "https"

theorem goes_iff : e.Goes t u ↔ e.expired t = false ∧ e.InScope u := by
  constructor
  · rintro ⟨hfresh, hhost, hwithin, hpath, hsecure⟩
    exact ⟨hfresh, hhost, hwithin, hpath, hsecure⟩
  · rintro ⟨hfresh, hhost, hwithin, hpath, hsecure⟩
    exact ⟨hfresh, hhost, hwithin, hpath, hsecure⟩

/-- The cookies for a URL have those of the entries that have not expired and
    have the URL in scope. -/
theorem mem_cookiesFor_iff (he : e ∈ (run history).entries) (t : Float)
    (hsplit : Url.split url = .ok u) :
    ∃ cookies, (run history).cookiesFor t url = .ok cookies ∧
      (e.cookie ∈ cookies ↔ e.expired t = false ∧ e.InScope u) := by
  have hcookies : (run history).cookiesFor t url
      = .ok (((run history).selected t u).map Entry.cookie) := by
    rw [cookiesFor, hsplit]
  refine ⟨_, hcookies, ?_⟩
  rw [List.mem_map, ← goes_iff]
  constructor
  · rintro ⟨d, hd, hcookie⟩
    obtain ⟨hmem, hgoes⟩ := mem_selected_iff.mp hd
    exact eq_of_cookie_eq hmem he hcookie ▸ hgoes
  · intro hgoes
    exact ⟨e, mem_selected_iff.mpr ⟨he, hgoes⟩, rfl⟩

/-! ## All reads -/

/-- What the reads of a store to which a history leads say about one of its
    entries at a reading of the clock. -/
structure Entry.Coherent (e : Entry) (history : List (Float × Operation)) (t : Float) : Prop where
  domain : ∃ domain, e.cookie.domain = .str domain ∧ domain ≠ ""
  path : ∃ path, e.cookie.path = .str path ∧ path.toList.head? = some '/'
  maxAge : e.cookie.maxAge ≠ 0
  ownKey : ownKey? e.cookie = some e.key
  getAny : (run history).getAny? e.key = some e.cookie
  /-- It was stored by an arrival that nothing has undone since, and is handed
      out by its key until its age has run out since then. -/
  get : ∃ earlier stored given url later,
    trace history = earlier ++ .arrival stored given url :: later ∧
    (Event.arrival stored given url).Stores e ∧ (∀ ev ∈ later, ¬ ev.Touches e.key) ∧
    (¬ RunsOut stored e.cookie.maxAge t → (run history).get? t e.key = some e.cookie) ∧
    (RunsOut stored e.cookie.maxAge t → (run history).get? t e.key = none)
  contains : (run history).contains t e.key = true ↔
    (run history).get? t e.key = some e.cookie
  unexpired : e.cookie ∈ (run history).unexpired t ↔
    (run history).get? t e.key = some e.cookie
  matched : ∀ url u, Url.split url = .ok u →
    ∃ cookies, (run history).cookiesFor t url = .ok cookies ∧
      (e.cookie ∈ cookies ↔ (run history).get? t e.key = some e.cookie ∧ e.InScope u)

/-- The reads agree on every entry. -/
theorem coherent_of_mem_run (he : e ∈ (run history).entries) (t : Float) :
    e.Coherent history t := by
  obtain ⟨earlier, ev, later, htrace, hstores, -, hlater⟩ := lastStored_of_mem_run he
  cases ev with
  | removal k => exact hstores.elim
  | clearing => exact hstores.elim
  | arrival stored given url =>
      have hexpired := expired_iff_of_stores hstores t
      have hget := get?_eq_some_iff he t
      have haccepted := hstores.1
      have horigin : e.origin = given := hstores.2.2.2.2
      refine ⟨⟨e.domain, rfl, haccepted.domain_ne_empty⟩, ⟨e.path, rfl, haccepted.head?_path⟩,
        ?_, ownKey?_cookie he, ?_, ?_, ?_, ?_, ?_⟩
      · show e.origin.maxAge ≠ 0
        rw [horigin]
        exact hstores.2.1
      · rw [getAny?, find?_of_mem_run he]
        rfl
      · refine ⟨earlier, stored, given, url, later, htrace, hstores, hlater, ?_, ?_⟩
        · intro hfresh
          rw [hget, ← Bool.not_eq_true, hexpired]
          exact hfresh
        · intro hover
          rw [get?_of_mem_run he, if_pos (hexpired.mpr hover)]
      · rw [contains_eq he, hget, Bool.not_eq_true']
      · rw [mem_unexpired_iff he, hget]
      · intro url u hsplit
        rw [hget]
        exact mem_cookiesFor_iff he t hsplit

/-- The cookies that have not expired are all cookies without those that the
    store does not have under their own keys any more. -/
theorem unexpired_eq_filter (history : List (Float × Operation)) (t : Float) :
    (run history).unexpired t
      = (run history).all.filter fun c => (ownKey? c).any ((run history).contains t) := by
  rw [unexpired, all, List.filter_map]
  congr 1
  refine List.filter_congr ?_
  intro e he
  rw [Function.comp_apply, ownKey?_cookie he, Option.any_some, contains_eq he]

/-- **All reads of a store agree**, whatever was done to it and whatever the
    clock shows: every cookie that is listed has a place of its own and an age,
    is found under its own key, which it shares with no other one, and is
    handed out by key, by listing and by URL until it has expired. -/
theorem reads_agree (history : List (Float × Operation)) (t : Float) :
    (∀ c ∈ (run history).all, ∃ e ∈ (run history).entries, e.cookie = c ∧ e.Coherent history t) ∧
    ((run history).all.map ownKey?).Nodup ∧
    (run history).unexpired t
      = ((run history).all.filter fun c => (ownKey? c).any ((run history).contains t)) ∧
    (run history).size = (run history).all.length := by
  refine ⟨?_, ?_, unexpired_eq_filter history t, ?_⟩
  · intro c hc
    obtain ⟨e, he, hcookie⟩ := List.mem_map.mp hc
    exact ⟨e, he, hcookie, coherent_of_mem_run he t⟩
  · have hkeys : (run history).all.map ownKey? = (run history).keys.map some := by
      rw [all, keys, List.map_map, List.map_map]
      exact List.map_congr_left fun e he => ownKey?_cookie he
    rw [hkeys]
    exact (nodup_keys_run history).map (Option.some_injective _)
  · rw [size, all, List.length_map]

end HttpExchange.Jar
