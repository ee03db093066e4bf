import HttpExchange.Jar.Match
import HttpExchange.Proofs.Jar.Scope

/-! # Which entries go with a request

    Sorting by path loses no entry and brings none in, so the entries that go
    with a request are those that pass the four tests of the store. -/

namespace HttpExchange.Jar

variable {j : Jar} {clock : Float} {u : Url} {e : Entry}

/-! ## Sorting -/

theorem perm_insertByPath (e : Entry) (entries : List Entry) :
    (insertByPath e entries).Perm (e :: entries) := by
  induction entries with
  | nil => exact List.Perm.refl _
  | cons d rest ih =>
      rw [insertByPath]
      split
      · exact List.Perm.refl _
      · exact (ih.cons d).trans (List.Perm.swap e d rest)

/-- **Sorting keeps the entries.** -/
theorem perm_sortByPath (entries : List Entry) : (sortByPath entries).Perm entries := by
  induction entries with
  | nil => exact List.Perm.refl _
  | cons e rest ih => exact (perm_insertByPath e _).trans (ih.cons e)

/-! ## The four tests -/

/-- An entry goes with a request at a reading of the clock: it has not expired,
    its domain covers the host, its path covers the path, and it does not ask
    for more security than the URL has. -/
structure Entry.Goes (e : Entry) (clock : Float) (u : Url) : Prop where
  fresh : e.expired clock = false
  host : e.hostOnly = true → u.host = e.domain
  within : e.hostOnly = false → HostWithin e.domain u.host
  path : PathWithin e.path (requestPath u)
  secure : e.origin.secure = true → u.scheme = "https"

theorem coversHost_iff (e : Entry) (host : String) :
    e.coversHost host = true ↔
      (e.hostOnly = true → host = e.domain) ∧ (e.hostOnly = false → HostWithin e.domain host) := by
  rw [Entry.coversHost]
  cases e.hostOnly with
  | true => simp
  | false => simp [domainMatch_iff]

/-- **The test of the store** tells which entries go with a request. -/
theorem goesTo_iff (e : Entry) (clock : Float) (u : Url) :
    e.goesTo clock u = true ↔ e.Goes clock u := by
  have hsecure : (u.isSecure || !e.origin.secure) = true ↔
      (e.origin.secure = true → u.scheme = "https") := by
    rw [Url.isSecure]
    cases e.origin.secure with
    | true => simp
    | false => simp
  rw [Entry.goesTo, Bool.and_eq_true, Bool.and_eq_true, Bool.and_eq_true, Bool.not_eq_true',
    coversHost_iff, pathMatch_iff, hsecure]
  constructor
  · rintro ⟨⟨⟨hfresh, hhost, hwithin⟩, hpath⟩, hsec⟩
    exact ⟨hfresh, hhost, hwithin, hpath, hsec⟩
  · rintro ⟨hfresh, hhost, hwithin, hpath, hsec⟩
    exact ⟨⟨⟨hfresh, hhost, hwithin⟩, hpath⟩, hsec⟩

/-- The entries that are selected are those of the store that go with the
    request. -/
theorem mem_selected_iff : e ∈ j.selected clock u ↔ e ∈ j.entries ∧ e.Goes clock u := by
  rw [selected, (perm_sortByPath _).mem_iff, List.mem_filter, goesTo_iff]

/-- **The cookies for a request** are those of the entries that go with it. -/
theorem mem_cookiesFor {url : String} {cookies : List Cookie} {c : Cookie}
    (h : j.cookiesFor clock url = .ok cookies) (hc : c ∈ cookies) :
    ∃ u e, Url.split url = .ok u ∧ e ∈ j.entries ∧ e.Goes clock u ∧ e.cookie = c := by
  rw [cookiesFor] at h
  cases hsplit : Url.split url with
  | error fault =>
      rw [hsplit] at h
      exact nomatch h
  | ok u =>
      rw [hsplit] at h
      rw [← Except.ok.inj h] at hc
      obtain ⟨e, he, rfl⟩ := List.mem_map.mp hc
      obtain ⟨hmem, hgoes⟩ := mem_selected_iff.mp he
      exact ⟨u, e, rfl, hmem, hgoes, rfl⟩

end HttpExchange.Jar
