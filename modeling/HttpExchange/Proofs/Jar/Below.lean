import HttpExchange.Proofs.Jar.History
import HttpExchange.Proofs.Jar.Selection
import Mathlib

/-! # The cookies for what is below a URL

    A URL is below another one if its host is the other host or below it and
    its path is the other path or below it.  Whatever goes with a request to a
    URL goes with every request below it too, except that cookies for one host
    stay with that host, and it goes in the same order: sorting by path is
    stable, so the order of two entries does not depend on the others. -/

namespace HttpExchange.Jar

variable {j : Jar} {clock : Float} {u u' : Url} {url url' : String} {e : Entry}

/-! ## Sorting a part of the entries -/

/-- The path of an entry is not shorter than that of another one. -/
def NotShorter (e d : Entry) : Prop := d.path.length ≤ e.path.length

instance : DecidableRel NotShorter := fun e d =>
  inferInstanceAs (Decidable (d.path.length ≤ e.path.length))

instance : IsTrans Entry NotShorter := ⟨fun _ _ _ hab hbc => Nat.le_trans hbc hab⟩

instance : Std.Total NotShorter := ⟨fun _ _ => Nat.le_total _ _⟩

theorem insertByPath_eq (e : Entry) (entries : List Entry) :
    insertByPath e entries = entries.orderedInsert NotShorter e := by
  induction entries with
  | nil => rfl
  | cons d rest ih =>
      rw [insertByPath, ih, List.orderedInsert]
      rfl

/-- The entries are sorted by insertion. -/
theorem sortByPath_eq (entries : List Entry) :
    sortByPath entries = entries.insertionSort NotShorter := by
  induction entries with
  | nil => rfl
  | cons e rest ih =>
      rw [List.insertionSort_cons, ← ih, ← insertByPath_eq]
      rfl

theorem pairwise_notShorter (entries : List Entry) :
    (sortByPath entries).Pairwise NotShorter := by
  rw [sortByPath_eq]
  exact List.pairwise_insertionSort NotShorter entries

/-- A part of the entries stands in the same order when it is sorted. -/
theorem sublist_sortByPath {part entries : List Entry} (h : part.Sublist entries) :
    (sortByPath part).Sublist (sortByPath entries) := by
  induction h with
  | slnil => exact List.Sublist.slnil
  | cons e _ ih =>
      refine ih.trans ?_
      show (sortByPath _).Sublist (insertByPath e _)
      rw [insertByPath_eq]
      exact List.sublist_orderedInsert e _
  | cons_cons e _ ih =>
      show (insertByPath e _).Sublist (insertByPath e _)
      rw [insertByPath_eq, insertByPath_eq]
      exact ih.orderedInsert_sublist e (pairwise_notShorter _)

theorem filter_insertByPath (p : Entry → Bool) {sorted : List Entry}
    (h : sorted.Pairwise NotShorter) :
    (insertByPath e sorted).filter p
      = if p e then insertByPath e (sorted.filter p) else sorted.filter p := by
  induction sorted with
  | nil => cases hp : p e <;> simp [insertByPath, hp]
  | cons d rest ih =>
      obtain ⟨hd, hrest⟩ := List.pairwise_cons.mp h
      rw [insertByPath]
      by_cases hlen : d.path.length ≤ e.path.length
      · rw [if_pos hlen, List.filter_cons]
        -- none of the entries that are left has a longer path than the new one
        have hfront : insertByPath e ((d :: rest).filter p) = e :: (d :: rest).filter p := by
          cases hleft : (d :: rest).filter p with
          | nil => rfl
          | cons f left =>
              have hf : f ∈ d :: rest :=
                List.mem_of_mem_filter (hleft ▸ List.mem_cons_self : f ∈ (d :: rest).filter p)
              have hshort : f.path.length ≤ e.path.length := by
                rcases List.mem_cons.mp hf with rfl | hf
                · exact hlen
                · exact Nat.le_trans (hd f hf) hlen
              rw [insertByPath, if_pos hshort]
        rw [hfront]
      · rw [if_neg hlen, List.filter_cons, ih hrest, List.filter_cons]
        cases hd : p d with
        | true =>
            cases p e with
            | true => simp [insertByPath, hlen]
            | false => rfl
        | false => rfl

/-- **Leaving entries out** before they are sorted is leaving them out
    afterwards. -/
theorem filter_sortByPath (p : Entry → Bool) (entries : List Entry) :
    (sortByPath entries).filter p = sortByPath (entries.filter p) := by
  induction entries with
  | nil => rfl
  | cons e rest ih =>
      show (insertByPath e (sortByPath rest)).filter p = _
      rw [filter_insertByPath p (pairwise_notShorter rest), ih, List.filter_cons]
      split
      · rfl
      · rfl

/-! ## Going below -/

/-- An entry that goes with a request goes with every request below it, unless
    it stays with its host. -/
theorem Entry.Goes.below (h : e.Goes clock u) (hscheme : u'.scheme = u.scheme)
    (hhost : HostWithin u.host u'.host) (hpath : PathWithin (requestPath u) (requestPath u'))
    (hown : e.hostOnly = true → u'.host = u.host) : e.Goes clock u' where
  fresh := h.fresh
  host honly := (hown honly).trans (h.host honly)
  within hdomain := (h.within hdomain).trans hhost
  path := h.path.trans hpath
  secure hsecure := hscheme.trans (h.secure hsecure)

/-- Entries of which each also goes with another request go with it in the
    same order. -/
theorem sublist_selected (p : Entry → Bool)
    (h : ∀ e, p e = true → e.Goes clock u → e.Goes clock u') :
    ((j.selected clock u).filter p).Sublist (j.selected clock u') := by
  rw [selected, filter_sortByPath, List.filter_filter]
  refine sublist_sortByPath (List.monotone_filter_right j.entries ?_)
  intro e he
  obtain ⟨hp, hgoes⟩ := Bool.and_eq_true_iff.mp he
  exact (goesTo_iff e clock u').mpr (h e hp ((goesTo_iff e clock u).mp hgoes))

/-- **The cookies for a URL go below it**: in every store the cookies of a
    domain that go with a request go with every request of the same scheme below
    it, in the same order, and if the hosts are equal all of them do. -/
theorem cookiesFor_below (j : Jar) (clock : Float) (hsplit : Url.split url = .ok u)
    (hsplit' : Url.split url' = .ok u') (hscheme : u'.scheme = u.scheme)
    (hhost : HostWithin u.host u'.host)
    (hpath : PathWithin (requestPath u) (requestPath u')) :
    ∃ sent sent' : List Entry,
      j.cookiesFor clock url = .ok (sent.map Entry.cookie) ∧
      j.cookiesFor clock url' = .ok (sent'.map Entry.cookie) ∧
      (∀ e ∈ sent ++ sent', e ∈ j.entries) ∧
      (sent.filter fun e => !e.hostOnly).Sublist sent' ∧
      (u'.host = u.host → sent.Sublist sent') := by
  refine ⟨j.selected clock u, j.selected clock u', ?_, ?_, ?_, ?_, ?_⟩
  · rw [cookiesFor, hsplit]
  · rw [cookiesFor, hsplit']
  · intro e he
    rcases List.mem_append.mp he with he | he
    · exact (mem_selected_iff.mp he).1
    · exact (mem_selected_iff.mp he).1
  · refine sublist_selected _ fun e hdomain hgoes => hgoes.below hscheme hhost hpath ?_
    intro honly
    rw [honly] at hdomain
    exact absurd hdomain Bool.false_ne_true
  · intro heq
    have hall := sublist_selected (j := j) (fun _ => true)
      fun e _ (hgoes : e.Goes clock u) => hgoes.below hscheme hhost hpath fun _ => heq
    rw [List.filter_true] at hall
    exact hall

/-- Two of three cookies go to a host and a path below, where the one for the
    host alone is left out. -/
theorem cookiesFor_below_subdomain :
    let put (name domain path : String) : Float × Operation :=
      (0, .insert { Cookie.ofPair (.str name) (.str "1") with
        domain := .str domain, path := .str path } "http://h.org/")
    let j := run [put "a" "h.org" "/", put "b" "" "/x", put "c" ".H.org" "/x"]
    let u : Url := ⟨"http", "h.org", "/x"⟩
    let u' : Url := ⟨"http", "www.h.org", "/x/y"⟩
    j.header? 0 "http://h.org/x" = .ok (some "b=1; c=1; a=1") ∧
      j.header? 0 "http://www.h.org/x/y?z" = .ok (some "c=1; a=1") ∧
      ∃ sent sent' : List Entry,
        j.cookiesFor 0 "http://h.org/x" = .ok (sent.map Entry.cookie) ∧
        j.cookiesFor 0 "http://www.h.org/x/y?z" = .ok (sent'.map Entry.cookie) ∧
        (∀ e ∈ sent ++ sent', e ∈ j.entries) ∧
        (sent.filter fun e => !e.hostOnly).Sublist sent' ∧
        (u'.host = u.host → sent.Sublist sent') := by
  intro put j u u'
  have hsplit : Url.split "http://h.org/x" = .ok u := by cbv
  have hsplit' : Url.split "http://www.h.org/x/y?z" = .ok u' := by cbv
  have hhost : HostWithin u.host u'.host := (domainMatch_iff _ _).mp (by decide)
  have hpath : PathWithin (requestPath u) (requestPath u') := (pathMatch_iff _ _).mp (by decide)
  exact ⟨by rfl, by rfl, cookiesFor_below j 0 hsplit hsplit' rfl hhost hpath⟩

end HttpExchange.Jar
