import HttpExchange.Proofs.Jar.Replay
import HttpExchange.Proofs.Jar.Selection
import Mathlib

/-! # The cookies for a request, one after the other

    The cookies that go with a request to a URL are those of the entries that
    pass the tests of the store: each of them once, with longer paths first and
    otherwise as they stand in the store.  The Cookie header is written from
    this list and from nothing else.

    The test of a path asks for the character behind the cookie's path.  It
    asks for it only where the request's path goes on, so the character is
    always there. -/

namespace HttpExchange.Jar

variable {history : List (Float × Operation)} {d e : Entry}

/-! ## The order of the entries -/

/-- An entry comes before another one: its path is longer, or it is as long and
    the entry stands in front of the other one in the store. -/
def Precedes (store : List Entry) (d e : Entry) : Prop :=
  e.path.length < d.path.length ∨ (e.path.length = d.path.length ∧ [d, e].Sublist store)

theorem Precedes.length_le {store : List Entry} (h : Precedes store d e) :
    e.path.length ≤ d.path.length := by
  rcases h with hlt | ⟨heq, -⟩
  · exact Nat.le_of_lt hlt
  · exact Nat.le_of_eq heq

/-- Entries that are added to a store do not change which of two others comes
    before the other one. -/
theorem Precedes.mono {store larger : List Entry} (h : Precedes store d e)
    (hsub : store.Sublist larger) : Precedes larger d e :=
  h.imp_right fun ⟨heq, hfront⟩ => ⟨heq, hfront.trans hsub⟩

/-- An entry in front of a store comes before those whose paths are not
    longer. -/
theorem precedes_cons {store : List Entry} (hmem : d ∈ store)
    (hlen : d.path.length ≤ e.path.length) : Precedes (e :: store) e d := by
  rcases Nat.lt_or_eq_of_le hlen with hlt | heq
  · exact .inl hlt
  · exact .inr ⟨heq, (List.singleton_sublist.mpr hmem).cons_cons e⟩

/-- Inserting by path puts the entry where an entry in front of the store
    belongs. -/
theorem pairwise_insertByPath {store sorted : List Entry} (hsub : ∀ d ∈ sorted, d ∈ store)
    (h : sorted.Pairwise (Precedes store)) :
    (insertByPath e sorted).Pairwise (Precedes (e :: store)) := by
  induction sorted with
  | nil => exact List.pairwise_singleton _ _
  | cons d rest ih =>
      obtain ⟨hd, hrest⟩ := List.pairwise_cons.mp h
      have hmono : ∀ {x y}, Precedes store x y → Precedes (e :: store) x y :=
        fun hxy => hxy.mono (List.sublist_cons_self e store)
      rw [insertByPath]
      by_cases hlen : d.path.length ≤ e.path.length
      · rw [if_pos hlen]
        refine List.pairwise_cons.mpr ⟨?_, h.imp hmono⟩
        intro f hf
        refine precedes_cons (hsub f hf) ?_
        rcases List.mem_cons.mp hf with rfl | hf
        · exact hlen
        · exact Nat.le_trans (hd f hf).length_le hlen
      · rw [if_neg hlen]
        have hlater : ∀ f ∈ rest, f ∈ store := fun f hf => hsub f (List.mem_cons_of_mem d hf)
        refine List.pairwise_cons.mpr ⟨?_, ih hlater hrest⟩
        intro f hf
        rcases List.mem_cons.mp ((perm_insertByPath e rest).mem_iff.mp hf) with rfl | hf
        · exact .inl (Nat.lt_of_not_le hlen)
        · exact hmono (hd f hf)

/-- **Sorting by path** puts longer paths first and leaves the other entries in
    their order. -/
theorem pairwise_sortByPath (entries : List Entry) :
    (sortByPath entries).Pairwise (Precedes entries) := by
  induction entries with
  | nil => exact List.Pairwise.nil
  | cons e rest ih =>
      exact pairwise_insertByPath (fun d hd => (perm_sortByPath rest).mem_iff.mp hd) ih

/-! ## The character behind a path -/

/-- The test of a path with the character behind the cookie's path looked up in
    its place.  There is no answer if the request's path ends before. -/
def pathTest? (request path : String) : Option Bool :=
  if request = path then some true
  else if path.toList.isPrefixOf request.toList then
    if path.toList.getLast? = some '/' then some true
    else (request.toList[path.toList.length]?).map fun c => c == '/'
  else some false

/-- A longer text has a character behind each part at its front. -/
theorem length_lt_of_prefix {front cs : List Char} (h : front <+: cs) (hne : cs ≠ front) :
    front.length < cs.length := by
  refine Nat.lt_of_le_of_ne h.length_le ?_
  intro hlen
  exact hne (h.eq_of_length hlen).symm

/-- **The test of a path always has an answer**, which is that of the store. -/
theorem pathTest?_eq (request path : String) :
    pathTest? request path = some (pathMatch request path) := by
  rw [pathTest?, pathMatch]
  by_cases heq : request = path
  · rw [if_pos heq, if_pos heq]
  · rw [if_neg heq, if_neg heq]
    by_cases hfront : path.toList.isPrefixOf request.toList = true
    · rw [if_pos hfront, if_pos hfront]
      by_cases hslash : path.toList.getLast? = some '/'
      · rw [if_pos hslash, hslash]
        rfl
      · have hne : request.toList ≠ path.toList := fun h => heq (String.toList_inj.mp h)
        have hlt := length_lt_of_prefix (List.isPrefixOf_iff_prefix.mp hfront) hne
        rw [if_neg hslash, beq_eq_false_iff_ne.mpr hslash, Bool.false_or, List.head?_drop,
          List.getElem?_eq_getElem hlt]
        rfl
    · rw [if_neg hfront, if_neg hfront]

/-! ## No cookie twice -/

/-- The name under which an entry is kept is that of its cookie. -/
theorem name_of_mem_run (he : e ∈ (run history).entries) :
    e.origin.name.atom? = some e.name := by
  obtain ⟨_, ev, _, -, hstores, -, -⟩ := lastStored_of_mem_run he
  cases ev with
  | arrival t c url => exact (stores_arrival_iff.mp hstores).2
  | removal k => exact hstores.elim
  | clearing => exact hstores.elim

theorem nodup_keys_run (history : List (Float × Operation)) : (run history).keys.Nodup := by
  rw [run_eq_replay]
  exact nodup_keys_replay _

/-- **Different entries have different cookies**, since they differ in the
    domain, the path or the name. -/
theorem eq_of_cookie_eq (hd : d ∈ (run history).entries) (he : e ∈ (run history).entries)
    (h : d.cookie = e.cookie) : d = e := by
  have hdomain : d.domain = e.domain := Value.str.inj (congrArg Cookie.domain h)
  have hpath : d.path = e.path := Value.str.inj (congrArg Cookie.path h)
  have hname : d.name = e.name := by
    have horigin : d.origin.name = e.origin.name := congrArg (fun c => c.name) h
    exact Option.some.inj
      ((name_of_mem_run hd).symm.trans (horigin ▸ name_of_mem_run he))
  have hkey : d.key = e.key := by rw [Entry.key, Entry.key, hdomain, hpath, hname]
  exact List.inj_on_of_nodup_map (nodup_keys_run history) hd he hkey

/-! ## What goes with a request -/

/-- The entries are the ones whose cookies go with a request to the URL. -/
structure Picked (j : Jar) (clock : Float) (url : String) (u : Url) (picked : List Entry) :
    Prop where
  cookies : j.cookiesFor clock url = .ok (picked.map Entry.cookie)
  mem_iff : ∀ e, e ∈ picked ↔ e ∈ j.entries ∧ e.Goes clock u
  nodup : (picked.map Entry.cookie).Nodup
  ordered : picked.Pairwise (Precedes j.entries)
  /-- The path of every entry of the store can be tested. -/
  tested : ∀ e ∈ j.entries,
    pathTest? (requestPath u) e.path = some (pathMatch (requestPath u) e.path)
  header_none : j.header? clock url = .ok none ↔ picked = []
  header_some : picked ≠ [] → j.header? clock url = .ok (some (String.ofList
    ("; ".toList.intercalate
      (picked.map fun e => e.origin.name.text ++ '=' :: e.origin.value.text))))

/-- The header of a request is written from its cookies. -/
theorem header?_of_cookiesFor {j : Jar} {clock : Float} {url : String} {picked : List Entry}
    (h : j.cookiesFor clock url = .ok (picked.map Entry.cookie)) :
    (j.header? clock url = .ok none ↔ picked = []) ∧
      (picked ≠ [] → j.header? clock url = .ok (some (joinPairs
        (picked.map fun e => e.cookie.pair)))) := by
  rw [header?, h]
  cases picked with
  | nil => exact ⟨iff_of_true rfl rfl, fun hne => absurd rfl hne⟩
  | cons e rest =>
      refine ⟨iff_of_false (fun hnone => nomatch hnone) (List.cons_ne_nil e rest), fun _ => ?_⟩
      show Except.ok (some (joinPairs (((e :: rest).map Entry.cookie).map Cookie.pair))) = _
      rw [List.map_map]
      rfl

/-- **The cookies for a request**: whatever was done to the store, they are
    those of the entries that pass its tests at the time, each of them once,
    longer paths first and otherwise in the order of the store. -/
theorem picked_selected (history : List (Float × Operation)) (clock : Float) {url : String}
    {u : Url} (hsplit : Url.split url = .ok u) :
    ∃ picked, Picked (run history) clock url u picked := by
  have hcookies : (run history).cookiesFor clock url
      = .ok (((run history).selected clock u).map Entry.cookie) := by
    rw [cookiesFor, hsplit]
  obtain ⟨hnone, hsome⟩ := header?_of_cookiesFor hcookies
  refine ⟨(run history).selected clock u, hcookies, fun e => mem_selected_iff, ?_, ?_,
    fun e _ => pathTest?_eq _ _, hnone, hsome⟩
  · have hentries : (run history).entries.Nodup := List.Nodup.of_map _ (nodup_keys_run history)
    refine List.Nodup.map_on ?_ ((perm_sortByPath _).nodup_iff.mpr (hentries.filter _))
    intro d hd e he h
    exact eq_of_cookie_eq (mem_selected_iff.mp hd).1 (mem_selected_iff.mp he).1 h
  · exact (pairwise_sortByPath _).imp fun h => h.mono List.filter_sublist

/-- Three cookies, of which the second has the longest path and the last one
    asks for a secure connection. -/
theorem picked_selected_paths :
    let put (name path : String) (secure : Bool) : Float × Operation :=
      (0, .insert { Cookie.ofPair (.str name) (.str "1") with path := .str path, secure }
        "https://h.org/")
    let history := [put "a" "/x" false, put "b" "/x/y" false, put "c" "/" true, put "d" "/x" false]
    Url.split "http://h.org/x/y" = .ok ⟨"http", "h.org", "/x/y"⟩ ∧
      (∃ picked, Picked (run history) 0 "http://h.org/x/y" ⟨"http", "h.org", "/x/y"⟩ picked) ∧
      (run history).header? 0 "http://h.org/x/y" = .ok (some "b=1; a=1; d=1") := by
  intro put history
  have hsplit : Url.split "http://h.org/x/y" = .ok ⟨"http", "h.org", "/x/y"⟩ := by cbv
  exact ⟨hsplit, picked_selected history 0 hsplit, by rfl⟩

end HttpExchange.Jar
