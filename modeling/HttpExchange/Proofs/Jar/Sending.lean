import HttpExchange.Proofs.Connection.Preparation
import HttpExchange.Proofs.Cookie.PairReading
import HttpExchange.Proofs.Jar.Arrival
import HttpExchange.Proofs.Jar.Replay
import HttpExchange.Proofs.Jar.Selection

/-! # A cookie that comes back

    A response sets a cookie for the root of its host.  Whatever the store
    holds and whatever other headers come before, the cookie is in the store
    then, and it stands in the Cookie header for every URL of that host. -/

namespace HttpExchange

open Text

/-! ## Paths of URLs with a host -/

namespace Url

variable {u : Url}

/-- Behind an authority there is nothing, or something that ends it. -/
theorem takeAuthority_snd {cs : List Char} (h : (takeAuthority cs).1 ≠ []) :
    (takeAuthority cs).2 = [] ∨
      ∃ c rest, (takeAuthority cs).2 = c :: rest ∧ endsAuthority c = true := by
  unfold takeAuthority at h ⊢
  split at h
  · next rest =>
    dsimp only
    cases hdrop : rest.dropWhile fun c => !endsAuthority c with
    | nil => exact Or.inl rfl
    | cons c tail =>
        have hends := List.head?_dropWhile_not (fun c => !endsAuthority c) rest
        rw [hdrop] at hends
        exact Or.inr ⟨c, tail, rfl, by simpa using hends⟩
  · exact absurd rfl h

/-- The authority of a URL and its path stand behind its scheme. -/
theorem parts_of_split {text : String} (hsplit : Url.split text = .ok u) :
    ∃ cs, u.authority.toList = (takeAuthority cs).1 ∧
      u.path.toList = (takeAuthority cs).2.takeWhile fun c => c ≠ '#' ∧ c ≠ '?' := by
  refine ⟨(takeScheme (relevant text.toList)).2, ?_⟩
  simp only [Url.split, bind, Except.bind] at hsplit
  split at hsplit
  · exact nomatch hsplit
  · split at hsplit
    · exact nomatch hsplit
    · obtain rfl := Except.ok.inj hsplit
      exact ⟨String.toList_ofList, String.toList_ofList⟩

/-- **The path of a URL with a host** is empty or starts with a slash. -/
theorem path_of_split {text : String} (hsplit : Url.split text = .ok u)
    (hhost : u.hasHost = true) : u.path.toList = [] ∨ u.path.toList.head? = some '/' := by
  obtain ⟨cs, hauthority, hpath⟩ := parts_of_split hsplit
  have hne : (takeAuthority cs).1 ≠ [] := by
    intro hnil
    rw [hasHost, hauthority, hnil] at hhost
    exact absurd hhost (by decide)
  rw [hpath]
  rcases takeAuthority_snd hne with hnil | ⟨c, rest, hrest, hends⟩
  · rw [hnil]
    exact Or.inl rfl
  · rw [hrest]
    simp only [endsAuthority, Bool.or_eq_true, beq_iff_eq] at hends
    rcases hends with (rfl | rfl) | rfl
    · exact Or.inr rfl
    · exact Or.inl rfl
    · exact Or.inl rfl

end Url

namespace Jar

variable {j : Jar} {now : Reading} {clock : Float} {u : Url} {url : String} {e : Entry}
variable {name value : List Char}

/-- The path of a request to a URL with a host starts with a slash. -/
theorem head?_requestPath (hsplit : Url.split url = .ok u) (hhost : u.hasHost = true) :
    (requestPath u).toList.head? = some '/' := by
  rw [requestPath]
  split
  · rfl
  · next hempty =>
    rcases Url.path_of_split hsplit hhost with hnil | hslash
    · exact absurd (String.isEmpty_iff.mpr (String.toList_eq_nil_iff.mp hnil)) hempty
    · exact hslash

/-- The root covers every path of a URL that connections take. -/
theorem pathWithin_root (hsplit : Url.split url = .ok u) (husable : Connection.isUsable u = true) :
    PathWithin "/" (requestPath u) :=
  pathWithin_slash (head?_requestPath hsplit (Bool.and_eq_true_iff.mp husable).2)

/-! ## What the header of a request holds -/

/-- **What goes with a request** is in the Cookie header of the store: every
    pair that is read from the pair of such an entry is read from it. -/
theorem pairsOf_header? (hsplit : Url.split url = .ok u) (he : e ∈ j.entries)
    (hgoes : e.Goes clock u) :
    ∃ text, j.header? clock url = .ok (some text) ∧
      ∀ pair ∈ Cookie.pairsOf e.cookie.pair, pair ∈ Cookie.pairsOf text.toList := by
  have hmem : e ∈ j.selected clock u := mem_selected_iff.mpr ⟨he, hgoes⟩
  have hcookie : e.cookie ∈ (j.selected clock u).map Entry.cookie := List.mem_map_of_mem hmem
  rw [header?, cookiesFor, hsplit]
  dsimp only
  cases hcookies : (j.selected clock u).map Entry.cookie with
  | nil =>
      rw [hcookies] at hcookie
      exact absurd hcookie List.not_mem_nil
  | cons c cookies =>
      refine ⟨_, rfl, fun pair hpair => ?_⟩
      rw [joinPairs, String.toList_ofList, Cookie.pairsOf_intercalate, ← hcookies]
      exact List.mem_flatMap.mpr ⟨e.cookie.pair, List.mem_map_of_mem hcookie, hpair⟩

/-! ## Cookies for the root -/

/-- The header that sets a cookie for the root of a host. -/
def rootHeader (name value : List Char) : String :=
  String.ofList (name ++ '=' :: value ++ "; Path=/".toList)

/-- The cookie that it sets. -/
def rootCookie (name value : List Char) : Cookie :=
  { Cookie.ofText name value with path := .str "/" }

theorem parse_rootHeader (hname : Cookie.IsName name) (hvalue : Cookie.IsBare value)
    (now : Reading) :
    Cookie.parse (rootHeader name value) now = ⟨[], .ok (rootCookie name value)⟩ := by
  have hlist : (rootHeader name value).toList = name ++ '=' :: value ++ "; Path=/".toList :=
    String.toList_ofList
  have hblank : (trim (rootHeader name value).toList).isEmpty = false := by
    have hmem : '=' ∈ (rootHeader name value).toList := by
      rw [hlist]
      exact List.mem_append_left _ (List.mem_append_right _ List.mem_cons_self)
    exact List.isEmpty_eq_false_iff.mpr (List.ne_nil_of_mem (mem_trim (by decide) hmem))
  have hsegments : segments ';' (rootHeader name value).toList
      = (name ++ '=' :: value, [" Path=/".toList]) := by
    rw [hlist]
    show segments ';' (name ++ '=' :: value ++ ';' :: " Path=/".toList) = _
    rw [segments_append, segments_of_not_mem (Cookie.semicolon_not_mem_pair hname hvalue)]
    rfl
  rw [Cookie.parse, hblank, if_neg Bool.false_ne_true, hsegments]
  dsimp only
  rw [Cookie.namedPair?_pair hname hvalue.2.1 hvalue.2.2]
  rfl

/-- The entry that the cookie is kept as. -/
def rootEntry (u : Url) (name value : List Char) : Entry :=
  ⟨u.host, "/", .text (String.ofList name), rootCookie name value, true, none⟩

/-- **A cookie for the root** is put in, whatever the store holds. -/
theorem insert_rootCookie (husable : Connection.isUsable u = true)
    (hsplit : Url.split url = .ok u) (j : Jar) (clock : Float) (name value : List Char) :
    j.insert clock (rootCookie name value) url
      = .done ⟨put (rootEntry u name value) j.entries⟩ () := by
  have haccepted : Accepted url (rootCookie name value) ⟨u.host, "/", true⟩ :=
    ⟨u, "", "/", hsplit, Connection.host_ne_empty_of_isUsable husable, rfl, rfl,
      fun h => absurd rfl h, rfl⟩
  rw [insert, arrival_of_accepted haccepted]
  rfl

/-- It goes to every URL of the host. -/
theorem goes_rootEntry {url' : String} {u' : Url} (name value : List Char)
    (hsplit : Url.split url' = .ok u') (husable : Connection.isUsable u' = true)
    (hhost : u'.host = u.host) (clock : Float) :
    (rootEntry u name value).Goes clock u' where
  fresh := rfl
  host _ := hhost
  within h := nomatch h
  path := pathWithin_root hsplit husable
  secure h := nomatch h

/-- Headers that do not end the operation, and then the others. -/
theorem setCookies_append_of_ok {front : List String} (rest : List String)
    (hfront : (j.setCookies now clock url front).result = .ok ()) :
    (j.setCookies now clock url (front ++ rest)).state
      = ((j.setCookies now clock url front).state.setCookies now clock url rest).state := by
  induction front generalizing j with
  | nil => rfl
  | cons header front ih =>
      rw [List.cons_append, setCookies, setCookies]
      rw [setCookies] at hfront
      cases hresult : (j.insertHeader now clock header url).result with
      | ok =>
          simp only [hresult, Transition.after_state, Transition.after_result] at hfront ⊢
          exact ih hfront
      | error failure =>
          simp only [hresult] at hfront ⊢
          split at hfront
          · next hrejection =>
            rw [if_pos hrejection, if_pos hrejection]
            exact ih hfront
          · cases hresult.symm.trans hfront

/-- **A cookie for the root is kept** when it comes behind headers that do not
    end the operation. -/
theorem mem_setCookies_rootHeader (hsplit : Url.split url = .ok u)
    (husable : Connection.isUsable u = true) (hname : Cookie.IsName name)
    (hvalue : Cookie.IsBare value) {earlier : List String}
    (hearlier : (j.setCookies now clock url earlier).result = .ok ()) :
    rootEntry u name value
      ∈ (j.setCookies now clock url (earlier ++ [rootHeader name value])).state.entries := by
  rw [setCookies_append_of_ok _ hearlier]
  generalize (j.setCookies now clock url earlier).state = k
  have hinsert : k.insertHeader now clock (rootHeader name value) url
      = .done ⟨put (rootEntry u name value) k.entries⟩ () := by
    rw [insertHeader, parse_rootHeader hname hvalue]
    dsimp only
    rw [insert_rootCookie husable hsplit]
    rfl
  rw [setCookies, hinsert]
  exact mem_put (rootEntry u name value) k.entries

end Jar

end HttpExchange
