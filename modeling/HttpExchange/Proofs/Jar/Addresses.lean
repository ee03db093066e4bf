import HttpExchange.Proofs.Jar.Provenance
import Mathlib

/-! # Cookies for addresses

    Domains are compared as texts, and nothing asks whether a host is a name or
    an address.  So the cookies that go to an address of the fourth version need
    not be its own: `Reaches` lists the three ways in which they get there.  An
    address and a domain that is an address too keep to themselves, as no address
    ends in another one (`not_suffix_of_isIPv4`). -/

namespace HttpExchange.Jar

open Text Address

/-! ## Addresses -/

theorem length_pieces_of_isIPv4 {cs : List Char} (h : isIPv4 cs = true) :
    (pieces '.' cs).length = 4 :=
  eq_of_beq (Bool.and_eq_true_iff.mp h).1

/-- **No address ends in a point and another address**: it would have more than
    four parts. -/
theorem not_suffix_of_isIPv4 {cs ds : List Char} (hc : isIPv4 cs = true)
    (hd : isIPv4 ds = true) : ¬ '.' :: ds <:+ cs := by
  rintro ⟨front, rfl⟩
  have hparts : 0 < (pieces '.' front).length := Nat.succ_pos _
  have hlength := length_pieces_of_isIPv4 hc
  rw [pieces_append, List.length_append, length_pieces_of_isIPv4 hd] at hlength
  omega

/-! ## How a cookie gets to an address -/

/-- How a cookie that a host set for a domain gets to an address. -/
inductive Reaches (domain host address : String) : Prop
  /-- It is the host's own address. -/
  | own (h : host = address)
  /-- The domain is no address, but the address ends in it, and so does the
      host. -/
  | ending (hdomain : isIPv4 domain.toList = false) (hhost : HostWithin domain host)
    (haddress : '.' :: domain.toList <:+ address.toList)
  /-- The domain is the address, and the host is no address, but ends in it. -/
  | below (hdomain : domain = address) (hhost : isIPv4 host.toList = false)
    (haddress : '.' :: domain.toList <:+ host.toList)

theorem reaches_of_within {domain host address : String} (haddress : isIPv4 address.toList = true)
    (hhost : HostWithin domain host) (hwithin : HostWithin domain address) :
    Reaches domain host address := by
  rcases hwithin with rfl | hending
  · rcases hhost with heq | hbelow
    · exact .own heq
    · refine .below rfl (Bool.eq_false_iff.mpr fun h => ?_) hbelow
      exact not_suffix_of_isIPv4 h haddress hbelow
  · refine .ending (Bool.eq_false_iff.mpr fun h => ?_) hhost hending
    exact not_suffix_of_isIPv4 haddress h hending

/-- An address that is entitled to a cookie is reached by it. -/
theorem Entitled.reaches {url origin : String} {c given : Cookie} {u v : Url}
    {domain path : String} (h : Entitled url c origin given u v domain path)
    (haddress : isIPv4 v.host.toList = true) : Reaches (domainForm domain) u.host v.host := by
  by_cases hnone : undotted domain = []
  · exact .own (h.host_eq hnone).symm
  · exact reaches_of_within haddress (h.within hnone).1 (h.within hnone).2

/-- **The cookies for an address**, in every run, come from arrivals whose
    entries have not been replaced or dropped since, from the address itself or
    in one of the two other ways.  A cookie without a domain comes from the
    address itself, and so does one whose own host and domain are addresses. -/
theorem cookiesFor_address {history : List (Float × Operation)} {clock : Float} {url : String}
    {v : Url} {cookies : List Cookie} (h : (run history).cookiesFor clock url = .ok cookies)
    (hsplit : Url.split url = .ok v) (haddress : isIPv4 v.host.toList = true) {c : Cookie}
    (hc : c ∈ cookies) :
    ∃ earlier t given origin later e u domain path,
      trace history = earlier ++ .arrival t given origin :: later ∧
      ((replay earlier).insert t given origin).result = .ok () ∧
      (Event.arrival t given origin).Stores e ∧ (∀ ev ∈ later, ¬ ev.Touches e.key) ∧
      c = e.cookie ∧ Entitled url c origin given u v domain path ∧
      Reaches (domainForm domain) u.host v.host ∧
      (undotted domain = [] → u.host = v.host) ∧
      (isIPv4 u.host.toList = true → isIPv4 (domainForm domain).toList = true →
        u.host = v.host) := by
  obtain ⟨w, e, hw, hmem, hgoes, rfl⟩ := mem_cookiesFor h hc
  cases hw.symm.trans hsplit
  obtain ⟨earlier, t, given, origin, later, htrace, hstores, hlater⟩ := arrival_of_mem_run hmem
  obtain ⟨u, domain, path, hentitled⟩ := entitled_of_goes hstores hsplit hgoes
  have hreaches := hentitled.reaches haddress
  refine ⟨earlier, t, given, origin, later, e, u, domain, path, htrace,
    insert_result_of_stores hstores _, hstores, hlater, rfl, hentitled, hreaches, ?_, ?_⟩
  · exact fun hnone => (hentitled.host_eq hnone).symm
  · intro hhost hdomain
    cases hreaches with
    | own heq => exact heq
    | ending hno _ _ => exact absurd hdomain (Bool.eq_false_iff.mp hno)
    | below _ hno _ => exact absurd hhost (Bool.eq_false_iff.mp hno)

/-- Of the cookies that two addresses set, each for itself, one of them gets its
    own. -/
theorem cookiesFor_address_own :
    let put (value address : String) : Float × Operation :=
      (0, .insert { Cookie.ofPair (.str "a") (.str value) with domain := .str address }
        ("http://" ++ address ++ "/"))
    let history := [put "1" "127.0.0.1", put "2" "127.0.0.2"]
    let v : Url := ⟨"http", "127.0.0.2", "/x"⟩
    let c : Cookie :=
      { Cookie.ofPair (.str "a") (.str "2") with domain := .str "127.0.0.2", path := .str "/" }
    (run history).cookiesFor 1 "http://127.0.0.2/x" = .ok [c] ∧
      Url.split "http://127.0.0.2/x" = .ok v ∧ isIPv4 v.host.toList = true ∧
      ∃ earlier t given origin later e u domain path,
        trace history = earlier ++ .arrival t given origin :: later ∧
        ((replay earlier).insert t given origin).result = .ok () ∧
        (Event.arrival t given origin).Stores e ∧ (∀ ev ∈ later, ¬ ev.Touches e.key) ∧
        c = e.cookie ∧ Entitled "http://127.0.0.2/x" c origin given u v domain path ∧
        Reaches (domainForm domain) u.host v.host ∧
        (undotted domain = [] → u.host = v.host) ∧
        (isIPv4 u.host.toList = true → isIPv4 (domainForm domain).toList = true →
          u.host = v.host) := by
  intro put history v c
  have hsplit : Url.split "http://127.0.0.2/x" = .ok v := by cbv
  have haddress : isIPv4 v.host.toList = true := by decide
  have hsent : (run history).cookiesFor 1 "http://127.0.0.2/x" = .ok [c] := by rfl
  exact ⟨hsent, hsplit, haddress,
    cookiesFor_address hsent hsplit haddress List.mem_cons_self⟩

/-- An address sets a cookie for the end of it, and another address with the same
    end gets it. -/
theorem cookiesFor_other_address :
    let given : Cookie := { Cookie.ofPair (.str "a") (.str "1") with domain := .str "0.0.1" }
    let u : Url := ⟨"http", "127.0.0.1", "/"⟩
    let v : Url := ⟨"http", "10.0.0.1", "/"⟩
    Url.split "http://127.0.0.1/" = .ok u ∧ Url.split "http://10.0.0.1/" = .ok v ∧
      isIPv4 u.host.toList = true ∧ isIPv4 v.host.toList = true ∧ u.host ≠ v.host ∧
      (run [(0, .insert given "http://127.0.0.1/")]).cookiesFor 1 "http://10.0.0.1/"
        = .ok [{ given with path := .str "/" }] := by
  intro given u v
  have hsplit : Url.split "http://127.0.0.1/" = .ok u := by cbv
  have hsplit' : Url.split "http://10.0.0.1/" = .ok v := by cbv
  refine ⟨hsplit, hsplit', by decide, by decide, by decide, ?_⟩
  dsimp only [given]
  rfl

end HttpExchange.Jar
