import HttpExchange.Jar.Insert
import HttpExchange.Proofs.Jar.Scope

/-! # What an arriving cookie comes to

    A cookie that arrives from a URL is accepted in a place, or it is turned
    away by the host, or something about it or the URL fails.  Only a cookie
    that is accepted changes the store: it goes into its place, or what is
    there goes. -/

namespace HttpExchange.Jar

open Text

variable {now : Reading} {clock : Float} {c : Cookie} {url : String}

/-! ## Places -/

/-- Where a cookie belongs. -/
structure Place where
  domain : String
  path : String
  hostOnly : Bool

/-- The place of a cookie with the domain and the path given: without a domain
    it belongs to the host alone. -/
def placeOf (u : Url) (given path : String) : Place where
  domain := if undotted given = [] then u.host else domainForm given
  path := pathOf path u
  hostOnly := decide (undotted given = [])

/-- A cookie is accepted in a place: the URL has a host, and that is within
    the domain of the cookie if one is given. -/
def Accepted (url : String) (c : Cookie) (p : Place) : Prop :=
  ∃ u given path, Url.split url = .ok u ∧ u.host ≠ "" ∧ textOf c.domain = .ok given ∧
    textOf c.path = .ok path ∧ (undotted given ≠ [] → HostWithin (domainForm given) u.host) ∧
    p = placeOf u given path

/-- A cookie is turned away: its domain does not cover the host. -/
def TurnedAway (url : String) (c : Cookie) : Prop :=
  ∃ u given, Url.split url = .ok u ∧ textOf c.domain = .ok given ∧ undotted given ≠ [] ∧
    ¬ HostWithin (domainForm given) u.host

/-- What an accepted cookie comes to: it is stored in its place, or removes
    what is there. -/
def settled (clock : Float) (c : Cookie) (p : Place) : Except Failure Arrival :=
  if c.maxAge = 0 then .ok (.removal p.domain p.path c.name)
  else (expiry clock c.maxAge).map fun t => .storage p.domain p.path p.hostOnly t c

/-! ## The ends of an arrival -/

theorem isEmpty_domainForm (given : String) :
    (domainForm given).isEmpty = decide (undotted given = []) := by
  rw [Bool.eq_iff_iff, String.isEmpty_iff, domainForm_eq_empty_iff, decide_eq_true_iff]

theorem refuses_iff (host given : String) :
    (!(domainForm given).isEmpty && !domainMatch host (domainForm given)) = true ↔
      undotted given ≠ [] ∧ ¬ HostWithin (domainForm given) host := by
  rw [isEmpty_domainForm, Bool.and_eq_true, Bool.not_eq_true', Bool.not_eq_true',
    decide_eq_false_iff_not, ← Bool.not_eq_true, domainMatch_iff]

theorem mapError_ok (u : Url) : (Except.ok u : Except Url.Fault Url).mapError Failure.url = .ok u :=
  rfl

/-- A cookie that arrives from a URL with a host is turned away or settled, if
    its texts are text. -/
theorem arrival_eq {u : Url} (hsplit : Url.split url = .ok u) (hhost : u.host ≠ "") :
    arrival clock c url = (textOf c.domain).bind fun given =>
      if !(domainForm given).isEmpty && !domainMatch u.host (domainForm given) then
        .ok (.rejected c.name (domainForm given) u.host)
      else (textOf c.path).bind fun path => settled clock c (placeOf u given path) := by
  have hempty : u.host.isEmpty = false := by
    rw [← Bool.not_eq_true, String.isEmpty_iff]
    exact hhost
  -- the guards come in the same order on both sides
  rw [arrival, hsplit, mapError_ok]
  simp only [bind, hempty, Except.bind, Bool.false_eq_true, if_false]
  cases textOf c.domain with
  | error failure => rfl
  | ok given =>
      dsimp only
      split
      · rfl
      · cases textOf c.path with
        | error failure => rfl
        | ok path =>
            simp only [settled, placeOf, isEmpty_domainForm, decide_eq_true_eq]
            split
            · rfl
            · cases expiry clock c.maxAge with
              | error failure => rfl
              | ok t => rfl

/-- Nothing arrives from a URL without a host. -/
theorem arrival_of_no_host {u : Url} (hsplit : Url.split url = .ok u) (hhost : u.host = "") :
    arrival clock c url = .error (.noHost url) := by
  rw [arrival, hsplit, mapError_ok]
  simp only [bind, hhost, Except.bind]
  rfl

/-- **An accepted cookie is settled** in its place. -/
theorem arrival_of_accepted {p : Place} (h : Accepted url c p) (clock : Float) :
    arrival clock c url = settled clock c p := by
  obtain ⟨u, given, path, hsplit, hhost, hgiven, hpath, hwithin, rfl⟩ := h
  rw [arrival_eq hsplit hhost, hgiven, Except.bind, if_neg, hpath]
  · rfl
  · rw [refuses_iff]
    rintro ⟨hne, hnot⟩
    exact hnot (hwithin hne)

/-- **A cookie that is turned away** is rejected, if nothing fails. -/
theorem arrival_of_turnedAway {a : Arrival} (h : TurnedAway url c)
    (ha : arrival clock c url = .ok a) : ∃ domain host, a = .rejected c.name domain host := by
  obtain ⟨u, given, hsplit, hgiven, hrefused⟩ := h
  by_cases hhost : u.host = ""
  · rw [arrival_of_no_host hsplit hhost] at ha
    exact nomatch ha
  · rw [arrival_eq hsplit hhost, hgiven, Except.bind,
      if_pos ((refuses_iff _ _).mpr hrefused)] at ha
    exact ⟨_, _, (Except.ok.inj ha).symm⟩

/-- **Every arrival** is that of an accepted cookie or of one that is turned
    away, or it fails. -/
theorem arrival_cases (clock : Float) (c : Cookie) (url : String) :
    (∃ p, Accepted url c p) ∨ TurnedAway url c ∨
      ∃ failure, arrival clock c url = .error failure := by
  cases hsplit : Url.split url with
  | error fault =>
      refine Or.inr (Or.inr ⟨.url fault, ?_⟩)
      rw [arrival, hsplit]
      rfl
  | ok u =>
      by_cases hhost : u.host = ""
      · exact Or.inr (Or.inr ⟨_, arrival_of_no_host hsplit hhost⟩)
      · cases hgiven : textOf c.domain with
        | error failure =>
            refine Or.inr (Or.inr ⟨failure, ?_⟩)
            rw [arrival_eq hsplit hhost, hgiven]
            rfl
        | ok given =>
            by_cases hrefused : undotted given ≠ [] ∧ ¬ HostWithin (domainForm given) u.host
            · exact Or.inr (Or.inl ⟨u, given, hsplit, hgiven, hrefused⟩)
            · cases hpath : textOf c.path with
              | error failure =>
                  refine Or.inr (Or.inr ⟨failure, ?_⟩)
                  rw [arrival_eq hsplit hhost, hgiven, Except.bind,
                    if_neg (fun h => hrefused ((refuses_iff _ _).mp h)), hpath]
                  rfl
              | ok path =>
                  refine Or.inl ⟨_, u, given, path, hsplit, hhost, hgiven, hpath, ?_, rfl⟩
                  intro hne
                  exact Classical.byContradiction (fun hnot => hrefused ⟨hne, hnot⟩)

/-- An arrival that does not fail is that of a rejected cookie or of an
    accepted one. -/
theorem settled_of_arrival {a : Arrival} (h : arrival clock c url = .ok a) :
    (∃ domain host, a = .rejected c.name domain host) ∨
      ∃ p, Accepted url c p ∧ settled clock c p = .ok a := by
  rcases arrival_cases clock c url with ⟨p, hp⟩ | haway | ⟨failure, hfail⟩
  · rw [arrival_of_accepted hp] at h
    exact Or.inr ⟨p, hp, h⟩
  · exact Or.inl (arrival_of_turnedAway haway h)
  · rw [hfail] at h
    exact nomatch h

/-- **A cookie stays** if and only if it is accepted, its age is not zero, and
    the clock can count it. -/
theorem arrival_eq_storage_iff {domain path : String} {hostOnly : Bool} {t : Option Float}
    {d : Cookie} :
    arrival clock c url = .ok (.storage domain path hostOnly t d) ↔
      Accepted url c ⟨domain, path, hostOnly⟩ ∧ c.maxAge ≠ 0 ∧ expiry clock c.maxAge = .ok t ∧
        d = c := by
  constructor
  · intro h
    rcases settled_of_arrival h with ⟨_, _, hrejected⟩ | ⟨p, hp, hsettled⟩
    · exact nomatch hrejected
    · rw [settled] at hsettled
      split at hsettled
      · exact nomatch hsettled
      · next hage =>
        cases ht : expiry clock c.maxAge with
        | error failure =>
            rw [ht] at hsettled
            exact nomatch hsettled
        | ok t =>
            rw [ht] at hsettled
            cases hsettled
            exact ⟨hp, hage, rfl, rfl⟩
  · rintro ⟨hp, hage, ht, rfl⟩
    rw [arrival_of_accepted hp, settled, if_neg hage, ht]
    rfl

/-- **A cookie goes** if and only if one with age zero is accepted. -/
theorem arrival_eq_removal_iff {domain path : String} {name : Value} :
    arrival clock c url = .ok (.removal domain path name) ↔
      c.maxAge = 0 ∧ (∃ hostOnly, Accepted url c ⟨domain, path, hostOnly⟩) ∧ name = c.name := by
  constructor
  · intro h
    rcases settled_of_arrival h with ⟨_, _, hrejected⟩ | ⟨p, hp, hsettled⟩
    · exact nomatch hrejected
    · rw [settled] at hsettled
      split at hsettled
      · next hage =>
        cases hsettled
        exact ⟨hage, ⟨p.hostOnly, hp⟩, rfl⟩
      · cases ht : expiry clock c.maxAge with
        | error failure =>
            rw [ht] at hsettled
            exact nomatch hsettled
        | ok t =>
            rw [ht] at hsettled
            exact nomatch hsettled
  · rintro ⟨hage, ⟨hostOnly, hp⟩, rfl⟩
    rw [arrival_of_accepted hp, settled, if_pos hage]

/-! ## Insertions that leave the store as it was -/

theorem receive_of_error {j : Jar} {a : Arrival} {failure : Failure}
    (h : (j.receive a).result = .error failure) : (j.receive a).state = j := by
  cases a with
  | rejected name domain host => rfl
  | removal domain path name =>
      rw [receive] at h ⊢
      split at h
      · exact nomatch h
      · split
        · rfl
        · rfl
  | storage domain path hostOnly t d =>
      rw [receive] at h ⊢
      split at h
      · exact nomatch h
      · rfl

/-- **An insertion that fails** leaves the store as it was. -/
theorem insert_of_error {j : Jar} {failure : Failure}
    (h : (j.insert clock c url).result = .error failure) : (j.insert clock c url).state = j := by
  rw [insert] at h ⊢
  cases ha : arrival clock c url with
  | error failure => rfl
  | ok a =>
      rw [ha] at h
      exact receive_of_error h

/-- **An insertion that is turned away** leaves the store as it was. -/
theorem insert_of_turnedAway {j : Jar} (h : TurnedAway url c) :
    (j.insert clock c url).state = j := by
  rw [insert]
  cases ha : arrival clock c url with
  | error failure => rfl
  | ok a =>
      obtain ⟨_, _, rfl⟩ := arrival_of_turnedAway h ha
      rfl

/-- The header of a cookie is inserted as the cookie is. -/
theorem insertHeader_state {header : String} (hparse : (Cookie.parse header now).result = .ok c)
    (j : Jar) (clock : Float) (url : String) :
    (j.insertHeader now clock header url).state = (j.insert clock c url).state ∧
      (j.insertHeader now clock header url).result = (j.insert clock c url).result := by
  rw [insertHeader, hparse]
  dsimp only [Transition.after]
  exact ⟨rfl, rfl⟩

/-- A malformed header leaves the store as it was, and so does one that fails
    to be inserted. -/
theorem insertHeader_of_error {j : Jar} {header : String} {failure : Failure}
    (h : (j.insertHeader now clock header url).result = .error failure) :
    (j.insertHeader now clock header url).state = j := by
  cases hparse : (Cookie.parse header now).result with
  | error fault =>
      rw [insertHeader, hparse]
  | ok c =>
      obtain ⟨hstate, hresult⟩ := insertHeader_state hparse j clock url
      rw [hresult] at h
      rw [hstate, insert_of_error h]

end HttpExchange.Jar
