import HttpExchange.Proofs.Jar.History

/-! # The steps of a store

    An event stores one entry, or drops the entries with certain keys.  Both
    are described by the cookie, the URL and the clock alone, and every event
    does to a store what is described. -/

namespace HttpExchange.Jar

variable {j : Jar} {clock : Float} {k : Key}

/-! ## What an event does -/

/-- An event stores an entry: a cookie arrives that is accepted in the place of
    the entry, its age is not zero, and the clock can count it. -/
def Event.Stores : Event → Entry → Prop
  | .arrival clock c url, e =>
    Accepted url c ⟨e.domain, e.path, e.hostOnly⟩ ∧ c.maxAge ≠ 0 ∧
      expiry clock c.maxAge = .ok e.expiresAt ∧ c.name.atom? = some e.name ∧ e.origin = c
  | .removal _, _ => False
  | .clearing, _ => False

/-- An event drops what is held under a key: the key is removed, all of them
    are, or a cookie with age zero is accepted in a place with the key. -/
def Event.Drops : Event → Key → Prop
  | .arrival _ c url, k =>
    c.maxAge = 0 ∧ ∃ p, Accepted url c p ∧ k.domain = domainForm p.domain ∧ k.path = p.path ∧
      c.name.atom? = some k.name
  | .removal l, k => k = l
  | .clearing, _ => True

/-- An event touches a key. -/
def Event.Touches (ev : Event) (k : Key) : Prop := ev.Drops k ∨ ∃ e, ev.Stores e ∧ e.key = k

/-- A cookie is stored if its arrival says so and its name can be looked up. -/
theorem stores_arrival_iff {c : Cookie} {url : String} {e : Entry} :
    (Event.arrival clock c url).Stores e ↔
      arrival clock c url = .ok (.storage e.domain e.path e.hostOnly e.expiresAt e.origin) ∧
        e.origin.name.atom? = some e.name := by
  rw [arrival_eq_storage_iff, Event.Stores]
  constructor
  · rintro ⟨hplace, hage, hexpiry, hname, rfl⟩
    exact ⟨⟨hplace, hage, hexpiry, rfl⟩, hname⟩
  · rintro ⟨⟨hplace, hage, hexpiry, rfl⟩, hname⟩
    exact ⟨hplace, hage, hexpiry, hname, rfl⟩

theorem drops_arrival_iff {c : Cookie} {url : String} :
    (Event.arrival clock c url).Drops k ↔
      ∃ domain path, arrival clock c url = .ok (.removal domain path c.name) ∧
        k.domain = domainForm domain ∧ k.path = path ∧ c.name.atom? = some k.name := by
  constructor
  · rintro ⟨hage, p, hplace, hkey⟩
    exact ⟨p.domain, p.path, arrival_eq_removal_iff.mpr ⟨hage, ⟨p.hostOnly, hplace⟩, rfl⟩, hkey⟩
  · rintro ⟨domain, path, harrival, hkey⟩
    obtain ⟨hage, ⟨hostOnly, hplace⟩, -⟩ := arrival_eq_removal_iff.mp harrival
    exact ⟨hage, ⟨domain, path, hostOnly⟩, hplace, hkey⟩

/-- Keep the entries whose keys are not gone. -/
def without (j : Jar) (gone : Key → Bool) : Jar := ⟨j.entries.filter fun e => !gone e.key⟩

theorem without_none (j : Jar) : j.without (fun _ => false) = j :=
  congrArg Jar.mk (List.filter_eq_self.mpr (fun _ _ => rfl))

theorem without_all (j : Jar) : j.without (fun _ => true) = empty :=
  congrArg Jar.mk (List.filter_eq_nil_iff.mpr (fun _ _ => Bool.not_eq_true _ ▸ rfl))

theorem without_one (j : Jar) (k : Key) :
    j.without (fun l => decide (l = k)) = ⟨takeOut k j.entries⟩ := by
  refine congrArg Jar.mk (List.filter_congr ?_)
  intro e _
  exact decide_not.symm

/-- **A step of a store**: an event puts the one entry in that it stores, and
    drops nothing, or it stores nothing, and the keys are gone that it drops. -/
inductive Step (ev : Event) (j : Jar) : Jar → Prop
  | store (e : Entry) (hstores : ∀ d, ev.Stores d ↔ d = e) (hdrops : ∀ k, ¬ ev.Drops k) :
      Step ev j ⟨put e j.entries⟩
  | drop (gone : Key → Bool) (hstores : ∀ e, ¬ ev.Stores e)
      (hdrops : ∀ k, gone k = true ↔ ev.Drops k) : Step ev j (j.without gone)

/-- An event that stores and drops nothing may leave the store as it was. -/
theorem Step.unchanged {ev : Event} (hstores : ∀ e, ¬ ev.Stores e) (hdrops : ∀ k, ¬ ev.Drops k) :
    Step ev j j := by
  have h : Step ev j (j.without fun _ => false) :=
    .drop _ hstores fun k => iff_of_false Bool.false_ne_true (hdrops k)
  rw [without_none] at h
  exact h

/-- A cookie whose arrival neither stores nor drops anything leaves the store
    as it was. -/
theorem Step.of_arrival {c : Cookie} {url : String}
    (hstorage : ∀ domain path hostOnly t d,
      arrival clock c url = .ok (.storage domain path hostOnly t d) → d.name.atom? = none)
    (hremoval : ∀ domain path,
      arrival clock c url = .ok (.removal domain path c.name) → c.name.atom? = none) :
    Step (.arrival clock c url) j j := by
  refine Step.unchanged ?_ ?_
  · intro e h
    obtain ⟨harrival, hname⟩ := stores_arrival_iff.mp h
    rw [hstorage _ _ _ _ _ harrival] at hname
    exact nomatch hname
  · intro k h
    obtain ⟨domain, path, harrival, -, -, hname⟩ := drops_arrival_iff.mp h
    rw [hremoval _ _ harrival] at hname
    exact nomatch hname

/-- An arrival with age zero takes out what its place holds, unless its name
    cannot be looked up. -/
theorem step_removal {c : Cookie} {url domain path : String}
    (ha : arrival clock c url = .ok (.removal domain path c.name)) (j : Jar) :
    Step (.arrival clock c url) j (j.receive (.removal domain path c.name)).state := by
  have hstores : ∀ e, ¬ (Event.arrival clock c url).Stores e := by
    intro e h
    cases ha.symm.trans (stores_arrival_iff.mp h).1
  cases hatom : c.name.atom? with
  | none =>
      -- whether the store notices depends on its being empty, what it holds does not
      have hstate : (j.receive (.removal domain path c.name)).state = j := by
        rw [receive, hatom]
        dsimp only
        split
        · rfl
        · rfl
      rw [hstate]
      refine Step.of_arrival ?_ (fun _ _ _ => hatom)
      intro domain path hostOnly t d h
      cases ha.symm.trans h
  | some atom =>
      have hstep : Step (.arrival clock c url) j
          (j.without fun l => decide (l = ⟨domainForm domain, path, atom⟩)) := by
        refine .drop _ hstores ?_
        intro l
        rw [decide_eq_true_iff, drops_arrival_iff]
        constructor
        · rintro rfl
          exact ⟨domain, path, ha, rfl, rfl, hatom⟩
        · rintro ⟨domain', path', harrival, hdomain, hpath, hname⟩
          cases ha.symm.trans harrival
          cases hatom.symm.trans hname
          rw [← hdomain, ← hpath]
      rw [without_one] at hstep
      rw [receive, hatom]
      exact hstep

/-- An arrival with another age is put in, unless its name cannot be looked
    up. -/
theorem step_storage {c : Cookie} {url domain path : String} {hostOnly : Bool}
    {t : Option Float} (ha : arrival clock c url = .ok (.storage domain path hostOnly t c))
    (j : Jar) :
    Step (.arrival clock c url) j (j.receive (.storage domain path hostOnly t c)).state := by
  rw [receive]
  cases hatom : c.name.atom? with
  | none =>
      refine Step.of_arrival ?_ (fun _ _ _ => hatom)
      intro _ _ _ _ d h
      cases ha.symm.trans h
      exact hatom
  | some atom =>
      refine .store ⟨domain, path, atom, c, hostOnly, t⟩ ?_ ?_
      · intro e
        rw [stores_arrival_iff]
        constructor
        · rintro ⟨harrival, hname⟩
          cases e
          cases ha.symm.trans harrival
          cases hatom.symm.trans hname
          rfl
        · rintro rfl
          exact ⟨ha, hatom⟩
      · intro k h
        obtain ⟨_, _, harrival, -⟩ := drops_arrival_iff.mp h
        cases ha.symm.trans harrival

/-- A cookie that arrives does what its arrival says. -/
theorem step_insert (j : Jar) (clock : Float) (c : Cookie) (url : String) :
    Step (.arrival clock c url) j (j.insert clock c url).state := by
  rw [insert]
  cases ha : arrival clock c url with
  | error failure =>
      refine Step.of_arrival ?_ ?_
      · intro domain path hostOnly t d h
        cases ha.symm.trans h
      · intro domain path h
        cases ha.symm.trans h
  | ok a =>
      cases a with
      | rejected name domain host =>
          refine Step.of_arrival ?_ ?_
          · intro domain path hostOnly t d h
            cases ha.symm.trans h
          · intro domain path h
            cases ha.symm.trans h
      | removal domain path name =>
          obtain ⟨-, -, rfl⟩ := arrival_eq_removal_iff.mp ha
          exact step_removal ha j
      | storage domain path hostOnly t d =>
          obtain ⟨-, -, -, rfl⟩ := arrival_eq_storage_iff.mp ha
          exact step_storage ha j

/-- **Every event is a step.** -/
theorem step_carryOut (j : Jar) (ev : Event) : Step ev j (j.carryOut ev) := by
  cases ev with
  | arrival clock c url => exact step_insert j clock c url
  | removal l =>
      have h : Step (.removal l) j (j.without fun k => decide (k = l)) :=
        .drop _ (fun _ h => h) (fun _ => decide_eq_true_iff)
      rw [without_one] at h
      exact h
  | clearing =>
      have h : Step .clearing j (j.without fun _ => true) :=
        .drop _ (fun _ h => h) (fun _ => iff_of_true rfl trivial)
      rw [without_all] at h
      exact h

end HttpExchange.Jar
