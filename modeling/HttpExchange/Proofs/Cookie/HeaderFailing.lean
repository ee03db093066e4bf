import HttpExchange.Proofs.Cookie.HeaderReading

/-! # Which headers fail

    Two kinds of headers give no cookie.  A header that is malformed, because
    it is blank or does not start with a name and an equals sign, is rejected.
    Any other one gives a cookie, whatever its attributes are, unless one of
    them is an expiry date that the calendar cannot reckon with: then the
    header fails with a failure that is no rejection.  At a moment that is given
    it is always the date that is out of range; a clock may also show a year
    that no date has.

    * `read_eq_fatal_iff` says which attributes are the end of a cookie;
    * `applyAll_of_reckonable` and `applyAll_of_beyond` follow them through all
      attributes of a cookie;
    * `parse_of_malformed`, `parse_of_reckonable` and `parse_of_beyond` are the
      three ends of a header. -/

namespace HttpExchange.Cookie

open Text

variable {now : Reading} {key value : List Char} {header : String}

/-! ## Attributes -/

/-- Is the attribute an expiry date that the calendar cannot reckon with?  A
    number in it, or the reading of the clock, is out of range. -/
def Beyond (now : Reading) (key value : List Char) : Prop :=
  lower (trim key) = "expires".toList ∧
    ∃ fault, secondsUntil now (bare value) = .error fault ∧ fault ≠ .unreadable

/-- **The attributes that end a cookie** are expiry dates out of range. -/
theorem read_eq_fatal_iff {fault : Expiry.Fault} :
    Attribute.read now key value = .error (.fatal fault) ↔
      lower (trim key) = "expires".toList ∧ secondsUntil now (bare value) = .error fault ∧
        fault ≠ .unreadable := by
  constructor
  · intro h
    have hreads := reads_read now key value
    rw [h] at hreads
    cases hreads with
    | fatal hkey hdate hfault => exact ⟨hkey, hdate, hfault⟩
  · rintro ⟨hkey, hseconds, hfault⟩
    rw [bare] at hseconds
    simp only [Attribute.read, hkey, String.ofList_toList, hseconds]

variable {attributes : List (List Char × List Char)}

theorem record?_eq_none_iff {problem : Attribute.Problem} (name : Value) :
    problem.record? name = none ↔ ∃ fault, problem = .fatal fault := by
  cases problem with
  | invalid key value => exact iff_of_false (fun h => nomatch h) (fun ⟨_, h⟩ => nomatch h)
  | unknown key => exact iff_of_false (fun h => nomatch h) (fun ⟨_, h⟩ => nomatch h)
  | fatal fault => exact iff_of_true rfl ⟨fault, rfl⟩

/-- Only a clock shows a year that is too large; a moment that is given does
    not. -/
theorem yearTooLarge_of_secondsUntil {text : List Char}
    (h : secondsUntil now text = .error .clockYear) : now = .error .yearTooLarge := by
  have hreckoned := reckoned_secondsUntil now text
  generalize secondsUntil now text = result at h hreckoned
  cases hreckoned with
  | @unread fault hread => cases fault <;> cases h
  | @unclocked fault hnow =>
      cases fault with
      | yearTooLarge => exact hnow
      | undated => cases h
      | beyondCounting => cases h
  | outside hnow hspan => cases h
  | found hread hnow hspan => cases h

/-- What an attribute that ends a cookie fails with. -/
theorem failure_of_read {fault : Expiry.Fault}
    (h : Attribute.read now key value = .error (.fatal fault)) :
    (Attribute.Problem.fatal fault).failure = .overflow ∨
      (Attribute.Problem.fatal fault).failure = .clockYear ∧ now = .error .yearTooLarge := by
  obtain ⟨-, hseconds, -⟩ := read_eq_fatal_iff.mp h
  cases fault with
  | unreadable => exact .inl rfl
  | overflow => exact .inl rfl
  | clockYear => exact .inr ⟨rfl, yearTooLarge_of_secondsUntil hseconds⟩

/-- The first attribute may be the end. -/
theorem applyAll_cons_of_fatal {fault : Expiry.Fault}
    (hread : Attribute.read now key value = .error (.fatal fault)) (d : Draft) :
    (d.applyAll now ((key, value) :: attributes)).result
      = .error (Attribute.Problem.fatal fault).failure := by
  rw [Draft.applyAll, hread]
  rfl

/-- If it is not, it leaves a draft for the others: it was applied, or it was
    reported and left out. -/
theorem applyAll_cons_of_not_fatal
    (hread : ∀ fault, Attribute.read now key value ≠ .error (.fatal fault)) (d : Draft) :
    ∃ e : Draft, (d.applyAll now ((key, value) :: attributes)).result
      = (e.applyAll now attributes).result := by
  rw [Draft.applyAll]
  cases hproblem : Attribute.read now key value with
  | ok a => exact ⟨d.apply a, rfl⟩
  | error problem =>
      cases hrecord : problem.record? d.cookie.name with
      | some record =>
          simp only [hrecord]
          exact ⟨d, rfl⟩
      | none =>
          obtain ⟨fault, rfl⟩ := (record?_eq_none_iff _).mp hrecord
          exact absurd hproblem (hread fault)

/-- Attributes that can be reckoned with all give a cookie. -/
theorem applyAll_of_reckonable (h : ∀ key value, (key, value) ∈ attributes → ¬ Beyond now key value)
    (d : Draft) : ∃ e, (d.applyAll now attributes).result = .ok e := by
  induction attributes generalizing d with
  | nil => exact ⟨d, rfl⟩
  | cons pair rest ih =>
      obtain ⟨key, value⟩ := pair
      have hread : ∀ fault, Attribute.read now key value ≠ .error (.fatal fault) := by
        intro fault hfatal
        obtain ⟨hkey, hseconds, hfault⟩ := read_eq_fatal_iff.mp hfatal
        exact h key value List.mem_cons_self ⟨hkey, fault, hseconds, hfault⟩
      obtain ⟨e, he⟩ := applyAll_cons_of_not_fatal hread d
      rw [he]
      exact ih (fun key value hmem => h key value (List.mem_cons_of_mem _ hmem)) e

/-- One that cannot is the end of the cookie, if none in front of it is. -/
theorem applyAll_of_beyond (hmem : (key, value) ∈ attributes) (hbeyond : Beyond now key value)
    (d : Draft) :
    ∃ failure, (d.applyAll now attributes).result = .error failure ∧
      (failure = .overflow ∨ failure = .clockYear ∧ now = .error .yearTooLarge) := by
  induction attributes generalizing d with
  | nil => exact absurd hmem List.not_mem_nil
  | cons pair rest ih =>
      obtain ⟨first, text⟩ := pair
      by_cases hend : ∃ fault, Attribute.read now first text = .error (.fatal fault)
      · obtain ⟨fault, hread⟩ := hend
        exact ⟨_, applyAll_cons_of_fatal hread d, failure_of_read hread⟩
      · have hread := not_exists.mp hend
        have hrest : (key, value) ∈ rest := by
          refine (List.mem_cons.mp hmem).resolve_left ?_
          rintro ⟨⟩
          obtain ⟨hkey, fault, hseconds, hfault⟩ := hbeyond
          exact hread fault (read_eq_fatal_iff.mpr ⟨hkey, hseconds, hfault⟩)
        obtain ⟨e, he⟩ := applyAll_cons_of_not_fatal hread d
        rw [he]
        exact ih hrest e

/-- The records that attributes leave are no warnings. -/
theorem level_of_mem_applyAll (d : Draft) {record : Log.Record}
    (h : record ∈ (d.applyAll now attributes).log) : record.level = .debug := by
  induction attributes generalizing d with
  | nil => exact absurd h List.not_mem_nil
  | cons pair rest ih =>
      rw [Draft.applyAll] at h
      cases hread : Attribute.read now pair.1 pair.2 with
      | ok a =>
          rw [hread] at h
          exact ih (d.apply a) h
      | error problem =>
          rw [hread] at h
          cases problem with
          | invalid name text =>
              rcases List.mem_cons.mp h with rfl | h
              · rfl
              · exact ih d h
          | unknown name =>
              rcases List.mem_cons.mp h with rfl | h
              · rfl
              · exact ih d h
          | fatal fault => exact absurd h List.not_mem_nil

/-! ## Headers -/

/-- Is the header blank, or does it not start with a name and an equals sign? -/
def Malformed (header : String) : Prop :=
  trim header.toList = [] ∨ namedPair? (segments ';' header.toList).1 = none

instance : DecidablePred Malformed := fun header =>
  inferInstanceAs (Decidable (trim header.toList = [] ∨
    namedPair? (segments ';' header.toList).1 = none))

/-- What a malformed header fails with. -/
def malformation (header : String) : Failure :=
  if (trim header.toList).isEmpty then .emptyHeader else .unnamedHeader header

/-- Has the header an attribute that cannot be reckoned with? -/
def HeaderBeyond (now : Reading) (header : String) : Prop :=
  ∃ key value, (key, value) ∈ attributesOf (segments ';' header.toList).2 ∧ Beyond now key value

/-- **A malformed header** is rejected, and nothing is reported. -/
theorem parse_of_malformed (h : Malformed header) (now : Reading) :
    parse header now = ⟨[], .error (malformation header)⟩ := by
  rw [parse, malformation]
  split
  · rfl
  · next hempty =>
    have hpair : namedPair? (segments ';' header.toList).1 = none :=
      h.resolve_left fun hnil => hempty (List.isEmpty_iff.mpr hnil)
    dsimp only
    rw [hpair]

/-- Any other header is a name and a value with attributes. -/
theorem parse_of_not_malformed (h : ¬ Malformed header) (now : Reading) :
    ∃ name value, parse header now
      = (ofText name value).withAttributes now (attributesOf (segments ';' header.toList).2) := by
  obtain ⟨hblank, hpair⟩ := not_or.mp h
  obtain ⟨⟨name, value⟩, hsome⟩ := Option.ne_none_iff_exists'.mp hpair
  refine ⟨name, value, ?_⟩
  rw [parse, if_neg (fun hempty => hblank (List.isEmpty_iff.mp hempty))]
  dsimp only
  rw [hsome]

/-- **A header that can be reckoned with** gives a cookie. -/
theorem parse_of_reckonable (h : ¬ Malformed header) (hreckonable : ¬ HeaderBeyond now header) :
    ∃ c, (parse header now).result = .ok c := by
  obtain ⟨name, value, hparse⟩ := parse_of_not_malformed h now
  obtain ⟨d, hd⟩ := applyAll_of_reckonable
    (fun key value hmem hbeyond => hreckonable ⟨key, value, hmem, hbeyond⟩)
    (Draft.ofCookie (ofText name value))
  refine ⟨d.finish, ?_⟩
  rw [hparse, withAttributes, Outcome.map, hd]
  rfl

/-- **A header that cannot be reckoned with** fails, and not as a malformed
    one. -/
theorem parse_of_beyond (h : ¬ Malformed header) (hbeyond : HeaderBeyond now header) :
    ∃ failure, (parse header now).result = .error failure ∧
      (failure = .overflow ∨ failure = .clockYear ∧ now = .error .yearTooLarge) := by
  obtain ⟨name, value, hparse⟩ := parse_of_not_malformed h now
  obtain ⟨key, text, hmem, hbeyond⟩ := hbeyond
  obtain ⟨failure, hfailure, hkind⟩ :=
    applyAll_of_beyond hmem hbeyond (Draft.ofCookie (ofText name value))
  refine ⟨failure, ?_, hkind⟩
  rw [hparse, withAttributes, Outcome.map, hfailure]
  rfl

theorem level_of_mem_parse {record : Log.Record} (h : record ∈ (parse header now).log) :
    record.level = .debug := by
  by_cases hmalformed : Malformed header
  · rw [parse_of_malformed hmalformed] at h
    exact absurd h List.not_mem_nil
  · obtain ⟨name, value, hparse⟩ := parse_of_not_malformed hmalformed now
    rw [hparse] at h
    exact level_of_mem_applyAll _ h

end HttpExchange.Cookie
