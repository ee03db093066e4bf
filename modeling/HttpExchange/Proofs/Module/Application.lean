import HttpExchange.Proofs.Settings.Merging
import HttpExchange.Proofs.Settings.Refusal

/-! # Applying sections one after the other

    What a module makes of a section does not depend on what was applied to it
    before: `applySection_eq` says that the section is accepted or refused as
    it is alone, and that it goes over the settings that were given.  A run
    over any number of sections then leaves what the accepted ones leave when
    they are merged and loaded at once. -/

namespace HttpExchange.Module

variable {ι : Type} {s : List (String × Value)}

/-- Put settings over those that have been given. -/
def override (m : Module ι) (new : Settings.Given) : Module ι :=
  { m with given := new.over m.given }

@[simp] theorem override_given (m : Module ι) (new : Settings.Given) :
    (m.override new).given = new.over m.given := rfl

@[simp] theorem override_override_self (m : Module ι) (new : Settings.Given) :
    (m.override new).override new = m.override new := by
  simp [override]

/-- **Applying a section**: the module accepts or refuses it as it is alone. -/
theorem applySection_eq (hs : Distinct s) (m : Module ι) :
    m.applySection s =
      match Settings.load (.ofMapping s) with
      | .ok new => ⟨m.override new, [applied s], .ok ()⟩
      | .error failure => .fail m failure := by
  rw [applySection, Settings.load_merge_toSection hs]
  cases Settings.load (.ofMapping s) <;> rfl

/-- Apply sections one after the other, whether or not they are accepted. -/
def applyAll (m : Module ι) (sections : List (List (String × Value))) : Module ι :=
  sections.foldl (fun m s => (m.applySection s).state) m

/-- The sections that are accepted alone. -/
def accepted (sections : List (List (String × Value))) : List (List (String × Value)) :=
  sections.filter fun s => (Settings.load (.ofMapping s)).isOk

/-- Sections merged in order: a later value of a key replaces an earlier one. -/
def union (sections : List (List (String × Value))) : List (String × Value) :=
  sections.foldl merge []

/-- A run leaves what the accepted sections give when they are merged over a
    section that gives what was given before. -/
theorem load_foldl_accepted {sections : List (List (String × Value))}
    (hsections : ∀ s ∈ sections, Distinct s) {m : Module ι} {base : List (String × Value)}
    (hbase : Settings.load (.ofMapping base) = .ok m.given) :
    Settings.load (.ofMapping ((accepted sections).foldl merge base))
      = .ok (m.applyAll sections).given := by
  induction sections generalizing m base with
  | nil => exact hbase
  | cons s rest ih =>
      have hs : Distinct s := hsections s List.mem_cons_self
      have hrest : ∀ t ∈ rest, Distinct t := fun t ht => hsections t (List.mem_cons_of_mem s ht)
      have happly := applySection_eq hs m
      show _ = Except.ok ((m.applySection s).state.applyAll rest).given
      cases hload : Settings.load (.ofMapping s) with
      | error failure =>
          have hrefused : accepted (s :: rest) = accepted rest := by
            simp [accepted, hload, Except.isOk, Except.toBool]
          rw [hload] at happly
          rw [happly, hrefused]
          exact ih hrest hbase
      | ok new =>
          have haccepted : accepted (s :: rest) = s :: accepted rest := by
            simp [accepted, hload, Except.isOk, Except.toBool]
          rw [hload] at happly
          rw [happly, haccepted]
          refine ih hrest ?_
          rw [Settings.load_merge hs hbase, hload]
          rfl

/-- **A run over sections**: whatever was applied before, each section is
    accepted exactly when it is accepted alone; a refused one fails as it does
    alone and changes nothing, with the faults of its settings unless its
    timeout is below the least duration; and in the end the settings are those
    of all accepted sections merged in order. -/
theorem applyAll_eq_load_union (m : Module ι) {sections : List (List (String × Value))}
    (hsections : ∀ s ∈ sections, Distinct s) :
    (∀ before s after, sections = before ++ s :: after →
      ((m.applyAll before).applySection s).result
        = (Settings.load (.ofMapping s)).map (fun _ => ()) ∧
      ∀ failure, Settings.load (.ofMapping s) = .error failure →
        ((m.applyAll before).applySection s).state = m.applyAll before ∧
        ((Settings.TimeoutBelowLeast (.ofMapping s) ∧ failure = .overflow) ∨
          (¬ Settings.TimeoutBelowLeast (.ofMapping s) ∧
            ∃ faults, failure = .settings faults))) ∧
    Settings.load (.ofMapping ((accepted sections).foldl merge m.given.toSection))
      = .ok (m.applyAll sections).given ∧
    (m.given = .none → Settings.load (.ofMapping (union (accepted sections)))
      = .ok (m.applyAll sections).given) := by
  refine ⟨?_, load_foldl_accepted hsections (Settings.load_toSection m.given), ?_⟩
  · rintro before s after rfl
    have hs : Distinct s := hsections s (List.mem_append_right before List.mem_cons_self)
    rw [applySection_eq hs]
    cases hload : Settings.load (.ofMapping s) with
    | ok new => exact ⟨rfl, fun _ h => nomatch h⟩
    | error failure =>
        refine ⟨rfl, ?_⟩
        intro other hother
        rw [← Except.error.inj hother]
        exact ⟨rfl, Settings.load_eq_error hload⟩
  · intro hfresh
    refine load_foldl_accepted hsections ?_
    rw [hfresh]
    rfl

/-- A section with a key that is no setting and one with an endless timeout are
    refused between two others, whose settings stay. -/
theorem applyAll_eq_load_union_between :
    let sections : List (List (String × Value)) :=
      [[("timeout", .int 5), ("user_agent", .str "a")], [("bogus", .null), ("timeout", .str "x")],
        [("timeout", .str "-999999999 days, 00:00:01")], [("send_cookies", .str "Off")],
        [("user_agent", .bytes [0x62])]]
    let m : Module Unit := .fresh ()
    (∀ s ∈ sections, Distinct s) ∧
      Settings.load (.ofMapping (union (accepted sections))) = .ok (m.applyAll sections).given ∧
      (m.applyAll sections).given
        = ⟨some "b", .none, some (some 5000000), .none, some false, .none⟩ := by
  intro sections m
  have hsections : ∀ s ∈ sections, Distinct s := by
    simp [sections, Distinct]
  exact ⟨hsections, (applyAll_eq_load_union m hsections).2.2 rfl, by decide +kernel⟩

/-- A timeout of one second less than the least duration is no rejected
    argument: the section fails with an overflow. -/
theorem applySection_not_rejection :
    let s : List (String × Value) := [("timeout", .int (-86399999913601))]
    Distinct s ∧ ∃ failure, ((Module.fresh ()).applySection s).result = .error failure ∧
      failure.isRejection = false := by
  refine ⟨?_, .overflow, rfl, rfl⟩
  simp [Distinct]

end HttpExchange.Module
