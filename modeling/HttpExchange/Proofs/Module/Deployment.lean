import HttpExchange.Module.Host
import HttpExchange.Proofs.Json.Keys
import HttpExchange.Proofs.Module.Application
import Mathlib

/-! # Deploying settings documents

    A document is dispatched module by module, and nothing is taken back when
    one of them refuses its section.  It need not be: whether a section is
    accepted does not depend on the module, so the first module decides for all
    of them.

    * `applyTo_of_accepted` and `applyTo_of_refused` follow a section through
      the modules: it reaches all of them, or it changes none;
    * `wellKeyed_documentValue` says that the sections of a document that is
      read have different names, so that modules are reached at most once;
    * `deploy_atomic` puts the two together. -/

namespace HttpExchange.Host

open Value Transition

variable {ι φ : Type} {h : Host ι φ} {s entries : List (String × Value)}

/-- The modules that handle their settings section: every one that has been
    loaded, once for each of its names. -/
def loadedModules (h : Host ι φ) : List (Module ι) := h.handlers.filterMap (h.table[·]?)

/-- Put settings over those of the modules at the given places. -/
def overrideAll (h : Host ι φ) (refs : List Nat) (new : Settings.Given) : Host ι φ :=
  { h with table := h.table.mapIdx fun ref m => if ref ∈ refs then m.override new else m }

theorem overrideAll_nil (h : Host ι φ) (new : Settings.Given) : h.overrideAll [] new = h := by
  have htable : h.table.mapIdx (fun ref m => if ref ∈ ([] : List Nat) then m.override new else m)
      = h.table := by
    refine List.ext_getElem? ?_
    intro place
    simp
  rw [overrideAll, htable]

/-- A place without a module makes no difference. -/
theorem overrideAll_cons_of_none {ref : Nat} (hnone : h.table[ref]? = none) (rest : List Nat)
    (new : Settings.Given) : h.overrideAll (ref :: rest) new = h.overrideAll rest new := by
  have htable : h.table.mapIdx (fun place m => if place ∈ ref :: rest then m.override new else m)
      = h.table.mapIdx (fun place m => if place ∈ rest then m.override new else m) := by
    refine List.ext_getElem? ?_
    intro place
    rw [List.getElem?_mapIdx, List.getElem?_mapIdx]
    by_cases hplace : place = ref
    · rw [hplace, hnone]
      rfl
    · simp [hplace]
  rw [overrideAll, overrideAll, htable]

/-- Going over the module at one place first: a module that comes again is left
    as it is. -/
theorem overrideAll_set {ref : Nat} {m : Module ι} (hm : h.table[ref]? = some m)
    (rest : List Nat) (new : Settings.Given) :
    overrideAll { h with table := h.table.set ref (m.override new) } rest new
      = h.overrideAll (ref :: rest) new := by
  have htable : (h.table.set ref (m.override new)).mapIdx
        (fun place m => if place ∈ rest then m.override new else m)
      = h.table.mapIdx (fun place m => if place ∈ ref :: rest then m.override new else m) := by
    refine List.ext_getElem? ?_
    intro place
    rw [List.getElem?_mapIdx, List.getElem?_mapIdx, List.getElem?_set]
    by_cases hplace : ref = place
    · subst hplace
      obtain ⟨hlt, hget⟩ := List.getElem?_eq_some_iff.mp hm
      by_cases hagain : ref ∈ rest
      · simp [hlt, hget, hagain]
      · simp [hlt, hget, hagain]
    · simp [hplace, Ne.symm hplace]
  rw [overrideAll, overrideAll, htable]

/-! ## A section and the modules -/

/-- **An accepted section** goes over the settings of all the modules. -/
theorem applyTo_of_accepted (hs : Distinct s) {new : Settings.Given}
    (hload : Settings.load (.ofMapping s) = .ok new) (h : Host ι φ) (refs : List Nat) :
    (applyTo s h refs).result = .ok () ∧
      (applyTo s h refs).state = h.overrideAll refs new := by
  induction refs generalizing h with
  | nil => exact ⟨rfl, (overrideAll_nil h new).symm⟩
  | cons ref rest ih =>
      rw [applyTo]
      cases hm : h.table[ref]? with
      | none =>
          rw [overrideAll_cons_of_none hm]
          exact ih h
      | some m =>
          simp only [Module.applySection_eq hs, hload]
          rw [← overrideAll_set hm]
          exact ih _

/-- **A refused section** changes no module: the first of them fails. -/
theorem applyTo_of_refused (hs : Distinct s) {failure : Failure}
    (hload : Settings.load (.ofMapping s) = .error failure) (h : Host ι φ) (refs : List Nat) :
    (applyTo s h refs).state = h ∧
      ((applyTo s h refs).result = .ok () → refs.filterMap (h.table[·]?) = []) := by
  induction refs with
  | nil => exact ⟨rfl, fun _ => rfl⟩
  | cons ref rest ih =>
      rw [applyTo]
      cases hm : h.table[ref]? with
      | none =>
          rw [List.filterMap_cons_none hm]
          exact ih
      | some m =>
          simp only [Module.applySection_eq hs, hload, Transition.fail]
          refine ⟨?_, fun hok => nomatch hok⟩
          obtain ⟨hlt, hget⟩ := List.getElem?_eq_some_iff.mp hm
          rw [← hget, List.set_getElem_self]

/-! ## The sections of a document -/

theorem wellKeyed_parsed {read : Option Value} {v : Value}
    (hread : ∀ w, read = some w → w.WellKeyed) (hv : parsed read = .ok v) : v.WellKeyed := by
  cases read with
  | none => exact nomatch hv
  | some w =>
      rw [← Except.ok.inj hv]
      exact hread w rfl

/-- The value of a document has every key once. -/
theorem wellKeyed_documentValue {document v : Value} (hdocument : document.WellKeyed)
    (hv : documentValue document = .ok v) : v.WellKeyed := by
  unfold documentValue at hv
  split at hv
  · exact wellKeyed_parsed (fun _ => Json.wellKeyed_readBytes) hv
  · split at hv
    · exact wellKeyed_parsed (fun _ => Json.wellKeyed_read) hv
    · exact Except.ok.inj hv ▸ hdocument

theorem wellKeyed_sections {document : Value} (hdocument : document.WellKeyed)
    (hentries : sections document = .ok entries) :
    Distinct entries ∧ EntriesWellKeyed entries := by
  rw [sections] at hentries
  split at hentries
  · next hvalue =>
    rw [← Except.ok.inj hentries]
    exact wellKeyed_documentValue hdocument hvalue
  · exact nomatch hentries
  · exact nomatch hentries

/-! ## Dispatching -/

/-- What a deployment comes to, given the section that is there for the modules:
    nothing has changed, because it failed or because there was nothing to do,
    or the settings of the section are over those of all loaded modules. -/
inductive Deployed (h : Host ι φ) (found : Option Value) :
    Except Failure Unit → Host ι φ → Prop where
  | refused (failure : Failure) : Deployed h found (.error failure) h
  | untouched (hnone : found = none ∨ h.loadedModules = []) : Deployed h found (.ok ()) h
  | overridden {s : List (String × Value)} {new : Settings.Given}
      (hfound : found = some (.mapping s)) (hload : Settings.load (.ofMapping s) = .ok new) :
      Deployed h found (.ok ()) (h.overrideAll h.handlers new)

/-- A section that no module handles is passed over. -/
theorem dispatch_cons_of_unhandled {name : String} (hname : (h.handlersOf name).isEmpty)
    (v : Value) (rest : List (String × Value)) :
    h.dispatch ((name, v) :: rest) = (h.dispatch rest).after [unhandled name] := by
  simp only [dispatch, hname, if_true]

theorem handlersOf_isEmpty_of_ne {name : String} (hname : name ≠ Module.sectionName)
    (h : Host ι φ) : (h.handlersOf name).isEmpty := by
  rw [handlersOf, if_neg hname]
  rfl

theorem dispatch_of_lookup_eq_none (hnone : lookup Module.sectionName entries = none)
    (h : Host ι φ) : (h.dispatch entries).result = .ok () ∧ (h.dispatch entries).state = h := by
  induction entries with
  | nil => exact ⟨rfl, rfl⟩
  | cons entry rest ih =>
      obtain ⟨name, v⟩ := entry
      rw [lookup] at hnone
      split at hnone
      · cases hnone
      · next hname =>
        rw [dispatch_cons_of_unhandled (handlersOf_isEmpty_of_ne hname h)]
        exact ih hnone

/-- The section of the modules, with no such section behind it. -/
theorem dispatch_cons_deployed {rest : List (String × Value)}
    (hrest : lookup Module.sectionName rest = none) {v : Value} (hv : v.WellKeyed) (h : Host ι φ) :
    Deployed h (some v) (h.dispatch ((Module.sectionName, v) :: rest)).result
      (h.dispatch ((Module.sectionName, v) :: rest)).state := by
  have hhandlers : h.handlersOf Module.sectionName = h.handlers := if_pos rfl
  -- what is behind the section changes nothing any more
  have hresult (h : Host ι φ) : (h.dispatch rest).result = .ok () :=
    (dispatch_of_lookup_eq_none hrest h).1
  have hstate (h : Host ι φ) : (h.dispatch rest).state = h :=
    (dispatch_of_lookup_eq_none hrest h).2
  by_cases hempty : (h.handlersOf Module.sectionName).isEmpty
  · have hnone : h.loadedModules = [] := by
      rw [hhandlers, List.isEmpty_iff] at hempty
      rw [loadedModules, hempty, List.filterMap_nil]
    rw [dispatch_cons_of_unhandled hempty, after_result, after_state, hresult, hstate]
    exact .untouched (.inr hnone)
  · cases v with
    | mapping s =>
        rw [dispatch, if_neg hempty, hhandlers]
        cases hload : Settings.load (.ofMapping s) with
        | ok new =>
            obtain ⟨hok, hover⟩ := applyTo_of_accepted hv.1 hload h h.handlers
            simp only [hok, hover, after_result, after_state, hresult, hstate]
            exact .overridden rfl hload
        | error failure =>
            obtain ⟨hsame, hnone⟩ := applyTo_of_refused hv.1 hload h h.handlers
            cases hend : (applyTo s h h.handlers).result with
            | ok =>
                simp only [hend, hsame, after_result, after_state, hresult, hstate]
                exact .untouched (.inr (hnone hend))
            | error other =>
                simp only [hend, hsame]
                exact .refused other
    | _ =>
        simp only [dispatch, if_neg hempty]
        exact .refused _

/-- Sections with different names: at most one of them is for the modules. -/
theorem dispatch_deployed (hdistinct : Distinct entries) (hkeyed : EntriesWellKeyed entries)
    (h : Host ι φ) :
    Deployed h (lookup Module.sectionName entries) (h.dispatch entries).result
      (h.dispatch entries).state := by
  induction entries with
  | nil => exact .untouched (.inl rfl)
  | cons entry rest ih =>
      obtain ⟨name, v⟩ := entry
      obtain ⟨hnotin, hrest⟩ := List.nodup_cons.mp hdistinct
      rw [lookup]
      by_cases hname : name = Module.sectionName
      · subst hname
        rw [if_pos rfl]
        exact dispatch_cons_deployed ((lookup_eq_none_iff _ rest).mpr hnotin) hkeyed.1 h
      · rw [if_neg hname, dispatch_cons_of_unhandled (handlersOf_isEmpty_of_ne hname h)]
        exact ih hrest hkeyed.2

/-- **Deploying a document**: if it fails, the host is as it was.  If it does
    not, the settings of the document's section for modules are over the
    settings that every loaded module was given before, whether the module has
    one name or several, and nothing else has changed; without such a section,
    or without a loaded module, nothing has changed at all. -/
theorem deploy_atomic {document : Value} (hdocument : document.WellKeyed) (h : Host ι φ) :
    (∀ failure, (h.deploy document).result = .error failure → (h.deploy document).state = h) ∧
    ((h.deploy document).result = .ok () →
      ∃ entries, sections document = .ok entries ∧
        (((lookup Module.sectionName entries = none ∨ h.loadedModules = []) ∧
          (h.deploy document).state = h) ∨
        ∃ s new, lookup Module.sectionName entries = some (.mapping s) ∧
          Settings.load (.ofMapping s) = .ok new ∧
          (h.deploy document).state = h.overrideAll h.handlers new)) := by
  rw [deploy]
  cases hsections : sections document with
  | error failure => exact ⟨fun _ _ => rfl, fun hok => nomatch hok⟩
  | ok entries =>
      obtain ⟨hdistinct, hkeyed⟩ := wellKeyed_sections hdocument hsections
      have hdeployed := dispatch_deployed hdistinct hkeyed h
      dsimp only
      generalize (h.dispatch entries).result = result at hdeployed
      generalize (h.dispatch entries).state = state at hdeployed
      cases hdeployed with
      | refused failure => exact ⟨fun _ _ => rfl, fun hok => nomatch hok⟩
      | untouched hnone =>
          exact ⟨fun _ _ => rfl, fun _ => ⟨entries, rfl, .inl ⟨hnone, rfl⟩⟩⟩
      | overridden hfound hload =>
          refine ⟨?_, ?_⟩
          · intro _ herror
            exact nomatch herror
          · intro _
            exact ⟨entries, rfl, .inr ⟨_, _, hfound, hload, rfl⟩⟩

/-- Two modules, the first of them under two names and with settings of its
    own: a document with a header value that is no text changes neither, and
    one with a timeout reaches both. -/
theorem deploy_atomic_two_modules :
    let first : Module Unit := ⟨(), ⟨some "a", .none, some .none, .none, some false, .none⟩, true⟩
    let second : Module Unit := ⟨(), .none, true⟩
    let h : Host Unit Unit :=
      ⟨[first, second], [("x", 0), ("y", 1), ("z", 0)], [], [], [0, 1, 0], true⟩
    let bad : Value := .mapping [("http", .mapping [("default_headers", .mapping [("A", .int 1)])])]
    let good : Value := .str "\x7b\"log\": 3, \"http\": \x7b\"timeout\": 5\x7d\x7d"
    bad.WellKeyed ∧ (h.deploy bad).state = h ∧ good.WellKeyed ∧
      (∃ s new, Settings.load (.ofMapping s) = .ok new ∧
        (h.deploy good).state = h.overrideAll h.handlers new) ∧
      (h.deploy good).state.table.map (·.given)
        = [⟨some "a", .none, some (some 5000000), .none, some false, .none⟩,
          ⟨.none, .none, some (some 5000000), .none, .none, .none⟩] := by
  intro first second h bad good
  have hbad : bad.WellKeyed := by
    simp [bad, WellKeyed, EntriesWellKeyed, Distinct]
  have hgood : good.WellKeyed := trivial
  have hrefused : (h.deploy bad).result
      = .error (.settings [⟨.notText, [.key "default_headers", .key "A"]⟩]) := by
    cbv
  have haccepted : (h.deploy good).result = .ok () := by cbv
  have hgiven : (h.deploy good).state.table.map (·.given)
      = [⟨some "a", .none, some (some 5000000), .none, some false, .none⟩,
        ⟨.none, .none, some (some 5000000), .none, .none, .none⟩] := by
    decide +kernel
  refine ⟨hbad, (deploy_atomic hbad h).1 _ hrefused, hgood, ?_, hgiven⟩
  obtain ⟨entries, -, hsame | ⟨s, new, -, hload, hstate⟩⟩ :=
    (deploy_atomic hgood h).2 haccepted
  · rw [hsame.2] at hgiven
    exact absurd hgiven (by decide)
  · exact ⟨s, new, hload, hstate⟩

end HttpExchange.Host
