import HttpExchange.Proofs.Module.Deployment
import HttpExchange.Proofs.Module.LoadScript
import HttpExchange.Proofs.Module.Registration
import HttpExchange.Proofs.Session.Loading

/-! # Loading the modules of a host

    Whatever a host was told, its load follows the script of the registrations
    that count.  A module is initialized before any of its callbacks fire, all
    of them are in the end, and settings documents reach all of them then. -/

namespace HttpExchange

/-! ## Sections that are accepted -/

namespace Host

variable {ι φ : Type} {entries s : List (String × Value)} {new : Settings.Given}

/-- **An accepted section reaches the modules** that handle it, whatever other
    sections there are. -/
theorem dispatch_of_accepted (hdistinct : Distinct entries) (hs : Distinct s)
    (hfound : Value.lookup Module.sectionName entries = some (.mapping s))
    (hload : Settings.load (.ofMapping s) = .ok new) (h : Host ι φ) :
    (h.dispatch entries).result = .ok () ∧
      (h.dispatch entries).state = h.overrideAll h.handlers new := by
  induction entries with
  | nil => exact nomatch hfound
  | cons entry rest ih =>
      obtain ⟨name, v⟩ := entry
      obtain ⟨hnotin, hrest⟩ := List.nodup_cons.mp hdistinct
      rw [Value.lookup] at hfound
      split at hfound
      · next hname =>
        obtain rfl := hname
        obtain rfl := Option.some.inj hfound
        have hnone : Value.lookup Module.sectionName rest = none :=
          (Value.lookup_eq_none_iff _ rest).mpr hnotin
        have hhandlers : h.handlersOf Module.sectionName = h.handlers := if_pos rfl
        by_cases hempty : (h.handlersOf Module.sectionName).isEmpty
        · rw [dispatch_cons_of_unhandled hempty]
          rw [hhandlers, List.isEmpty_iff] at hempty
          rw [hempty, overrideAll_nil]
          exact dispatch_of_lookup_eq_none hnone h
        · obtain ⟨hok, hover⟩ := applyTo_of_accepted hs hload h h.handlers
          rw [dispatch, if_neg hempty, hhandlers]
          simp only [hok, hover]
          exact dispatch_of_lookup_eq_none hnone _
      · next hname =>
        rw [dispatch_cons_of_unhandled (handlersOf_isEmpty_of_ne hname h)]
        exact ih hrest hfound

/-- **A document with such a section** goes over the settings of all modules
    that handle it. -/
theorem deploy_of_accepted {document : Value} (hdocument : document.WellKeyed)
    (hentries : sections document = .ok entries)
    (hfound : Value.lookup Module.sectionName entries = some (.mapping s))
    (hload : Settings.load (.ofMapping s) = .ok new) (h : Host ι φ) :
    (h.deploy document).result = .ok () ∧
      (h.deploy document).state = h.overrideAll h.handlers new := by
  obtain ⟨hdistinct, hkeyed⟩ := wellKeyed_sections hdocument hentries
  have hs : Distinct s := (hkeyed.of_lookup hfound).1
  rw [deploy, hentries]
  exact dispatch_of_accepted hdistinct hs hfound hload h

end Host

namespace Loading

variable {ω ι φ : Type} {a : World ω ι φ} {h h' : Host ι φ} {w : ω}

/-! ## Callbacks find their module initialized -/

/-- Every callback for a module fires behind the initialization of the
    module. -/
def Ready (actions : List (Action φ)) : Prop :=
  ∀ front callback ref back, actions = front ++ .fire callback (some ref) :: back →
    .init ref ∈ front

theorem Ready.append {xs ys : List (Action φ)} (hxs : Ready xs) (hys : Ready ys) :
    Ready (xs ++ ys) := by
  intro front callback ref back hcut
  rcases List.append_eq_append_iff.mp hcut with ⟨rest, rfl, hrest⟩ | ⟨rest, hxsrest, hrest⟩
  · exact List.mem_append_right _ (hys rest callback ref back hrest)
  · cases rest with
    | nil =>
        rw [List.append_nil] at hxsrest
        have hfirst := hys [] callback ref back hrest.symm
        exact absurd hfirst List.not_mem_nil
    | cons x rest =>
        obtain ⟨rfl, -⟩ := List.cons.inj hrest
        exact hxs front callback ref rest hxsrest

theorem ready_moduleActions (h : Host ι φ) (entry : String × Nat) :
    Ready (moduleActions h entry) := by
  intro front callback ref back hcut
  have hmem : Action.fire callback (some ref) ∈ moduleActions h entry := by
    rw [hcut]
    exact List.mem_append_right _ List.mem_cons_self
  have href : ref = entry.2 := by
    simp only [moduleActions, List.mem_cons, List.mem_map, reduceCtorEq, false_or,
      Action.fire.injEq, Option.some.injEq] at hmem
    obtain ⟨-, -, -, rfl⟩ := hmem
    rfl
  cases front with
  | nil => cases (List.cons.inj hcut).1
  | cons x front =>
      rw [← (List.cons.inj hcut).1, href]
      exact List.mem_cons_self

theorem ready_script (h : Host ι φ) : Ready (script h) := by
  refine Ready.append ?_ ?_
  · induction h.names with
    | nil => exact fun front _ _ _ hcut => absurd hcut (by simp)
    | cons entry rest ih =>
        rw [List.flatMap_cons]
        exact (ready_moduleActions h entry).append ih
  · intro front callback ref back hcut
    have hmem : Action.fire callback (some ref) ∈ h.onAllLoaded.map (Action.fire · none) := by
      rw [hcut]
      exact List.mem_append_right _ List.mem_cons_self
    exact absurd hmem (by simp)

/-! ## What stands in a script -/

theorem init_mem_script_iff {ref : Nat} : .init ref ∈ script h ↔ ref ∈ h.names.map (·.2) := by
  simp [script, moduleActions, eq_comm]

theorem fire_mem_script_iff {callback : φ} {ref : Nat} :
    .fire callback (some ref) ∈ script h ↔
      ∃ name, (name, ref) ∈ h.names ∧ (name, callback) ∈ h.onLoaded := by
  simp [script, moduleActions, Host.callbacksFor]

theorem handled_script (h : Host ι φ) :
    (script h).filterMap Action.handled? = h.names.map (·.2) := by
  have hfires (callbacks : List φ) (place : Option Nat) :
      (callbacks.map (Action.fire · place)).filterMap Action.handled? = [] := by
    rw [List.filterMap_map]
    exact List.filterMap_eq_nil_iff.mpr fun _ _ => rfl
  rw [script, List.filterMap_append, hfires, List.append_nil]
  induction h.names with
  | nil => rfl
  | cons entry rest ih =>
      have hentry : (moduleActions h entry).filterMap Action.handled? = [entry.2] :=
        congrArg (entry.2 :: ·) (hfires (h.callbacksFor entry.1) (some entry.2))
      rw [List.flatMap_cons, List.filterMap_append, ih, hentry]
      rfl

/-! ## A load -/

/-- There is a module, and it is initialized. -/
def InitializedAt (h : Host ι φ) (ref : Nat) : Prop :=
  ∃ m, h.table[ref]? = some m ∧ m.initialized = true

/-- What a load comes to, given the host as it was told and the world in which
    the load begins. -/
structure LoadedOnce (a : World ω ι φ) (h : Host ι φ) (start : ω) (t : Transition ω Unit) :
    Prop where
  ok : t.result = .ok ()
  /-- Everything is done that the script says, in its order, and nothing else. -/
  scripted : t = carryOut a (script h) start
  /-- A callback for a module finds it initialized. -/
  ready : ∀ front callback ref back, script h = front ++ .fire callback (some ref) :: back →
    InitializedAt (a.host (carryOut a front start).state) ref
  /-- It is a callback for a name of the module. -/
  registered : ∀ callback ref, .fire callback (some ref) ∈ script h →
    ∃ name, (name, ref) ∈ h.names ∧ (name, callback) ∈ h.onLoaded
  initialized : ∀ entry ∈ h.names, InitializedAt (a.host t.state) entry.2
  /-- A second load changes nothing. -/
  once : ∀ callbacks, load a callbacks t.state = .fail t.state .alreadyLoaded ∧
    Failure.alreadyLoaded.kind = .argument
  /-- A document with a section that is accepted reaches every module. -/
  deployed : ∀ document entries s new, document.WellKeyed →
    Host.sections document = .ok entries →
    Value.lookup Module.sectionName entries = some (.mapping s) →
    Settings.load (.ofMapping s) = .ok new →
      ((a.host t.state).deploy document).result = .ok () ∧
      ∀ entry ∈ h.names, ∃ m, (a.host t.state).table[entry.2]? = some m ∧
        ((a.host t.state).deploy document).state.table[entry.2]? = some (m.override new)

/-- A module that actions initialize is so when they are done. -/
theorem initializedAt_of_init_mem {actions : List (Action φ)} (hadvanced : Advanced actions h h')
    {ref : Nat} (hlt : ref < h.table.length) (hmem : .init ref ∈ actions) :
    InitializedAt h' ref := by
  obtain ⟨m, hm, hinit⟩ := hadvanced.modules ref _ (List.getElem?_eq_getElem hlt)
  exact ⟨m, hm, hinit (.inr hmem)⟩

/-- A section that goes over the settings of modules reaches each of them. -/
theorem getElem?_overrideAll {refs : List Nat} {ref : Nat} {m : Module ι}
    (hm : h.table[ref]? = some m) (href : ref ∈ refs) (new : Settings.Given) :
    (h.overrideAll refs new).table[ref]? = some (m.override new) := by
  rw [Host.overrideAll, List.getElem?_mapIdx, hm, Option.map_some, if_pos href]

/-- **What a script leaves**, if its callbacks leave the host alone. -/
theorem loadedOnce_carryOut (hlaw : Lawful a) {start : ω} (table : List (Module ι))
    (hstart : a.host start = { h with table, loaded := true })
    (hmodules : ∀ entry ∈ h.names, entry.2 < table.length) (hquiet : AllQuiet a (script h)) :
    LoadedOnce a h start (carryOut a (script h) start) := by
  obtain ⟨hok, hadvanced⟩ := advanced_carryOut hlaw hquiet start
  have hlt {ref : Nat} (hmem : .init ref ∈ script h) : ref < (a.host start).table.length := by
    obtain ⟨entry, hentry, rfl⟩ := List.mem_map.mp (init_mem_script_iff.mp hmem)
    rw [hstart]
    exact hmodules entry hentry
  have hinitialized : ∀ entry ∈ h.names,
      InitializedAt (a.host (carryOut a (script h) start).state) entry.2 := by
    intro entry hentry
    have hmem : .init entry.2 ∈ script h := init_mem_script_iff.mpr (List.mem_map_of_mem hentry)
    exact initializedAt_of_init_mem hadvanced (hlt hmem) hmem
  refine ⟨hok, rfl, ?_, fun _ _ => fire_mem_script_iff.mp, hinitialized, ?_, ?_⟩
  · intro front callback ref back hcut
    have hmem := ready_script h front callback ref back hcut
    have hfront {x : Action φ} (hx : x ∈ front) : x ∈ script h := by
      rw [hcut]
      exact List.mem_append_left _ hx
    have hquiet' : AllQuiet a front := fun other place hother => hquiet other place (hfront hother)
    exact initializedAt_of_init_mem (advanced_carryOut hlaw hquiet' start).2 (hlt (hfront hmem))
      hmem
  · intro callbacks
    have hloaded : (a.host (carryOut a (script h) start).state).loaded = true := by
      rw [hadvanced.loaded, hstart]
    refine ⟨?_, rfl⟩
    rw [load, hloaded]
    rfl
  · intro document entries s new hdocument hentries hfound hload
    obtain ⟨hdeployed, hstate⟩ := Host.deploy_of_accepted hdocument hentries hfound hload
      (a.host (carryOut a (script h) start).state)
    refine ⟨hdeployed, fun entry hentry => ?_⟩
    obtain ⟨m, hm, -⟩ := hinitialized entry hentry
    refine ⟨m, hm, ?_⟩
    rw [hstate]
    refine getElem?_overrideAll hm ?_ new
    rw [hadvanced.handlers, handled_script]
    exact List.mem_append_right _ (List.mem_map_of_mem hentry)

/-- The callbacks that a script fires are those that the host was told of. -/
theorem allQuiet_script (hquiet : ∀ callback ∈ h.onLoaded.map (·.2) ++ h.onAllLoaded,
    Quiet a callback) : AllQuiet a (script h) := by
  intro callback place hmem
  refine hquiet callback (List.mem_append.mpr ?_)
  cases place with
  | some ref =>
      obtain ⟨name, -, hloaded⟩ := fire_mem_script_iff.mp hmem
      exact .inl (List.mem_map.mpr ⟨(name, callback), hloaded, rfl⟩)
  | none =>
      have hall : callback ∈ h.onAllLoaded := by
        simpa [script, moduleActions] using hmem
      exact .inr hall

/-- **A load of modules.**  A host is told of modules and callbacks in any
    order; a registration with an empty name or one that is taken is refused
    and changes nothing.  If the callbacks neither fail nor touch the host, its
    load follows the script: in the order of the registrations, each module is
    initialized, lets its settings section be handled and has its callbacks
    fired in their order, and then the callbacks for all modules fire. -/
theorem load_told (hlaw : Lawful a) (calls : List (Host.Call φ)) {table : List (Module ι)}
    (hw : a.host w = { (Host.told calls : Host ι φ) with table })
    (hmodules : ∀ entry ∈ Host.registrations calls, entry.2 < table.length)
    (hquiet : ∀ callback ∈ (calls.filterMap Host.Call.loaded?).map (·.2)
      ++ calls.filterMap Host.Call.allLoaded?, Quiet a callback)
    {callbacks : Nat}
    (hbound : (calls.filterMap Host.Call.loaded?).length
      + (calls.filterMap Host.Call.allLoaded?).length ≤ callbacks) :
    (∀ front name ref, name = "" ∨ name ∈ (Host.registrations front).map (·.1) →
      (∃ failure, (Host.told front : Host ι φ).register name ref = .error failure ∧
        failure.kind = .argument) ∧
      (Host.told (front ++ [.register name ref]) : Host ι φ) = Host.told front) ∧
    (Host.told calls : Host ι φ) = ⟨[], Host.registrations calls,
      calls.filterMap Host.Call.loaded?, calls.filterMap Host.Call.allLoaded?, [], false⟩ ∧
    LoadedOnce a (Host.told calls) (a.setHost w { a.host w with loaded := true })
      (load a callbacks w) := by
  have htold (calls : List (Host.Call φ)) := Host.told_eq calls (ι := ι)
  refine ⟨?_, htold calls, ?_⟩
  · intro front name ref hrefused
    obtain ⟨failure, hfailure, hkind⟩ :=
      (Host.register_eq (Host.told front : Host ι φ) name ref).1 (by rw [htold]; exact hrefused)
    refine ⟨⟨failure, hfailure, hkind⟩, ?_⟩
    rw [Host.told_concat, Host.call, hfailure]
  · have hnames : (a.host w).names = Host.registrations calls := by rw [hw, htold]
    have honLoaded : (a.host w).onLoaded = calls.filterMap Host.Call.loaded? := by rw [hw, htold]
    have honAll : (a.host w).onAllLoaded = calls.filterMap Host.Call.allLoaded? := by
      rw [hw, htold]
    have hscript : script (a.host w) = script (Host.told calls : Host ι φ) := by
      rw [hw]
      rfl
    have hall : AllQuiet a (script (a.host w)) :=
      allQuiet_script (by rw [honLoaded, honAll]; exact hquiet)
    have hnew : (a.host w).loaded = false := by rw [hw, htold]
    rw [load_eq_carryOut hlaw (hnames ▸ Host.nodup_registrations calls) hnew hall
      (by rw [honLoaded, honAll]; exact hbound), hscript]
    refine loadedOnce_carryOut hlaw table ?_ ?_ (hscript ▸ hall)
    · rw [hlaw.host_setHost, hw]
    · rw [htold]
      exact hmodules

/-- In a session with two modules, callbacks fire in the order of their
    registrations, those for a name that is taken later on do too, and one for a
    name without a module never does. -/
theorem load_told_two_modules :
    let note (tag : String) : Session.Callback := ⟨.str tag, []⟩
    let calls : List (Host.Call Session.Callback) :=
      [.onLoaded "http" (note "early"), .register "" 0, .register "http" 0,
        .onAllLoaded (note "done"), .register "http" 1, .onLoaded "none" (note "never"),
        .register "api" 1, .onLoaded "api" (note "last"), .onLoaded "http" (note "late")]
    let host := { (Host.told calls : Host Nat Session.Callback) with
      table := [Module.fresh 0, Module.fresh 1] }
    let w : Session.World :=
      { Session.World.start 0 with host, moduleNames := [("h", 0), ("a", 1)] }
    let t := load Session.loadingWorld (Session.callbackBound w) w
    t.result = .ok () ∧
      t.state.events = [.loaded (.str "early") ["h"] true, .loaded (.str "late") ["h"] true,
        .loaded (.str "last") ["a"] true, .allLoaded (.str "done")] ∧
      load Session.loadingWorld 0 t.state = .fail t.state .alreadyLoaded := by
  intro note calls host w t
  have hquiet : ∀ callback ∈ (calls.filterMap Host.Call.loaded?).map (·.2)
      ++ calls.filterMap Host.Call.allLoaded?, Quiet Session.loadingWorld callback := by
    intro callback hmem
    have hnotes : (calls.filterMap Host.Call.loaded?).map (·.2)
        ++ calls.filterMap Host.Call.allLoaded?
          = ["early", "never", "last", "late", "done"].map note := rfl
    rw [hnotes] at hmem
    obtain ⟨tag, -, rfl⟩ := List.mem_map.mp hmem
    exact Session.quiet_of_steps rfl
  have hmodules : ∀ entry ∈ Host.registrations calls, entry.2 < host.table.length := by
    have hregistrations : Host.registrations calls = [("http", 0), ("api", 1)] := by decide
    rw [hregistrations]
    decide
  obtain ⟨-, -, hload⟩ := load_told Session.lawful_loadingWorld calls (w := w) rfl hmodules hquiet
    (Session.length_le_callbackBound w)
  refine ⟨hload.ok, ?_, (hload.once 0).1⟩
  have hscripted : t = _ := hload.scripted
  rw [hscripted]
  rfl

end Loading

end HttpExchange
