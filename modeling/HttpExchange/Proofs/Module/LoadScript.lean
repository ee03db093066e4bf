import HttpExchange.Log
import HttpExchange.Module.Loading
import Mathlib

/-! # A load follows a script

    A load walks through three lists that its callbacks could change on the
    way, and counts its steps.  If the callbacks leave the host alone, the
    lists are known before it starts, and so is everything that it does:

    * `script` is the actions of a load in order, and `carryOut` does them one
      after the other;
    * `Advanced` is what actions leave of a host;
    * `load_eq_carryOut` says that a load with enough steps follows its script. -/

namespace HttpExchange

/-! ## Operations one after the other -/

namespace Transition

variable {σ α β γ : Type} {s : σ} {a : α}

theorem done_andThen (s : σ) (a : α) (f : σ → α → Transition σ β) :
    (done s a).andThen f = f s a := rfl

theorem andThen_of_ok {t : Transition σ α} (h : t.result = .ok a) (f : σ → α → Transition σ β) :
    t.andThen f = (f t.state a).after t.log := by
  rw [andThen, h]

theorem after_andThen (log : Log) (t : Transition σ α) (f : σ → α → Transition σ β) :
    (t.after log).andThen f = (t.andThen f).after log := by
  rw [andThen, andThen, after_result]
  cases t.result with
  | ok a => simp [after, List.append_assoc]
  | error failure => rfl

theorem andThen_assoc (t : Transition σ α) (f : σ → α → Transition σ β)
    (g : σ → β → Transition σ γ) :
    (t.andThen f).andThen g = t.andThen fun s a => (f s a).andThen g := by
  cases h : t.result with
  | ok a => rw [andThen_of_ok h, andThen_of_ok h, after_andThen]
  | error failure => simp only [andThen, h]

end Transition

namespace Loading

open Transition

variable {ω ι φ : Type} {a : World ω ι φ} {h h' : Host ι φ} {w : ω}

/-! ## The script of a load -/

/-- What a load does. -/
inductive Action (φ : Type) where
  /-- Initialize a module. -/
  | init (ref : Nat)
  /-- Let it handle its settings section. -/
  | handle (ref : Nat)
  | report (name : String)
  /-- Fire a callback, for a module or for all of them. -/
  | fire (callback : φ) (place : Option Nat)

/-- Do an action. -/
def act (a : World ω ι φ) (w : ω) : Action φ → Transition ω Unit
  | .init ref =>
    let h := a.host w
    .done (a.setHost w { h with
      table := h.table.modify ref fun m => { m with initialized := true } }) ()
  | .handle ref =>
    let h := a.host w
    .done (a.setHost w { h with handlers := h.handlers ++ [ref] }) ()
  | .report name => ⟨w, [loadedRecord name], .ok ()⟩
  | .fire callback place => a.fire w callback place

/-- Do actions in order, until one fails. -/
def carryOut (a : World ω ι φ) : List (Action φ) → ω → Transition ω Unit
  | [], w => .done w ()
  | x :: rest, w => (act a w x).andThen fun w _ => carryOut a rest w

/-- The actions for one module: it is initialized, its settings section is
    handled, and then its callbacks fire. -/
def moduleActions (h : Host ι φ) (entry : String × Nat) : List (Action φ) :=
  .init entry.2 :: .handle entry.2 :: .report entry.1 ::
    (h.callbacksFor entry.1).map (.fire · (some entry.2))

/-- The actions of a load: module by module, and then the callbacks for all of
    them. -/
def script (h : Host ι φ) : List (Action φ) :=
  h.names.flatMap (moduleActions h) ++ h.onAllLoaded.map (.fire · none)

theorem carryOut_append (front back : List (Action φ)) (w : ω) :
    carryOut a (front ++ back) w = (carryOut a front w).andThen fun w _ => carryOut a back w := by
  induction front generalizing w with
  | nil => rfl
  | cons x front ih =>
      rw [List.cons_append, carryOut, carryOut, andThen_assoc]
      congr 1
      funext w _
      exact ih w

/-! ## What actions leave of a host -/

/-- A world that holds the host it was given, and nothing of an earlier one. -/
structure Lawful (a : World ω ι φ) : Prop where
  host_setHost : ∀ w h, a.host (a.setHost w h) = h
  setHost_setHost : ∀ w h h', a.setHost (a.setHost w h) h' = a.setHost w h'

/-- A host that is left alone.  Its modules may be configured, but none of them
    goes or is no longer initialized. -/
structure Spares (h h' : Host ι φ) : Prop where
  names : h'.names = h.names
  onLoaded : h'.onLoaded = h.onLoaded
  onAllLoaded : h'.onAllLoaded = h.onAllLoaded
  handlers : h'.handlers = h.handlers
  loaded : h'.loaded = h.loaded
  modules : ∀ (ref : Nat) (m : Module ι), h.table[ref]? = some m →
    ∃ m' : Module ι, h'.table[ref]? = some m' ∧ (m.initialized = true → m'.initialized = true)

/-- A callback that neither fails nor touches the host. -/
def Quiet (a : World ω ι φ) (callback : φ) : Prop :=
  ∀ w place, (a.fire w callback place).result = .ok () ∧
    Spares (a.host w) (a.host (a.fire w callback place).state)

/-- The module that an action lets handle its section. -/
def Action.handled? : Action φ → Option Nat
  | .handle ref => some ref
  | .init _ | .report _ | .fire .. => none

/-- What actions leave of a host: the modules that they initialize are, and
    those that they let handle their section do. -/
structure Advanced (actions : List (Action φ)) (h h' : Host ι φ) : Prop where
  names : h'.names = h.names
  onLoaded : h'.onLoaded = h.onLoaded
  onAllLoaded : h'.onAllLoaded = h.onAllLoaded
  loaded : h'.loaded = h.loaded
  handlers : h'.handlers = h.handlers ++ actions.filterMap Action.handled?
  modules : ∀ (ref : Nat) (m : Module ι), h.table[ref]? = some m →
    ∃ m' : Module ι, h'.table[ref]? = some m' ∧
      (m.initialized = true ∨ .init ref ∈ actions → m'.initialized = true)

theorem Advanced.nil (h : Host ι φ) : Advanced ([] : List (Action φ)) h h where
  names := rfl
  onLoaded := rfl
  onAllLoaded := rfl
  loaded := rfl
  handlers := (List.append_nil _).symm
  modules _ m hm := ⟨m, hm, fun hor => hor.elim id fun hmem => absurd hmem List.not_mem_nil⟩

theorem Advanced.append {front back : List (Action φ)} {h'' : Host ι φ}
    (hfront : Advanced front h h') (hback : Advanced back h' h'') :
    Advanced (front ++ back) h h'' where
  names := hback.names.trans hfront.names
  onLoaded := hback.onLoaded.trans hfront.onLoaded
  onAllLoaded := hback.onAllLoaded.trans hfront.onAllLoaded
  loaded := hback.loaded.trans hfront.loaded
  handlers := by
    rw [hback.handlers, hfront.handlers, List.append_assoc, List.filterMap_append]
  modules ref m hm := by
    obtain ⟨m', hm', hinit'⟩ := hfront.modules ref m hm
    obtain ⟨m'', hm'', hinit''⟩ := hback.modules ref m' hm'
    refine ⟨m'', hm'', ?_⟩
    rintro (hold | hmem)
    · exact hinit'' (.inl (hinit' (.inl hold)))
    · rcases List.mem_append.mp hmem with hmem | hmem
      · exact hinit'' (.inl (hinit' (.inr hmem)))
      · exact hinit'' (.inr hmem)

/-- The callbacks that actions fire are quiet. -/
def AllQuiet (a : World ω ι φ) (actions : List (Action φ)) : Prop :=
  ∀ callback place, .fire callback place ∈ actions → Quiet a callback

/-- What is left alone is as after an action that initializes nothing. -/
theorem Spares.advanced {x : Action φ} (hnoinit : ∀ ref, x ≠ .init ref)
    (hspares : Spares { h with handlers := h.handlers ++ [x].filterMap Action.handled? } h') :
    Advanced [x] h h' := by
  refine ⟨hspares.names, hspares.onLoaded, hspares.onAllLoaded, hspares.loaded, hspares.handlers,
    fun ref m hm => ?_⟩
  obtain ⟨m', hm', hinit⟩ := hspares.modules ref m hm
  refine ⟨m', hm', ?_⟩
  rintro (hold | hmem)
  · exact hinit hold
  · exact absurd (List.mem_singleton.mp hmem).symm (hnoinit ref)

theorem Spares.refl (h : Host ι φ) : Spares h h :=
  ⟨rfl, rfl, rfl, rfl, rfl, fun _ m hm => ⟨m, hm, id⟩⟩

/-- **One action** does what it is meant to do. -/
theorem advanced_act (hlaw : Lawful a) {x : Action φ} (hquiet : AllQuiet a [x]) (w : ω) :
    (act a w x).result = .ok () ∧ Advanced [x] (a.host w) (a.host (act a w x).state) := by
  have hnone (h : Host ι φ) : { h with handlers := h.handlers ++ [] } = h := by
    rw [List.append_nil]
  cases x with
  | init ref =>
      refine ⟨rfl, ?_⟩
      rw [act, Transition.done, hlaw.host_setHost]
      refine ⟨rfl, rfl, rfl, rfl, (List.append_nil _).symm, fun place m hm => ?_⟩
      by_cases hplace : ref = place
      · subst hplace
        exact ⟨{ m with initialized := true }, by simp [hm], fun _ => rfl⟩
      · refine ⟨m, by simp [hplace, hm], ?_⟩
        rintro (hold | hmem)
        · exact hold
        · exact absurd (Action.init.inj (List.mem_singleton.mp hmem)).symm hplace
  | handle ref =>
      refine ⟨rfl, Spares.advanced (fun _ hinit => nomatch hinit) ?_⟩
      rw [act, Transition.done, hlaw.host_setHost]
      exact .refl _
  | report name =>
      refine ⟨rfl, Spares.advanced (fun _ hinit => nomatch hinit) ?_⟩
      rw [List.filterMap_cons_none rfl, List.filterMap_nil, hnone]
      exact .refl _
  | fire callback place =>
      obtain ⟨hok, hspares⟩ := hquiet callback place (List.mem_singleton_self _) w place
      refine ⟨hok, Spares.advanced (fun _ hinit => nomatch hinit) ?_⟩
      rw [List.filterMap_cons_none rfl, List.filterMap_nil, hnone]
      exact hspares

/-- **So do actions one after the other.** -/
theorem advanced_carryOut (hlaw : Lawful a) {actions : List (Action φ)}
    (hquiet : AllQuiet a actions) (w : ω) :
    (carryOut a actions w).result = .ok () ∧
      Advanced actions (a.host w) (a.host (carryOut a actions w).state) := by
  induction actions generalizing w with
  | nil => exact ⟨rfl, .nil _⟩
  | cons x rest ih =>
      have hfirst : AllQuiet a [x] := fun callback place hmem =>
        hquiet callback place (List.mem_singleton.mp hmem ▸ List.mem_cons_self)
      obtain ⟨hok, hadvanced⟩ := advanced_act hlaw hfirst w
      obtain ⟨hrestok, hrest⟩ := ih
        (fun callback place hmem => hquiet callback place (List.mem_cons_of_mem _ hmem))
        (act a w x).state
      rw [carryOut, andThen_of_ok hok, after_result, after_state]
      exact ⟨hrestok, hadvanced.append hrest⟩

/-! ## The steps of a load -/

theorem getElem?_of_drop {α : Type} {xs rest : List α} {x : α} {n : Nat}
    (hdrop : xs.drop n = x :: rest) : xs[n]? = some x ∧ xs.drop (n + 1) = rest := by
  refine ⟨?_, ?_⟩
  · rw [← Nat.add_zero n, ← List.getElem?_drop, hdrop]
    rfl
  · rw [← List.drop_drop, hdrop]
    rfl

/-- The callbacks for all modules fire one after the other. -/
theorem run_closing (count : Nat) {steps fired : Nat} {rest : List φ}
    (hrest : (a.host w).onAllLoaded.drop fired = rest)
    (hquiet : ∀ callback ∈ rest, Quiet a callback) (hsteps : rest.length < steps) :
    run a count steps (.closing fired) w = carryOut a (rest.map (.fire · none)) w := by
  induction rest generalizing steps fired w with
  | nil =>
      obtain ⟨steps, rfl⟩ := Nat.exists_eq_add_one_of_ne_zero (Nat.ne_zero_of_lt hsteps)
      rw [run, List.getElem?_eq_none (List.drop_eq_nil_iff.mp hrest)]
      rfl
  | cons callback rest ih =>
      obtain ⟨steps, rfl⟩ := Nat.exists_eq_add_one_of_ne_zero (Nat.ne_zero_of_lt hsteps)
      obtain ⟨hsome, hdrop⟩ := getElem?_of_drop hrest
      obtain ⟨hok, hspares⟩ := hquiet callback List.mem_cons_self w none
      rw [run, hsome, List.map_cons, carryOut, act]
      dsimp only
      rw [andThen_of_ok hok, andThen_of_ok hok, ih]
      · rw [hspares.onAllLoaded]
        exact hdrop
      · exact fun other hother => hquiet other (List.mem_cons_of_mem _ hother)
      · exact Nat.lt_of_succ_lt_succ hsteps

/-- The callbacks for a module fire one after the other, and then the next
    module is loaded. -/
theorem run_firing (count steps : Nat) {done fired : Nat} {name : String} {ref : Nat}
    {rest : List φ} (hname : (a.host w).names[done]? = some (name, ref))
    (hrest : ((a.host w).callbacksFor name).drop fired = rest)
    (hquiet : ∀ callback ∈ rest, Quiet a callback) :
    run a count (rest.length + 1 + steps) (.firing done fired) w
      = (carryOut a (rest.map (.fire · (some ref))) w).andThen fun w _ =>
          run a count steps (.between (done + 1)) w := by
  induction rest generalizing fired w with
  | nil =>
      rw [List.length_nil, Nat.zero_add, Nat.add_comm, run, hname]
      dsimp only
      rw [List.getElem?_eq_none (List.drop_eq_nil_iff.mp hrest)]
      rfl
  | cons callback rest ih =>
      obtain ⟨hsome, hdrop⟩ := getElem?_of_drop hrest
      obtain ⟨hok, hspares⟩ := hquiet callback List.mem_cons_self w (some ref)
      rw [List.length_cons, show rest.length + 1 + 1 + steps = rest.length + 1 + steps + 1 by omega,
        run, hname]
      dsimp only
      rw [hsome, List.map_cons, carryOut, act, andThen_assoc]
      dsimp only
      rw [andThen_of_ok hok, andThen_of_ok hok, ih]
      · rw [hspares.names]
        exact hname
      · rw [Host.callbacksFor, hspares.onLoaded]
        exact hdrop
      · exact fun other hother => hquiet other (List.mem_cons_of_mem _ hother)

/-- The actions for a module start it, and then its callbacks fire. -/
theorem carryOut_moduleActions (hlaw : Lawful a) (h : Host ι φ) (name : String) (ref : Nat)
    (rest : List (Action φ)) (w : ω) :
    carryOut a (moduleActions h (name, ref) ++ rest) w
      = ((carryOut a ((h.callbacksFor name).map (.fire · (some ref)))
          (a.setHost w ((a.host w).start ref))).andThen fun w _ => carryOut a rest w).after
            [loadedRecord name] := by
  rw [← carryOut_append]
  simp only [moduleActions, List.cons_append, carryOut, act, done_andThen, hlaw.host_setHost,
    hlaw.setHost_setHost]
  rfl

/-- The steps that a load needs for modules and for the callbacks behind
    them. -/
def cost (h : Host ι φ) (rest : List (String × Nat)) : Nat :=
  (rest.map fun entry => (h.callbacksFor entry.1).length + 2).sum + h.onAllLoaded.length + 2

theorem cost_cons (h : Host ι φ) (name : String) (ref : Nat) (rest : List (String × Nat)) :
    cost h ((name, ref) :: rest) = (h.callbacksFor name).length + 2 + cost h rest := by
  simp only [cost, List.map_cons, List.sum_cons]
  omega

/-- **The modules are loaded one after the other**, and then the callbacks for
    all of them fire. -/
theorem run_between (hlaw : Lawful a) {steps done : Nat} {rest : List (String × Nat)}
    (hnames : (a.host w).names = h.names) (honLoaded : (a.host w).onLoaded = h.onLoaded)
    (honAll : (a.host w).onAllLoaded = h.onAllLoaded) (hrest : h.names.drop done = rest)
    (hquiet : AllQuiet a (rest.flatMap (moduleActions h) ++ h.onAllLoaded.map (.fire · none)))
    (hsteps : cost h rest ≤ steps) :
    run a h.names.length steps (.between done) w
      = carryOut a (rest.flatMap (moduleActions h) ++ h.onAllLoaded.map (.fire · none)) w := by
  induction rest generalizing steps done w with
  | nil =>
      rw [cost, List.map_nil, List.sum_nil] at hsteps
      obtain ⟨steps, rfl⟩ : ∃ n, steps = n + 1 := ⟨steps - 1, by omega⟩
      rw [run, hnames, if_neg (fun hne => hne rfl),
        List.getElem?_eq_none (List.drop_eq_nil_iff.mp hrest)]
      refine run_closing _ ?_ ?_ ?_
      · rw [honAll, List.drop_zero]
      · intro callback hmem
        exact hquiet callback none (List.mem_append_right _ (List.mem_map_of_mem hmem))
      · omega
  | cons entry rest ih =>
      obtain ⟨name, ref⟩ := entry
      obtain ⟨hname, hdrop⟩ := getElem?_of_drop hrest
      rw [cost_cons] at hsteps
      obtain ⟨more, rfl⟩ : ∃ n, steps = (h.callbacksFor name).length + 1 + n + 1 :=
        ⟨steps - ((h.callbacksFor name).length + 2), by omega⟩
      rw [List.flatMap_cons, List.append_assoc] at hquiet ⊢
      have hfires : AllQuiet a ((h.callbacksFor name).map (.fire · (some ref))) :=
        fun callback place hmem => hquiet callback place
          (List.mem_append_left _ (by simpa [moduleActions] using hmem))
      have hcallbacks : ∀ callback ∈ h.callbacksFor name, Quiet a callback :=
        fun callback hmem => hfires callback (some ref) (List.mem_map_of_mem hmem)
      rw [run, hnames, if_neg (fun hne => hne rfl), hname, carryOut_moduleActions hlaw]
      dsimp only
      -- starting the module leaves the lists alone, and so do its callbacks
      have hstart : a.host (a.setHost w ((a.host w).start ref)) = (a.host w).start ref :=
        hlaw.host_setHost _ _
      generalize a.setHost w ((a.host w).start ref) = started at hstart ⊢
      have hnames' : (a.host started).names = h.names := hstart ▸ hnames
      have honLoaded' : (a.host started).onLoaded = h.onLoaded := hstart ▸ honLoaded
      have honAll' : (a.host started).onAllLoaded = h.onAllLoaded := hstart ▸ honAll
      have hfired : ((a.host started).callbacksFor name).drop 0 = h.callbacksFor name := by
        rw [List.drop_zero, Host.callbacksFor, Host.callbacksFor, honLoaded']
      obtain ⟨hok, hadvanced⟩ := advanced_carryOut hlaw hfires started
      rw [run_firing _ _ (hnames' ▸ hname) hfired hcallbacks, andThen_of_ok hok, andThen_of_ok hok]
      congr 2
      refine ih (hadvanced.names.trans hnames') (hadvanced.onLoaded.trans honLoaded')
        (hadvanced.onAllLoaded.trans honAll') hdrop ?_ (by omega)
      exact fun callback place hmem => hquiet callback place (List.mem_append_right _ hmem)

/-! ## How many callbacks fire -/

/-- The callbacks for a name and those for other names are all of them. -/
theorem length_callbacksFor (h : Host ι φ) (name : String) :
    (h.callbacksFor name).length + (h.onLoaded.filter (·.1 ≠ name)).length = h.onLoaded.length := by
  rw [Host.callbacksFor]
  induction h.onLoaded with
  | nil => rfl
  | cons entry rest ih =>
      obtain ⟨other, callback⟩ := entry
      by_cases hname : other = name
      · simp [hname] at ih ⊢
        omega
      · simp [hname] at ih ⊢
        omega

theorem callbacksFor_filter {name other : String} (hne : other ≠ name) (h : Host ι φ) :
    Host.callbacksFor { h with onLoaded := h.onLoaded.filter (·.1 ≠ name) } other
      = h.callbacksFor other := by
  rw [Host.callbacksFor, Host.callbacksFor, List.filterMap_filter]
  congr 1
  funext entry
  by_cases hentry : entry.1 = other
  · simp [hentry, hne]
  · simp [hentry]

/-- **No callback fires twice**: for different names there are no more
    callbacks than there are entries. -/
theorem sum_length_callbacksFor_le {names : List (String × Nat)}
    (hnodup : (names.map (·.1)).Nodup) (h : Host ι φ) :
    (names.map fun entry => (h.callbacksFor entry.1).length).sum ≤ h.onLoaded.length := by
  induction names generalizing h with
  | nil => exact Nat.zero_le _
  | cons entry rest ih =>
      obtain ⟨hnotin, hrest⟩ := List.nodup_cons.mp hnodup
      -- the other callbacks are among those that are not for this name
      have hothers : (rest.map fun e => (h.callbacksFor e.1).length).sum
          ≤ (h.onLoaded.filter (·.1 ≠ entry.1)).length := by
        refine Nat.le_trans (Nat.le_of_eq ?_)
          (ih hrest { h with onLoaded := h.onLoaded.filter (·.1 ≠ entry.1) })
        refine congrArg List.sum (List.map_congr_left fun e he => ?_)
        have hne : e.1 ≠ entry.1 := fun hname => hnotin (List.mem_map.mpr ⟨e, he, hname⟩)
        rw [callbacksFor_filter hne]
      have hall := length_callbacksFor h entry.1
      rw [List.map_cons, List.sum_cons]
      omega

theorem cost_eq (h : Host ι φ) (names : List (String × Nat)) :
    cost h names = (names.map fun entry => (h.callbacksFor entry.1).length).sum
      + 2 * names.length + h.onAllLoaded.length + 2 := by
  induction names with
  | nil => simp [cost]
  | cons entry rest ih =>
      rw [cost_cons, ih, List.map_cons, List.sum_cons, List.length_cons]
      omega

/-- **A load follows its script**, if its names are different, its callbacks
    leave the host alone, and it has a step for each of them. -/
theorem load_eq_carryOut (hlaw : Lawful a) (hnodup : ((a.host w).names.map (·.1)).Nodup)
    (hnew : (a.host w).loaded = false) (hquiet : AllQuiet a (script (a.host w)))
    {callbacks : Nat}
    (hbound : (a.host w).onLoaded.length + (a.host w).onAllLoaded.length ≤ callbacks) :
    load a callbacks w
      = carryOut a (script (a.host w)) (a.setHost w { a.host w with loaded := true }) := by
  have hhost := hlaw.host_setHost w { a.host w with loaded := true }
  have hfires := sum_length_callbacksFor_le hnodup (a.host w)
  rw [load, hnew]
  refine run_between hlaw ?_ ?_ ?_ List.drop_zero hquiet ?_
  · rw [hhost]
  · rw [hhost]
  · rw [hhost]
  · rw [cost_eq, stepBound]
    omega

end Loading

end HttpExchange
