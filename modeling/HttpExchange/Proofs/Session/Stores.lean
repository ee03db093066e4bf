import HttpExchange.Proofs.Connection.Keeping
import HttpExchange.Proofs.Jar.History
import HttpExchange.Proofs.Module.Preservation
import HttpExchange.Session.Run

/-! # The stores of a session

    Whatever a session does to a cookie store is an operation on the store, be
    it a step of its own, an exchange of a connection or a callback that fires
    while modules are loaded.  So every store of a session is one that a
    history leads to, and what holds after every history holds of it. -/

namespace HttpExchange.Session

open World

variable {w : World}

/-- A history leads to every store of the world. -/
def StoresReachable (w : World) : Prop := ∀ j ∈ w.jars.items, j.Reachable

/-- A store that is picked is one of the world. -/
theorem reachable_of_pick {name : String} {place : Nat} {j : Jar} (hw : StoresReachable w)
    (h : pick w.jars name = .ok (place, j)) : j.Reachable := by
  rw [pick] at h
  split at h
  · exact nomatch h
  · split at h
    · next hitem =>
      cases h
      exact hw _ (List.mem_of_getElem? hitem)
    · exact nomatch h

theorem storesReachable_add (hw : StoresReachable w) (name : String) :
    StoresReachable { w with jars := w.jars.add name .empty } := by
  intro j hj
  rcases List.mem_append.mp hj with hj | hj
  · exact hw j hj
  · rw [List.mem_singleton.mp hj]
    exact Jar.reachable_empty

theorem storesReachable_replace {j : Jar} (hw : StoresReachable w) (hj : j.Reachable)
    (place : Nat) : StoresReachable { w with jars := w.jars.replace place j } := by
  intro k hk
  rcases List.mem_or_eq_of_mem_set hk with hk | rfl
  · exact hw k hk
  · exact hj

theorem storesReachable_handOut (hw : StoresReachable w) (c : Option Cookie)
    (as : Option String) : StoresReachable (handOut w c as).state := by
  cases c with
  | none => exact hw
  | some c =>
      cases as with
      | none => exact hw
      | some name => exact hw

/-- What is done with an object leaves the stores reachable, if the object is
    there. -/
theorem storesReachable_withObject {α : Type} {o : Except Failure α} {f : α → Result}
    (hw : StoresReachable w) (hf : ∀ a, o = .ok a → StoresReachable (f a).state) :
    StoresReachable (withObject w o f).state := by
  cases o with
  | error failure => exact hw
  | ok a => exact hf a rfl

/-- Removing a cookie is an operation on the store, unless the question asks
    for none. -/
theorem storesReachable_removeCookie {j : Jar} (hw : StoresReachable w) (hj : j.Reachable)
    (place : Nat) (q : Question) (as : Option String) :
    StoresReachable (removeCookie w place j q as).state := by
  rw [removeCookie]
  split
  · exact storesReachable_withObject hw (fun _ _ => storesReachable_handOut hw none as)
  · refine storesReachable_withObject hw ?_
    rintro (_ | k) -
    · exact storesReachable_handOut hw none as
    · have hremoved := hj.perform w.clock (.remove k)
      exact storesReachable_handOut (storesReachable_replace hw hremoved place) _ as

/-- **What is done to a store is an operation on it**: a history leads to every
    store afterwards if one did before. -/
theorem storesReachable_onJar (hw : StoresReachable w) (name : String) (action : JarAction) :
    StoresReachable (onJar w name action).state := by
  cases action with
  | create => exact storesReachable_add hw name
  | insertHeader header url =>
      refine storesReachable_withObject hw ?_
      rintro ⟨place, j⟩ hpick
      have hj := (reachable_of_pick hw hpick).perform w.clock (.insertHeader w.now header url)
      exact storesReachable_replace hw hj place
  | insertCookie cookie url =>
      refine storesReachable_withObject hw ?_
      rintro ⟨place, j⟩ hpick
      refine storesReachable_withObject hw ?_
      rintro ⟨_, c⟩ -
      have hj := (reachable_of_pick hw hpick).perform w.clock (.insert c url)
      exact storesReachable_replace hw hj place
  | setCookies headers url =>
      refine storesReachable_withObject hw ?_
      rintro ⟨place, j⟩ hpick
      have hj := (reachable_of_pick hw hpick).perform w.clock (.setCookies w.now headers url)
      exact storesReachable_replace hw hj place
  | clear =>
      refine storesReachable_withObject hw ?_
      rintro ⟨place, j⟩ hpick
      have hj := (reachable_of_pick hw hpick).perform w.clock .clear
      exact storesReachable_replace hw hj place
  | remove q as =>
      refine storesReachable_withObject hw ?_
      rintro ⟨place, j⟩ hpick
      exact storesReachable_removeCookie hw (reachable_of_pick hw hpick) place q as
  | get q as =>
      refine storesReachable_withObject hw ?_
      rintro ⟨place, j⟩ -
      exact storesReachable_withObject hw (fun _ _ => storesReachable_handOut hw _ as)
  | getAny q as =>
      refine storesReachable_withObject hw ?_
      rintro ⟨place, j⟩ -
      exact storesReachable_withObject hw (fun _ _ => storesReachable_handOut hw _ as)
  | contains q => exact storesReachable_withObject hw (fun _ _ => hw)
  | containsAny q => exact storesReachable_withObject hw (fun _ _ => hw)
  | cookiesFor url => exact storesReachable_withObject hw (fun _ _ => hw)
  | unexpired => exact storesReachable_withObject hw (fun _ _ => hw)
  | all => exact storesReachable_withObject hw (fun _ _ => hw)
  | header url => exact storesReachable_withObject hw (fun _ _ => hw)
  | size => exact storesReachable_withObject hw (fun _ _ => hw)

/-! ## Steps that leave the stores alone -/

/-- Only the stores themselves matter. -/
theorem StoresReachable.of_jars {v : World} (hw : StoresReachable w) (h : v.jars = w.jars) :
    StoresReachable v := by
  intro j hj
  rw [h] at hj
  exact hw j hj

theorem changeBy_jars {α : Type} (r : Except Failure α) {change : α → World}
    (hchange : ∀ a, (change a).jars = w.jars) : (changeBy w r change).state.jars = w.jars := by
  cases r with
  | error failure => rfl
  | ok a => exact hchange a

theorem withObject_jars {α : Type} (o : Except Failure α) {f : α → Result}
    (hf : ∀ a, (f a).state.jars = w.jars) : (withObject w o f).state.jars = w.jars := by
  cases o with
  | error failure => rfl
  | ok a => exact hf a

/-- What is done with cookies is done outside of the stores. -/
theorem onCookie_jars (w : World) (name : String) (action : CookieAction) :
    (onCookie w name action).state.jars = w.jars := by
  cases action with
  | create cookieName v => rfl
  | parse header now => exact changeBy_jars _ (fun _ => rfl)
  | ofMapping pairs now => exact changeBy_jars _ (fun _ => rfl)
  | copy source => exact changeBy_jars _ (fun _ => rfl)
  | set field v => exact withObject_jars _ (fun _ => changeBy_jars _ (fun _ => rfl))
  | get field => exact withObject_jars _ (fun _ => rfl)
  | compare other => exact withObject_jars _ (fun _ => rfl)
  | header now => exact withObject_jars _ (fun _ => rfl)
  | hash => exact withObject_jars _ (fun _ => rfl)

theorem onRule_jars (w : World) (name : String) (action : RuleAction) :
    (onRule w name action).state.jars = w.jars := by
  cases action with
  | create method path => rfl
  | configure setup =>
      refine withObject_jars _ ?_
      intro place
      dsimp only
      split
      · rfl
      · split
        · rfl
        · rfl
  | _ =>
      refine withObject_jars _ ?_
      intro place
      dsimp only
      split
      · rfl
      · rfl

theorem onMocker_jars (w : World) (action : MockerAction) :
    (onMocker w action).state.jars = w.jars := by
  cases action <;> rfl

theorem applySettings_jars (w : World) (name : String) (entries : Value) :
    (applySettings w name entries).state.jars = w.jars := by
  refine withObject_jars _ ?_
  intro place
  dsimp only
  split
  · rfl
  · rfl

/-! ## Exchanges, modules and whole sessions -/

theorem reachable_of_jarAt {place : Option Nat} {j : Jar} (hw : StoresReachable w)
    (h : w.jarAt? place = some j) : j.Reachable := by
  obtain ⟨i, -, hitem⟩ := Option.bind_eq_some_iff.mp h
  exact hw j (List.mem_of_getElem? hitem)

/-- An exchange of a connection hands the headers of a response to its store,
    if it does anything to it. -/
theorem storesReachable_runLink (hw : StoresReachable w) (name : String) (link : Link) :
    StoresReachable (runLink w name link).state := by
  have hkeeps := Exchange.keeps_run ⟨link.connection, w.jarAt? link.jar, w.mocker⟩ w.pairAt w.now
    w.clock (send link.transport)
  rw [runLink]
  generalize Exchange.run _ _ _ _ _ = t at hkeeps ⊢
  dsimp only
  split
  · next place j _ hjar =>
    have hj : j.Reachable := by
      rw [hjar] at hkeeps
      rcases hkeeps with hsame | ⟨before, url, headers, hbefore, hafter⟩
      · exact reachable_of_jarAt hw hsame.symm
      · rw [Option.some.inj hafter]
        exact (reachable_of_jarAt hw hbefore).perform w.clock (.setCookies w.now headers url)
    exact (storesReachable_replace hw hj place).of_jars rfl
  · exact hw.of_jars rfl

theorem storesReachable_onConnection (hw : StoresReachable w) (name : String)
    (action : ConnectionAction) : StoresReachable (onConnection w name action).state := by
  cases action with
  | create origin transport =>
      simp only [onConnection]
      split
      · exact hw.of_jars rfl
      · exact hw
  | run =>
      simp only [onConnection]
      split
      · exact hw
      · next link _ => exact storesReachable_runLink hw name link
  | setUrl url =>
      simp only [onConnection]
      split
      · exact hw
      · exact hw.of_jars (changeBy_jars _ (fun _ => rfl))
  | setMethod method =>
      simp only [onConnection]
      split
      · exact hw
      · exact hw.of_jars (changeBy_jars _ (fun _ => rfl))
  | addCookie cookie =>
      simp only [onConnection]
      split
      · exact hw
      · exact hw.of_jars (changeBy_jars _ (fun _ => rfl))
  | _ =>
      simp only [onConnection]
      split
      · exact hw
      · exact hw.of_jars rfl

/-- A module has a store of the world, or a new one. -/
theorem storesReachable_newModule (hw : StoresReachable w) (name : String) (jar : Option String) :
    StoresReachable (newModule w name jar).state := by
  cases jar with
  | none => exact (storesReachable_add hw name).of_jars rfl
  | some jarName =>
      refine storesReachable_withObject hw ?_
      rintro ⟨place, j⟩ -
      exact fun j hj => hw j hj

theorem storesReachable_performPlain (hw : StoresReachable w) (step : Step) :
    StoresReachable (performPlain w step).state := by
  cases step with
  | cookie name action => exact hw.of_jars (onCookie_jars w name action)
  | setClock time => exact hw
  | advanceClock seconds => exact hw
  | jar name action => exact storesReachable_onJar hw name action
  | rule name action => exact hw.of_jars (onRule_jars w name action)
  | mocker action => exact hw.of_jars (onMocker_jars w action)
  | connection name action => exact storesReachable_onConnection hw name action
  | newModule name jar => exact storesReachable_newModule hw name jar
  | register name moduleName =>
      exact hw.of_jars (withObject_jars _ (fun _ => changeBy_jars _ (fun _ => rfl)))
  | getModule name => exact hw
  | load => exact hw
  | onLoaded name tag steps => exact hw
  | onAllLoaded tag steps => exact hw
  | deploy document => exact hw
  | apply moduleName entries => exact hw.of_jars (applySettings_jars w moduleName entries)

/-- The steps of a callback leave the stores reachable. -/
theorem storesReachable_fireSteps (hw : StoresReachable w) (tag : Value) (steps : List Step) :
    StoresReachable (fireSteps tag w steps).state := by
  induction steps generalizing w with
  | nil => exact hw
  | cons step rest ih =>
      have hstep := storesReachable_performPlain hw step
      exact ih (hstep.of_jars rfl)

theorem storesReachable_perform (hw : StoresReachable w) (step : Step) :
    StoresReachable (perform w step).state := by
  cases step with
  | load =>
      refine Loading.load_preserves ?_ ?_ _ hw
      · intro v host hv
        exact hv.of_jars rfl
      · intro v callback place hv
        show StoresReachable (fireSteps callback.tag (note v _) callback.steps).state
        refine storesReachable_fireSteps ?_ callback.tag callback.steps
        exact hv.of_jars rfl
  | _ => exact storesReachable_performPlain hw _

/-- Every step finds the stores reachable and leaves them so. -/
theorem storesReachable_run (hw : StoresReachable w) (steps : List Step) :
    ∀ t ∈ run w steps, StoresReachable t.state := by
  induction steps generalizing w with
  | nil =>
      intro t ht
      exact absurd ht List.not_mem_nil
  | cons step rest ih =>
      have hstep := storesReachable_perform hw step
      intro t ht
      rcases List.mem_cons.mp ht with rfl | ht
      · exact hstep
      · exact ih hstep t ht

/-- **Every store of every session is one that a history leads to**, after each
    of its steps. -/
theorem reachable_of_mem_session (clock : Float) (steps : List Step) :
    ∀ t ∈ run (start clock) steps, ∀ j ∈ t.state.jars.items, j.Reachable := by
  refine storesReachable_run ?_ steps
  intro j hj
  exact absurd hj List.not_mem_nil

end HttpExchange.Session
