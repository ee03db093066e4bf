import HttpExchange.Proofs.Module.LoadScript
import HttpExchange.Session.Run

/-! # Loads in a session

    A session holds the host that it is given, its callbacks leave the host
    alone unless they do steps, and the bound on callbacks has room for all of
    them. -/

namespace HttpExchange.Session

open Loading

theorem lawful_loadingWorld : Lawful loadingWorld where
  host_setHost _ _ := rfl
  setHost_setHost _ _ _ := rfl

/-- **A callback without steps** neither fails nor touches the host. -/
theorem quiet_of_steps {callback : Callback} (hsteps : callback.steps = []) :
    Quiet loadingWorld callback := by
  intro w place
  have hfire : loadingWorld.fire w callback place
      = .done (note w (firstEvent w callback.tag place)) () := by
    show fireSteps _ _ callback.steps = _
    rw [hsteps]
    rfl
  rw [hfire]
  exact ⟨rfl, rfl, rfl, rfl, rfl, rfl, fun _ m hm => ⟨m, hm, id⟩⟩

/-- **Every callback has room in the bound.** -/
theorem length_le_callbackBound (w : World) :
    w.host.onLoaded.length + w.host.onAllLoaded.length ≤ callbackBound w := by
  have hall (callbacks : List Callback) :
      callbacks.length ≤ callbacks.foldr (fun callback n => callback.weight + n) 0 := by
    induction callbacks with
    | nil => exact Nat.le_refl _
    | cons callback rest ih =>
        rw [List.length_cons, List.foldr_cons, Callback.weight]
        omega
  have hlength := hall (w.host.onLoaded.map (·.2) ++ w.host.onAllLoaded)
  rw [List.length_append, List.length_map] at hlength
  exact hlength

end HttpExchange.Session
