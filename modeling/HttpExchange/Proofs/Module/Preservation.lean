import HttpExchange.Log
import HttpExchange.Module.Loading

/-! # What a load preserves

    A load changes the world by replacing the host and by firing callbacks, so
    whatever survives both of them survives the load, however far it comes. -/

namespace HttpExchange

/-- What survives an operation and the one behind it survives both. -/
theorem Transition.andThen_preserves {σ α β : Type} {I : σ → Prop} {t : Transition σ α}
    {f : σ → α → Transition σ β} (ht : I t.state) (hf : ∀ s a, I s → I (f s a).state) :
    I (t.andThen f).state := by
  rw [andThen]
  cases t.result with
  | error failure => exact ht
  | ok a => exact hf t.state a ht

namespace Loading

variable {ω ι φ : Type} {a : World ω ι φ} {I : ω → Prop}

/-- What a host and a callback preserve, every number of steps preserves. -/
theorem run_preserves (hset : ∀ w h, I w → I (a.setHost w h))
    (hfire : ∀ w callback place, I w → I (a.fire w callback place).state) (count steps : Nat)
    (stage : Stage) {w : ω} (hw : I w) : I (run a count steps stage w).state := by
  induction steps generalizing stage w with
  | zero => exact hw
  | succ steps ih =>
      cases stage with
      | between done =>
          rw [run]
          split
          · exact hw
          · split
            · exact ih _ hw
            · exact ih _ (hset w _ hw)
      | firing done fired =>
          rw [run]
          split
          · exact hw
          · split
            · exact ih _ hw
            · next ref _ _ callback _ =>
              exact Transition.andThen_preserves (hfire w callback (some ref) hw)
                (fun _ _ hs => ih _ hs)
      | closing fired =>
          rw [run]
          split
          · exact hw
          · next callback _ =>
            exact Transition.andThen_preserves (hfire w callback none hw) (fun _ _ hs => ih _ hs)

/-- **What a host and a callback preserve, a load preserves.** -/
theorem load_preserves (hset : ∀ w h, I w → I (a.setHost w h))
    (hfire : ∀ w callback place, I w → I (a.fire w callback place).state) (callbacks : Nat)
    {w : ω} (hw : I w) : I (load a callbacks w).state := by
  rw [load]
  split
  · exact hw
  · exact run_preserves hset hfire _ _ _ (hset w _ hw)

end Loading

end HttpExchange
