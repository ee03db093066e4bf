import HttpExchange.Module.Host

/-! # Loading modules

    The modules of a host are loaded in the order of their registration: each
    is initialized, and then its callbacks fire.  When all are loaded, the
    callbacks for all fire.  A callback may act on the whole world that the
    host is part of; callbacks that it adds to a list still being walked
    through fire as well, but a module must not be registered before all are
    loaded. -/

namespace HttpExchange.Loading

variable {ω ι φ : Type}

/-- A world with a host in it: how the host is read and replaced, and what a
    callback does, given the module that it is called for. -/
structure World (ω ι φ : Type) where
  host : ω → Host ι φ
  setHost : ω → Host ι φ → ω
  fire : ω → φ → Option Nat → Transition ω Unit

/-- How far a load has come. -/
inductive Stage where
  /-- So many modules are done. -/
  | between (done : Nat)
  /-- The next module is initialized and so many of its callbacks have
      fired. -/
  | firing (done fired : Nat)
  /-- All modules are done and so many callbacks for all have fired. -/
  | closing (fired : Nat)
  deriving DecidableEq, Repr

/-- The record of a loaded module. -/
def loadedRecord (name : String) : Log.Record :=
  ⟨.debug, .module, "Loaded module " ++ Text.quoteString name⟩

/-- Go on with a load of the given number of modules; the first number bounds
    the steps. -/
def run (a : World ω ι φ) (count : Nat) : Nat → Stage → ω → Transition ω Unit
  | 0, _, w => .done w ()
  | steps + 1, .between done, w =>
    let h := a.host w
    if h.names.length ≠ count then .fail w .registeredWhileLoading
    else match h.names[done]? with
      | none => run a count steps (.closing 0) w
      | some (name, ref) =>
        (run a count steps (.firing done 0) (a.setHost w (h.start ref))).after
          [loadedRecord name]
  | steps + 1, .firing done fired, w =>
    let h := a.host w
    match h.names[done]? with
    | none => .done w ()
    | some (name, ref) =>
      match (h.callbacksFor name)[fired]? with
      | none => run a count steps (.between (done + 1)) w
      | some callback =>
        (a.fire w callback (some ref)).andThen fun w _ =>
          run a count steps (.firing done (fired + 1)) w
  | steps + 1, .closing fired, w =>
    match (a.host w).onAllLoaded[fired]? with
    | none => .done w ()
    | some callback =>
      (a.fire w callback none).andThen fun w _ => run a count steps (.closing (fired + 1)) w

/-- The steps of a load in which at most so many callbacks fire. -/
def stepBound (h : Host ι φ) (callbacks : Nat) : Nat := 2 * h.names.length + callbacks + 3

/-- Load the modules, at most once; at most so many callbacks fire. -/
def load (a : World ω ι φ) (callbacks : Nat) (w : ω) : Transition ω Unit :=
  let h := a.host w
  if h.loaded then .fail w .alreadyLoaded
  else run a h.names.length (stepBound h callbacks) (.between 0)
    (a.setHost w { h with loaded := true })

end HttpExchange.Loading
