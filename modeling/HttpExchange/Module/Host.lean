import HttpExchange.Json.Reader
import HttpExchange.Module.Basic

/-! # The module host

    Modules are registered by name and loaded together once.  Settings
    documents are dispatched, section by section, to the modules that have
    been loaded. -/

namespace HttpExchange

open Text

/-- A host with callbacks of the given type.  Modules are referred to by their
    places in the table. -/
structure Host (ι φ : Type) where
  /-- All modules, registered or not. -/
  table : List (Module ι)
  /-- The registered names with their modules, in order. -/
  names : List (String × Nat)
  /-- The callbacks for single modules, in order. -/
  onLoaded : List (String × φ)
  /-- The callbacks for all modules, in order. -/
  onAllLoaded : List φ
  /-- The modules that handle their settings section, in order. -/
  handlers : List Nat
  loaded : Bool

namespace Host

variable {ι φ : Type}

/-- A host without modules. -/
def empty : Host ι φ := ⟨[], [], [], [], [], false⟩

/-- The module with a registered name. -/
def find? (h : Host ι φ) (name : String) : Option Nat := h.names.lookup name

/-- Register a module under a name of its own. -/
def register (h : Host ι φ) (name : String) (ref : Nat) : Except Failure (Host ι φ) :=
  if name.isEmpty then .error .emptyModuleName
  else if (h.find? name).isSome then .error (.moduleTaken name)
  else .ok { h with names := h.names ++ [(name, ref)] }

/-- The module with a name, which has to be registered. -/
def get (h : Host ι φ) (name : String) : Except Failure Nat :=
  match h.find? name with
  | some ref => .ok ref
  | none => .error (.noModule name)

/-- Call back when the module with a name has been loaded. -/
def addOnLoaded (h : Host ι φ) (name : String) (callback : φ) : Host ι φ :=
  { h with onLoaded := h.onLoaded ++ [(name, callback)] }

/-- Call back when all modules have been loaded. -/
def addOnAllLoaded (h : Host ι φ) (callback : φ) : Host ι φ :=
  { h with onAllLoaded := h.onAllLoaded ++ [callback] }

/-- The callbacks for the module with a name, in order. -/
def callbacksFor (h : Host ι φ) (name : String) : List φ :=
  h.onLoaded.filterMap fun (n, callback) => if n = name then some callback else none

/-- Initialize a module and let it handle its settings section. -/
def start (h : Host ι φ) (ref : Nat) : Host ι φ :=
  { h with
    table := h.table.modify ref fun m => { m with initialized := true }
    handlers := h.handlers ++ [ref] }

/-! ## Settings documents -/

/-- What JSON text denotes, which has to be readable. -/
def parsed (v : Option Value) : Except Failure Value :=
  match v with
  | some v => .ok v
  | none => .error .documentNotJson

/-- The value of a settings document: text and bytes are read as JSON. -/
def documentValue (document : Value) : Except Failure Value :=
  match document with
  | .bytes bs => parsed (Json.readBytes .body bs)
  | v =>
    match v.string? with
    | some s => parsed (Json.read .body s.toList)
    | none => .ok v

/-- The sections of a settings document, which has to be a mapping. -/
def sections (document : Value) : Except Failure (List (String × Value)) :=
  match documentValue document with
  | .ok (.mapping entries) => .ok entries
  | .ok _ => .error .documentNotMapping
  | .error failure => .error failure

/-- Apply a section to modules in order, until one refuses it. -/
def applyTo (entries : List (String × Value)) (h : Host ι φ) :
    List Nat → Transition (Host ι φ) Unit
  | [] => .done h ()
  | ref :: rest =>
    match h.table[ref]? with
    | none => applyTo entries h rest
    | some m =>
      let t := m.applySection entries
      let h := { h with table := h.table.set ref t.state }
      match t.result with
      | .ok () => (applyTo entries h rest).after t.log
      | .error failure => ⟨h, t.log, .error failure⟩

/-- The record of a section that no module handles. -/
def unhandled (name : String) : Log.Record :=
  ⟨.debug, .module, "No module handles settings section " ++ quoteString name⟩

/-- The modules that handle a section. -/
def handlersOf (h : Host ι φ) (name : String) : List Nat :=
  if name = Module.sectionName then h.handlers else []

/-- Dispatch sections to the modules that handle them, until one fails. -/
def dispatch (h : Host ι φ) : List (String × Value) → Transition (Host ι φ) Unit
  | [] => .done h ()
  | (name, v) :: rest =>
    if (h.handlersOf name).isEmpty then (h.dispatch rest).after [unhandled name]
    else match v with
      | .mapping entries =>
        let t := applyTo entries h (h.handlersOf name)
        match t.result with
        | .ok () => (t.state.dispatch rest).after t.log
        | .error _ => t
      | _ => .fail h (.sectionNotMapping name)

/-- Deploy a settings document. -/
def deploy (h : Host ι φ) (document : Value) : Transition (Host ι φ) Unit :=
  match sections document with
  | .ok entries => h.dispatch entries
  | .error failure => .fail h failure

end Host

end HttpExchange
