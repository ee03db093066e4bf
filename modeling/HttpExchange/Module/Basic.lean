import HttpExchange.Connection.Basic
import HttpExchange.Log
import HttpExchange.Settings.Load

/-! # Modules

    A module makes connections that share its settings and its cookie store.
    A settings section is applied over what was given before, and either
    replaces all of it or changes nothing. -/

namespace HttpExchange

open Text

/-- A module; its cookie store is a reference of the given type. -/
structure Module (ι : Type) where
  jar : ι
  given : Settings.Given
  initialized : Bool

namespace Module

variable {ι : Type}

/-- A module without settings. -/
def fresh (jar : ι) : Module ι := ⟨jar, .none, false⟩

/-- The settings in force. -/
def settings (m : Module ι) : Settings := m.given.settings

/-- The name of the settings section of modules. -/
def sectionName : String := "http"

/-- Entries over others: a key that is there keeps its place. -/
def merge (below above : List (String × Value)) : List (String × Value) :=
  above.foldl (fun entries (k, v) => Value.assign k v entries) below

/-- Put a string into a sorted list. -/
def insertSorted (s : String) : List String → List String
  | [] => [s]
  | t :: rest => if s ≤ t then s :: t :: rest else t :: insertSorted s rest

/-- The keys of a section in order. -/
def sortedKeys (entries : List (String × Value)) : List String :=
  (entries.map (·.1)).foldr insertSorted []

/-- The record of a section that was applied. -/
def applied (entries : List (String × Value)) : Log.Record :=
  ⟨.debug, .module, "Applied HTTP settings: "
    ++ (Value.list ((sortedKeys entries).map .str)).toLiteral⟩

/-- Apply a settings section. -/
def applySection (m : Module ι) (entries : List (String × Value)) : Transition (Module ι) Unit :=
  match Settings.load (.ofMapping (merge m.given.toSection entries)) with
  | .ok given => ⟨{ m with given }, [applied entries], .ok ()⟩
  | .error failure => .fail m failure

/-- Apply a settings section that may be any value. -/
def applyValue (m : Module ι) (v : Value) : Transition (Module ι) Unit :=
  match v with
  | .mapping entries => m.applySection entries
  | _ => .fail m .mistyped

/-- A new connection with the settings in force. -/
def newConnection {κ : Type} (m : Module ι) : Connection κ := .fresh m.settings

end Module

end HttpExchange
