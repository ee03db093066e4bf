import HttpExchange.Value.Basic

/-! # Shelves

    A shelf holds objects in the order in which they came, and names for some
    of them.  Several names can stand for one object, and a name can be given
    to another object later on. -/

namespace HttpExchange.Session

/-- Objects with names. -/
structure Shelf (α : Type) where
  items : List α
  names : List (String × Nat)

namespace Shelf

variable {α : Type}

/-- A shelf without objects. -/
def empty : Shelf α := ⟨[], []⟩

/-- The place of the object with a name. -/
def place? (s : Shelf α) (name : String) : Option Nat := s.names.lookup name

/-- The object with a name. -/
def get? (s : Shelf α) (name : String) : Option α := (s.place? name).bind fun i => s.items[i]?

/-- Give a name to the object at a place. -/
def label (s : Shelf α) (name : String) (place : Nat) : Shelf α :=
  { s with names := Value.assign name place s.names }

/-- Put an object on the shelf under a name. -/
def add (s : Shelf α) (name : String) (a : α) : Shelf α :=
  Shelf.label { s with items := s.items ++ [a] } name s.items.length

/-- Put another object in a place. -/
def replace (s : Shelf α) (place : Nat) (a : α) : Shelf α :=
  { s with items := s.items.set place a }

end Shelf

end HttpExchange.Session
