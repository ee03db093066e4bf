import HttpExchange.Connection.Exchange
import HttpExchange.Mock.Mocker
import HttpExchange.Module.Loading
import HttpExchange.Session.Shelf
import HttpExchange.Session.Step

/-! # The world of a session

    All objects of a session with their names, the clock that all of them
    read, and the events that the callbacks of modules have noted. -/

namespace HttpExchange.Session

/-- What a step replies. -/
inductive Reply where
  | nothing
  | value (v : Value)
  | comparison (equal different : Bool)
  | cookie (c : Option Cookie)
  | cookies (cs : List Cookie)
  /-- Cookies as their headers. -/
  | headers (cs : List Cookie)
  | request (r : Request)
  | requests (rs : List Request)
  | response (r : Response)
  | settings (s : Settings)
  | names (names : List String)

/-- What a callback for modules does: note a tag and do steps. -/
structure Callback where
  tag : Value
  steps : List Step

/-- How many callbacks can fire because of a callback, itself included. -/
def Callback.weight (c : Callback) : Nat := weightOf c.steps + 1

/-- What callbacks have noted. -/
inductive Event where
  /-- A module was loaded that has the names. -/
  | loaded (tag : Value) (names : List String) (initialized : Bool)
  | allLoaded (tag : Value)
  /-- A step of a callback was done. -/
  | stepped (tag : Value) (result : Except Failure Reply)

/-- A connection with the places of what it uses. -/
structure Link where
  connection : Connection Nat
  jar : Option Nat
  transport : Transport

/-- The world of a session. -/
structure World where
  clock : Float
  cookies : Shelf Cookie
  jars : Shelf Jar
  mocker : Mock.Mocker
  /-- The rules that were removed from the mock transport, in order; they
      come before its rules in the count of places. -/
  retired : List Mock.Rule
  ruleNames : List (String × Nat)
  links : List (String × Link)
  host : Host Nat Callback
  moduleNames : List (String × Nat)
  events : List Event

namespace World

/-- A world without objects. -/
def start (clock : Float) : World :=
  ⟨clock, .empty, .empty, .empty, [], [], [], .empty, [], []⟩

/-- The moment that the clock shows. -/
def now (w : World) : Reading := .ofSeconds w.clock

/-- The place of what has a name, which has to exist. -/
def placeOf (names : List (String × Nat)) (name : String) : Except Failure Nat :=
  match names.lookup name with
  | some place => .ok place
  | none => .error (.noObject name)

/-- An object on a shelf with its place; its name has to exist. -/
def pick {α : Type} (s : Shelf α) (name : String) : Except Failure (Nat × α) :=
  match s.place? name with
  | none => .error (.noObject name)
  | some place =>
    match s.items[place]? with
    | some a => .ok (place, a)
    | none => .error (.noObject name)

/-- All rules, removed or not. -/
def rules (w : World) : List Mock.Rule := w.retired ++ w.mocker.rules

/-- Put another rule in a place. -/
def replaceRule (w : World) (place : Nat) (rule : Mock.Rule) : World :=
  let all := w.rules.set place rule
  { w with
    retired := all.take w.retired.length
    mocker := { w.mocker with rules := all.drop w.retired.length } }

/-- Set a connection in place of an earlier one with the name. -/
def setLink (w : World) (name : String) (link : Link) : World :=
  { w with links := Value.assign name link w.links }

/-- The names of a module. -/
def namesOf (w : World) (place : Nat) : List String :=
  (w.moduleNames.filter fun (_, p) => p == place).map (·.1)

/-- The pair of the cookie in a place. -/
def pairAt (w : World) (place : Nat) : List Char := (w.cookies.items[place]?).elim [] Cookie.pair

/-- The cookie store in a place. -/
def jarAt? (w : World) (place : Option Nat) : Option Jar := place.bind fun i => w.jars.items[i]?

end World

end HttpExchange.Session
