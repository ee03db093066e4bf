import HttpExchange.Cookie.Read
import HttpExchange.Jar.Scope
import HttpExchange.Value.Atom

/-! # The cookie store

    A jar holds cookies by domain, path and name, in the order in which they
    first came.  A cookie in the jar has a domain and a path of its own, and
    knows whether only the very host that set it may have it back, and when it
    expires.

    The jar's clock shows seconds as a double.  It is read once for each
    operation, and operations are done one at a time. -/

namespace HttpExchange

/-- What tells the cookies of a jar apart.  The domain is in the form in which
    domains are compared. -/
structure Jar.Key where
  domain : String
  path : String
  name : Atom
  deriving DecidableEq, Repr

/-- A cookie in a jar. -/
structure Jar.Entry where
  domain : String
  path : String
  name : Atom
  /-- The cookie as it came. -/
  origin : Cookie
  hostOnly : Bool
  /-- The clock reading at which the cookie expires, unless it never does. -/
  expiresAt : Option Float

/-- A cookie store. -/
structure Jar where
  entries : List Jar.Entry

namespace Jar

/-- A jar without cookies. -/
def empty : Jar := ⟨[]⟩

namespace Entry

/-- The key of an entry. -/
def key (e : Entry) : Key := ⟨domainForm e.domain, e.path, e.name⟩

/-- The cookie as it is handed out: with its domain and path filled in. -/
def cookie (e : Entry) : Cookie := { e.origin with domain := .str e.domain, path := .str e.path }

/-- Has the entry expired at a reading of the clock? -/
def expired (e : Entry) (clock : Float) : Bool :=
  match e.expiresAt with
  | some t => t ≤ clock
  | none => false

end Entry

/-- Put an entry in: one with the same key is replaced in its place. -/
def put (e : Entry) : List Entry → List Entry
  | [] => [e]
  | d :: rest => if d.key = e.key then e :: rest else d :: put e rest

/-- Take the entry with a key out. -/
def takeOut (k : Key) (entries : List Entry) : List Entry := entries.filter fun e => e.key ≠ k

/-- The entry with a key. -/
def find? (j : Jar) (k : Key) : Option Entry := j.entries.find? fun e => e.key = k

/-- The cookie with a key, expired or not. -/
def getAny? (j : Jar) (k : Key) : Option Cookie := (j.find? k).map Entry.cookie

/-- The cookie with a key, unless it has expired. -/
def get? (j : Jar) (clock : Float) (k : Key) : Option Cookie :=
  match j.find? k with
  | some e => if e.expired clock then none else some e.cookie
  | none => none

/-- Is there a cookie with the key, expired or not? -/
def containsAny (j : Jar) (k : Key) : Bool := (j.getAny? k).isSome

/-- Is there a cookie with the key that has not expired? -/
def contains (j : Jar) (clock : Float) (k : Key) : Bool := (j.get? clock k).isSome

/-- Remove the cookie with a key; it is returned if it was there. -/
def remove (j : Jar) (k : Key) : Jar × Option Cookie := (⟨takeOut k j.entries⟩, j.getAny? k)

/-- The cookies that have not expired, in order. -/
def unexpired (j : Jar) (clock : Float) : List Cookie :=
  (j.entries.filter fun e => !e.expired clock).map Entry.cookie

/-- All cookies, expired or not, in order. -/
def all (j : Jar) : List Cookie := j.entries.map Entry.cookie

/-- How many cookies there are, expired or not. -/
def size (j : Jar) : Nat := j.entries.length

end Jar

end HttpExchange
