import HttpExchange.Jar.Basic

/-! # Cookies for a request

    The cookies that go with a request to a URL: those in scope that have not
    expired, with longer paths first. -/

namespace HttpExchange.Jar

/-- Does the domain of an entry cover the host? -/
def Entry.coversHost (e : Entry) (host : String) : Bool :=
  if e.hostOnly then host == e.domain else domainMatch host e.domain

/-- Does an entry go with a request to the URL at a reading of the clock? -/
def Entry.goesTo (e : Entry) (clock : Float) (u : Url) : Bool :=
  !e.expired clock && e.coversHost u.host && pathMatch (requestPath u) e.path &&
    (u.isSecure || !e.origin.secure)

/-- Put an entry in front of the first one whose path is not longer. -/
def insertByPath (e : Entry) : List Entry → List Entry
  | [] => [e]
  | d :: rest =>
    if d.path.length ≤ e.path.length then e :: d :: rest else d :: insertByPath e rest

/-- Entries with longer paths first; entries with paths of the same length
    keep their order. -/
def sortByPath (entries : List Entry) : List Entry := entries.foldr insertByPath []

/-- The entries that go with a request to the URL. -/
def selected (j : Jar) (clock : Float) (u : Url) : List Entry :=
  sortByPath (j.entries.filter fun e => e.goesTo clock u)

/-- The cookies that go with a request to the URL. -/
def cookiesFor (j : Jar) (clock : Float) (url : String) : Except Failure (List Cookie) :=
  match Url.split url with
  | .ok u => .ok ((j.selected clock u).map Entry.cookie)
  | .error fault => .error (.url fault)

/-- Pairs as they stand in a Cookie header. -/
def joinPairs (pairs : List (List Char)) : String := String.ofList ([';', ' '].intercalate pairs)

/-- The Cookie header of a request to the URL, if any cookies go with it. -/
def header? (j : Jar) (clock : Float) (url : String) : Except Failure (Option String) :=
  match j.cookiesFor clock url with
  | .ok [] => .ok none
  | .ok cookies => .ok (some (joinPairs (cookies.map Cookie.pair)))
  | .error failure => .error failure

end HttpExchange.Jar
