import HttpExchange.Jar.Basic

/-! # Putting cookies into the store

    A response may set cookies for its own host and for the domains above it.
    What a cookie that arrives comes to depends on the cookie, the URL and the
    clock alone: it is rejected, it removes a cookie, or it is stored.

    A header is read at the current moment, and its cookie is stored at a
    reading of the store's own clock; the two need not agree. -/

namespace HttpExchange.Jar

open Text

/-- What an arriving cookie comes to. -/
inductive Arrival where
  /-- Its domain does not cover the host. -/
  | rejected (name : Value) (domain host : String)
  /-- The cookie with its domain, path and name goes. -/
  | removal (domain path : String) (name : Value)
  /-- The cookie stays, until the given reading of the clock. -/
  | storage (domain path : String) (hostOnly : Bool) (expiresAt : Option Float) (cookie : Cookie)

/-- The text of a field that has to be text. -/
def textOf : Value → Except Failure String
  | .str s => .ok s
  | .sameSite s => .ok s.word
  | .bytes _ => .error .mistyped
  | _ => .error .unsupported

/-- The reading of the clock at which a cookie of the given age expires; a
    cookie of the session does not. -/
def expiry (clock : Float) (age : Int) : Except Failure (Option Float) :=
  if 0 < age then
    match Binary64.ofInt? age with
    | some seconds => .ok (some (clock + seconds))
    | none => .error .overflow
  else .ok none

/-- The path of a cookie: its own if it starts with a slash, and that of the
    request otherwise. -/
def pathOf (path : String) (u : Url) : String :=
  if path.toList.head? = some '/' then path else defaultPath u.path

/-- What a cookie comes to that arrives from a URL. -/
def arrival (clock : Float) (c : Cookie) (url : String) : Except Failure Arrival := do
  let u ← (Url.split url).mapError .url
  let host := u.host
  if host.isEmpty then throw (.noHost url)
  let given := domainForm (← textOf c.domain)
  if !given.isEmpty && !domainMatch host given then return .rejected c.name given host
  let domain := if given.isEmpty then host else given
  let path := pathOf (← textOf c.path) u
  if c.maxAge = 0 then return .removal domain path c.name
  let expiresAt ← expiry clock c.maxAge
  return .storage domain path given.isEmpty expiresAt c

/-- The record of a rejected cookie. -/
def rejection (name : Value) (domain host : String) : Log.Record :=
  ⟨.warning, .cookie, "Rejecting cookie " ++ name.toLiteral ++ ": domain " ++ quoteString domain
    ++ " does not match host " ++ quoteString host⟩

/-- Carry an arrival out.  A name with parts cannot be looked up, which an
    empty jar does not notice when it is asked to remove it. -/
def receive (j : Jar) : Arrival → Transition Jar Unit
  | .rejected name domain host => ⟨j, [rejection name domain host], .ok ()⟩
  | .removal domain path name =>
    match name.atom? with
    | some atom => .done ⟨takeOut ⟨domainForm domain, path, atom⟩ j.entries⟩ ()
    | none => if j.entries.isEmpty then .done j () else .fail j .mistyped
  | .storage domain path hostOnly expiresAt cookie =>
    match cookie.name.atom? with
    | some atom => .done ⟨put ⟨domain, path, atom, cookie, hostOnly, expiresAt⟩ j.entries⟩ ()
    | none => .fail j .mistyped

/-- Insert a cookie as if a response from the URL had set it. -/
def insert (j : Jar) (clock : Float) (c : Cookie) (url : String) : Transition Jar Unit :=
  match arrival clock c url with
  | .ok a => j.receive a
  | .error failure => .fail j failure

/-- Insert the cookie of a Set-Cookie header, read at the given moment, as if a
    response from the URL had set it. -/
def insertHeader (j : Jar) (now : Reading) (clock : Float) (header url : String) :
    Transition Jar Unit :=
  let parsed := Cookie.parse header now
  match parsed.result with
  | .ok c => (j.insert clock c url).after parsed.log
  | .error failure => ⟨j, parsed.log, .error failure⟩

/-- The record of a header that was dropped. -/
def dropped (url : String) (failure : Failure) : Log.Record :=
  ⟨.warning, .cookie,
    "Dropping malformed Set-Cookie header from " ++ url ++ ": " ++ failure.message⟩

/-- Insert the cookies of all Set-Cookie headers of a response from the URL.
    All of them are read at the given moment.  A header that is rejected is
    reported and left out; any other failure ends the operation. -/
def setCookies (j : Jar) (now : Reading) (clock : Float) (url : String) :
    List String → Transition Jar Unit
  | [] => .done j ()
  | header :: rest =>
    let t := j.insertHeader now clock header url
    match t.result with
    | .ok () => (t.state.setCookies now clock url rest).after t.log
    | .error failure =>
      if failure.isRejection then
        (t.state.setCookies now clock url rest).after (t.log ++ [dropped url failure])
      else t

end HttpExchange.Jar
