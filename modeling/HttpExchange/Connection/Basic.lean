import HttpExchange.Cookie.Basic
import HttpExchange.Request
import HttpExchange.Settings.Basic

/-! # Connections

    A connection prepares one exchange: URL, method, headers, body and cookies
    of its own.  Its cookies are given by references, which are looked up when
    the request is built. -/

namespace HttpExchange

open Text

/-- A callback for JSON responses: it notes the value under its tag, and then
    may fail with a text. -/
structure JsonCallback where
  tag : Value
  failure : Option String

/-- A connection whose own cookies are references of the given type. -/
structure Connection (κ : Type) where
  settings : Settings
  url : Option String
  method : String
  /-- The explicit headers by their names in lower case. -/
  headers : List (String × String × String)
  body : Option (List UInt8)
  cookies : List κ
  callbacks : List JsonCallback
  /-- What the callbacks have noted, in order. -/
  received : List (Value × Value)

namespace Connection

variable {κ : Type}

/-- A connection that has not been prepared. -/
def fresh (settings : Settings) : Connection κ :=
  ⟨settings, none, "GET", [], none, [], [], []⟩

/-- The request methods. -/
def methods : List String :=
  ["GET", "HEAD", "POST", "PUT", "DELETE", "CONNECT", "OPTIONS", "TRACE", "PATCH"]

/-- Is the URL an absolute one for HTTP? -/
def isUsable (u : Url) : Bool := (u.scheme == "http" || u.scheme == "https") && u.hasHost

/-- Set the URL, which has to be an absolute one for HTTP. -/
def setUrl (c : Connection κ) (url : String) : Except Failure (Connection κ) :=
  match Url.split url with
  | .error fault => .error (.url fault)
  | .ok u => if isUsable u then .ok { c with url := some url } else .error (.unusableUrl url)

/-- Set the method, in any case. -/
def setMethod (c : Connection κ) (method : String) : Except Failure (Connection κ) :=
  let name := String.ofList (upper method.toList)
  if methods.contains name then .ok { c with method := name } else .error (.unknownMethod method)

/-- Set a header in place of an earlier one with the same name. -/
def setHeader (c : Connection κ) (name value : String) : Connection κ :=
  { c with headers := Value.assign (lowerString name) (name, value) c.headers }

/-- Set the body. -/
def setBody (c : Connection κ) (body : Option (List UInt8)) : Connection κ := { c with body }

/-- Send a cookie along with those of the cookie store. -/
def addCookie (c : Connection κ) (cookie : κ) : Connection κ :=
  { c with cookies := c.cookies ++ [cookie] }

/-- Register a callback for JSON responses. -/
def onJson (c : Connection κ) (callback : JsonCallback) : Connection κ :=
  { c with callbacks := c.callbacks ++ [callback] }

/-! ## The request -/

/-- The headers of a request without its cookies, by names in lower case: the
    user agent, the default headers and the explicit ones.  A later header
    replaces an earlier one with the same name in its place. -/
def plainHeaders (c : Connection κ) : List (String × String × String) :=
  let agent := [("user-agent", "User-Agent", c.settings.userAgent)]
  let defaults := c.settings.defaultHeaders.map fun (k, v) => (lowerString k, k, v)
  (defaults ++ c.headers).foldl (fun headers (key, header) => Value.assign key header headers)
    agent

/-- The text of the Cookie header, if there are any cookies: those provided
    for the URL, and then the connection's own.  An empty text provides
    nothing. -/
def cookieText (c : Connection κ) (pair : κ → List Char) (provided : Option String) :
    Option String :=
  let stored := provided.filter fun text => !text.isEmpty
  match (stored.map String.toList).toList ++ c.cookies.map pair with
  | [] => none
  | parts => some (String.ofList ([';', ' '].intercalate parts))

/-- The headers of a request with the given cookie text. -/
def requestHeaders (c : Connection κ) (cookies : Option String) : Headers :=
  let headers := match cookies with
    | some text => Value.assign "cookie" ("Cookie", text) c.plainHeaders
    | none => c.plainHeaders
  headers.map (·.2)

/-- Build the request.  The provider gives the text of the stored cookies for
    the URL; it is not asked when the settings say that none are sent. -/
def buildRequest (c : Connection κ) (pair : κ → List Char)
    (provider : Option (String → Except Failure (Option String))) : Except Failure Request :=
  match c.url with
  | none => .error .noUrl
  | some url =>
    let provided := match provider with
      | some cookies => if c.settings.sendCookies then cookies url else .ok none
      | none => .ok none
    provided.map fun text =>
      ⟨c.method, url, c.requestHeaders (c.cookieText pair text), c.body, c.settings.timeout⟩

end Connection

end HttpExchange
