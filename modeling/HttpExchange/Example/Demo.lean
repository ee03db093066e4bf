import HttpExchange.Json.Writer
import HttpExchange.Request
import HttpExchange.Response

/-! # A demonstration server

    A transport that answers like a small server: a login sets a session
    cookie, and every other request is answered with the last part of its path
    and the cookies that it brought. -/

namespace HttpExchange.Demo

open Text

/-- The response to a login. -/
def login : Response :=
  ⟨200, [("Set-Cookie", "session=abc123; Path=/; HttpOnly; SameSite=Lax")], []⟩

/-- What a request asked for and brought. -/
def echo (r : Request) : Value :=
  .mapping [("path", .str (String.ofList (partitionLast '/' r.url.toList).2)),
    ("cookie", (r.header? "Cookie").elim .null .str)]

/-- Answer a request. -/
def answer (r : Request) : Response :=
  if "/login".toList.isSuffixOf r.url.toList then login
  else ⟨200, [("Content-Type", "application/json")], (Json.writeBytes? (echo r)).getD []⟩

end HttpExchange.Demo
