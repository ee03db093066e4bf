import HttpExchange.Connection.Exchange
import HttpExchange.Cookie.Header
import HttpExchange.Example.Demo
import HttpExchange.Module.Loading

/-! # Examples

    Three runs of the library with what they print: a header that is written,
    one that is read, and a session of a module with a server. -/

namespace HttpExchange.Examples

/-- A line that shows named values. -/
def line (entries : List (String × Value)) : String := (Value.mapping entries).toLiteral ++ "\n"

/-- What an example prints, or why it fails. -/
abbrev Print := Except Failure String

/-- Write a Set-Cookie header. -/
def setCookie : Print := do
  let c ← (Cookie.ofPair (.str "id") (.str (Percent.escape "a b;c"))).setAll
    [("path", .str "/"), ("max_age", .int 3600), ("secure", .bool true),
      ("http_only", .bool true), ("same_site", .sameSite .strict)]
  let plain ← (Percent.unescape c.value.toText).mapError .escape
  return line [("example", .str "set_cookie"), ("header", .str (c.headerString none)),
    ("value", .str plain)]

/-- Read a Set-Cookie header. -/
def parse (now : Reading) : Print := do
  let c ← (Cookie.parse "id=7; Path=/; Secure; Priority=High" now).result
  return line [("example", .str "parse"), ("name", c.name), ("value", c.value), ("path", c.path),
    ("secure", .bool c.secure)]

/-- A host with one loaded module that has a user agent of its own. -/
def host : Except Failure (Host Unit Empty) := do
  let h ← (⟨[.fresh ()], [], [], [], [], false⟩ : Host Unit Empty).register "http" 0
  let world : Loading.World (Host Unit Empty) Unit Empty :=
    ⟨id, fun _ h => h, fun _ callback _ => callback.elim⟩
  let loaded := Loading.load world 0 h
  loaded.result
  let deployed :=
    loaded.state.deploy (.str "\x7b\"http\": \x7b\"user_agent\": \"pyhttpmod-example/1.0\"\x7d\x7d")
  deployed.result
  return deployed.state

/-- Run a connection against the demonstration server. -/
def exchange (c : Connection Cookie) (jar : Jar) (clock : Float) :
    Transition (Exchange Cookie Unit) Response :=
  Exchange.run ⟨c, some jar, ()⟩ Cookie.pair (.ofSeconds clock) clock fun _ r =>
    .done () (Demo.answer r)

/-- A login and a request of the same module. -/
def moduleSession (clock : Float) : Print := do
  let h ← host
  let place ← h.get "http"
  let settings := ((h.table[place]?).map Module.settings).getD .default
  let login ← (Connection.fresh settings).setUrl "http://api.example.com/login"
  let first := exchange login .empty clock
  let _ ← first.result
  let me ← (Connection.fresh settings).setUrl "http://api.example.com/me"
  let second := exchange (me.onJson ⟨.null, none⟩) (first.state.jar.getD .empty) clock
  let _ ← second.result
  return line [("example", .str "module_session"),
    ("json", .list (second.state.connection.received.map (·.2)))]

/-- The examples by name, in order. -/
def all (clock : Float) : List (String × Print) :=
  [("example_set_cookie", setCookie), ("example_parse", parse (.ofSeconds clock)),
    ("example_module_session", moduleSession clock)]

/-- What all examples print, each after its title. -/
def runAll : List (String × Print) → Print
  | [] => .ok ""
  | (name, print) :: rest => do
    let text ← print
    let more ← runAll rest
    return "\n# running: " ++ name ++ "\n" ++ text ++ more

/-- What the example with a name prints; an asterisk stands for all. -/
def run (clock : Float) (name : String) : Print :=
  if name = "*" then runAll (all clock)
  else match (all clock).lookup name with
    | some print => print
    | none => .error (.noObject name)

end HttpExchange.Examples
