import HttpExchange.Failure
import HttpExchange.Headers

/-! # Connection settings

    Settings are what has been given explicitly, over the defaults. -/

namespace HttpExchange

/-- The settings of connections.  The timeout is in microseconds. -/
structure Settings where
  userAgent : String
  defaultHeaders : Headers
  timeout : Option Int
  errorForStatus : Bool
  sendCookies : Bool
  storeCookies : Bool
  deriving DecidableEq, Repr

namespace Settings

/-- The settings when nothing is given. -/
def default : Settings := ⟨"pyhttpmod/0.1", [], none, false, true, true⟩

/-- The settings that have been given. -/
structure Given where
  userAgent : Option String
  defaultHeaders : Option Headers
  timeout : Option (Option Int)
  errorForStatus : Option Bool
  sendCookies : Option Bool
  storeCookies : Option Bool
  deriving DecidableEq, Repr

namespace Given

/-- Nothing is given. -/
def none : Given := ⟨.none, .none, .none, .none, .none, .none⟩

/-- The settings in force: what is given, and the defaults for the rest. -/
def settings (g : Given) : Settings where
  userAgent := g.userAgent.getD default.userAgent
  defaultHeaders := g.defaultHeaders.getD default.defaultHeaders
  timeout := g.timeout.getD default.timeout
  errorForStatus := g.errorForStatus.getD default.errorForStatus
  sendCookies := g.sendCookies.getD default.sendCookies
  storeCookies := g.storeCookies.getD default.storeCookies

/-- An entry of a section, if the setting is given. -/
def entry {α : Type} (key : String) (toValue : α → Value) (given : Option α) :
    List (String × Value) :=
  (given.map fun a => (key, toValue a)).toList

/-- Headers as a mapping. -/
def headersValue (headers : Headers) : Value := .mapping (headers.map fun (k, v) => (k, .str v))

/-- A timeout as a value. -/
def timeoutValue (timeout : Option Int) : Value := timeout.elim .null .duration

/-- What is given as a section again. -/
def toSection (g : Given) : List (String × Value) :=
  entry "user_agent" .str g.userAgent ++ entry "default_headers" headersValue g.defaultHeaders
    ++ entry "timeout" timeoutValue g.timeout ++ entry "error_for_status" .bool g.errorForStatus
    ++ entry "send_cookies" .bool g.sendCookies ++ entry "store_cookies" .bool g.storeCookies

end Given

/-- Settings with nothing given are the defaults. -/
theorem settings_none : Given.none.settings = default := rfl

end Settings

end HttpExchange
