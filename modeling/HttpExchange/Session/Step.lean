import HttpExchange.Cookie.Basic
import HttpExchange.Mock.Report
import HttpExchange.Time.Moment

/-! # Steps of a session

    What can be done in a session with objects that have names: cookies,
    cookie stores, mock rules, connections and modules.  Every step names the
    objects that it works on. -/

namespace HttpExchange.Session

/-- What a cookie is compared with: another cookie or a plain value. -/
inductive Comparand where
  | cookie (name : String)
  | value (v : Value)

/-- How a new connection sends its requests. -/
inductive Transport where
  | mock
  | demo
  /-- Every connection is refused with the text. -/
  | refusing (text : String)
  deriving DecidableEq, Repr

/-- Where a new connection comes from. -/
inductive Origin where
  | module (name : String)
  /-- A connection on its own, with a cookie store and settings if given. -/
  | own (jar : Option String) (settings : Option Value)

/-- A question about one cookie of a store.  Its parts may be of any kind. -/
structure Question where
  domain : Value
  path : Value
  name : Value

/-- What is done to a cookie store. -/
inductive JarAction where
  | create
  | insertHeader (header url : String)
  | insertCookie (cookie url : String)
  | contains (q : Question)
  | containsAny (q : Question)
  /-- The cookie that is found gets the name, if one is given. -/
  | get (q : Question) (as : Option String)
  | getAny (q : Question) (as : Option String)
  | remove (q : Question) (as : Option String)
  | cookiesFor (url : String)
  | unexpired
  | all
  | header (url : String)
  | setCookies (headers : List String) (url : String)
  | clear
  | size

/-- What is done to a connection. -/
inductive ConnectionAction where
  | create (origin : Origin) (transport : Transport)
  | setUrl (url : String)
  | setMethod (method : String)
  | setHeader (name value : String)
  | setBody (body : Option (List UInt8))
  | addCookie (cookie : String)
  | onJson (tag : Value) (failure : Option String)
  | build
  | run

/-- What is done to a mock rule. -/
inductive RuleAction where
  | create (method path : Option Value)
  | configure (setup : Mock.Rule.Setup)
  | check (e : Mock.Expectation)
  | requests
  | count
  | reset

/-- What is done to the mock transport. -/
inductive MockerAction where
  | send (r : Request)
  | strict (enabled : Bool)
  | requests
  | count
  | clear
  | reset

/-- What is done to a cookie. -/
inductive CookieAction where
  | create (name value : Value)
  | parse (header : String) (now : Option Moment)
  | ofMapping (pairs : List (String × String)) (now : Option Moment)
  | copy (source : String)
  | set (field : String) (v : Value)
  | get (field : String)
  | compare (other : Comparand)
  | header (now : Option Moment)
  | hash

/-- One step. -/
inductive Step where
  | cookie (name : String) (action : CookieAction)
  | setClock (time : Float)
  | advanceClock (seconds : Float)
  | jar (name : String) (action : JarAction)
  | rule (name : String) (action : RuleAction)
  | mocker (action : MockerAction)
  | connection (name : String) (action : ConnectionAction)
  /-- A new module with the cookie store, or with one of its own. -/
  | newModule (name : String) (jar : Option String)
  | register (name moduleName : String)
  | getModule (name : String)
  | load
  /-- When the module is loaded, note the tag and do the steps. -/
  | onLoaded (name : String) (tag : Value) (steps : List Step)
  | onAllLoaded (tag : Value) (steps : List Step)
  | deploy (document : Value)
  | apply (moduleName : String) (entries : Value)

/-- The kind and the name of the object whose state a step shows. -/
inductive Subject where
  | cookie (name : String)
  | jar (name : String)
  | connection (name : String)
  | modules
  | nothing
  deriving DecidableEq, Repr

/-- The object whose state a step shows. -/
def Step.subject : Step → Subject
  | .cookie name _ => .cookie name
  | .jar name _ => .jar name
  | .connection name _ => .connection name
  | .setClock _ | .advanceClock _ | .rule .. | .mocker _ => .nothing
  | .newModule .. | .register .. | .getModule _ | .load | .onLoaded .. | .onAllLoaded ..
  | .deploy _ | .apply .. => .modules

mutual

/-- How many callbacks a step can register, by itself and by the steps that
    they do. -/
def Step.weight : Step → Nat
  | .onLoaded _ _ steps => weightOf steps + 1
  | .onAllLoaded _ steps => weightOf steps + 1
  | _ => 0

/-- How many callbacks steps can register. -/
def weightOf : List Step → Nat
  | [] => 0
  | step :: rest => step.weight + weightOf rest

end

end HttpExchange.Session
