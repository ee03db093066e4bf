import HttpExchange.Cookie.Header
import HttpExchange.Example.Demo
import HttpExchange.Session.World

/-! # Running a session

    Every step is done on the world that the steps before it left, also when
    one of them failed.  A step that fails leaves what it had already done. -/

namespace HttpExchange.Session

open World

/-- What a step leaves. -/
abbrev Result := Transition World Reply

/-- Reply to a result without changing the world. -/
def replyTo {α : Type} (w : World) (r : Except Failure α) (reply : α → Reply) : Result :=
  ⟨w, [], r.map reply⟩

/-- Change the world by a result, and reply with nothing. -/
def changeBy {α : Type} (w : World) (r : Except Failure α) (change : α → World) : Result :=
  match r with
  | .ok a => .done (change a) .nothing
  | .error failure => .fail w failure

/-- Do something with an object that has to exist. -/
def withObject {α : Type} (w : World) (o : Except Failure α) (f : α → Result) : Result :=
  match o with
  | .ok a => f a
  | .error failure => .fail w failure

/-! ## Cookies -/

/-- Name a cookie that was made, if it was. -/
def nameOutcome (w : World) (name : String) (o : Outcome Cookie) : Result :=
  (changeBy w o.result fun c => { w with cookies := w.cookies.add name c }).after o.log

/-- Is the cookie equal to what it is compared with? -/
def comparison (w : World) (c : Cookie) : Comparand → Except Failure Bool
  | .value _ => .ok false
  | .cookie name => (pick w.cookies name).map fun (_, d) => c.equal d

/-- Do something with cookies. -/
def onCookie (w : World) (name : String) (action : CookieAction) : Result :=
  match action with
  | .create cookieName v =>
    .done { w with cookies := w.cookies.add name (.ofPair cookieName v) } .nothing
  | .parse header now => nameOutcome w name (Cookie.parse header (now.elim w.now .ok))
  | .ofMapping pairs now => nameOutcome w name (Cookie.ofMapping pairs (now.elim w.now .ok))
  | .copy source =>
    changeBy w (pick w.cookies source) fun (_, c) =>
      { w with cookies := w.cookies.add name c }
  | action => withObject w (pick w.cookies name) fun (place, c) =>
    match action with
    | .set field v =>
      changeBy w (c.setNamed field v) fun c => { w with cookies := w.cookies.replace place c }
    | .get field => replyTo w (c.getNamed field) .value
    | .compare other => replyTo w (comparison w c other) fun b => .comparison b !b
    | .header now => replyTo w (c.written now) fun text => .value (.str text)
    | _ => .fail w .mistyped

/-! ## Cookie stores -/

/-- Reply with a cookie, and give it a name if one is given. -/
def handOut (w : World) (c : Option Cookie) (as : Option String) : Result :=
  match c, as with
  | some c, some name => .done { w with cookies := w.cookies.add name c } (.cookie (some c))
  | c, _ => .done w (.cookie c)

/-- The key that a question asks for.  The domain has to be text, and lists and
    mappings cannot be looked up; a path that is no text is that of no
    cookie. -/
def Question.key? (q : Question) : Except Failure (Option Jar.Key) := do
  let domain ← Jar.textOf q.domain
  match q.path.atom?, q.name.atom? with
  | some (.text path), some name => return some ⟨Jar.domainForm domain, path, name⟩
  | some _, some _ => return none
  | _, _ => throw .mistyped

/-- Remove the cookie of a question from the store in a place.  In an empty
    store nothing is looked up. -/
def removeCookie (w : World) (place : Nat) (j : Jar) (q : Question) (as : Option String) :
    Result :=
  if j.entries.isEmpty then withObject w (Jar.textOf q.domain) fun _ => handOut w none as
  else withObject w q.key? fun key =>
    match key with
    | none => handOut w none as
    | some key =>
      let (j, c) := j.remove key
      handOut { w with jars := w.jars.replace place j } c as

/-- Carry out a change of the store in a place. -/
def changeJar (w : World) (place : Nat) (t : Transition Jar Unit) : Result :=
  ⟨{ w with jars := w.jars.replace place t.state }, t.log, t.result.map fun _ => .nothing⟩

/-- Do something with a cookie store. -/
def onJar (w : World) (name : String) (action : JarAction) : Result :=
  match action with
  | .create => .done { w with jars := w.jars.add name .empty } .nothing
  | action => withObject w (pick w.jars name) fun (place, j) =>
    match action with
    | .insertHeader header url => changeJar w place (j.insertHeader w.now w.clock header url)
    | .insertCookie cookie url => withObject w (pick w.cookies cookie) fun (_, c) =>
      changeJar w place (j.insert w.clock c url)
    | .contains q => replyTo w q.key? fun key => .value (.bool (key.any (j.contains w.clock)))
    | .containsAny q => replyTo w q.key? fun key => .value (.bool (key.any j.containsAny))
    | .get q as => withObject w q.key? fun key => handOut w (key.bind (j.get? w.clock)) as
    | .getAny q as => withObject w q.key? fun key => handOut w (key.bind j.getAny?) as
    | .remove q as => removeCookie w place j q as
    | .cookiesFor url => replyTo w (j.cookiesFor w.clock url) .headers
    | .unexpired => .done w (.headers (j.unexpired w.clock))
    | .all => .done w (.cookies j.all)
    | .header url =>
      replyTo w (j.header? w.clock url) fun text => .value (text.elim .null .str)
    | .setCookies headers url => changeJar w place (j.setCookies w.now w.clock url headers)
    | .clear => changeJar w place (.done .empty ())
    | .size => .done w (.value (.int j.size))
    | .create => .done w .nothing

/-! ## The mock transport -/

/-- Do something with a mock rule. -/
def onRule (w : World) (name : String) (action : RuleAction) : Result :=
  match action with
  | .create method path =>
    .done { w with
      mocker := w.mocker.add (.forRequests (method.map .value) (path.map .value))
      ruleNames := Value.assign name w.rules.length w.ruleNames } .nothing
  | action => withObject w (placeOf w.ruleNames name) fun place =>
    match w.rules[place]? with
    | none => .fail w (.noObject name)
    | some rule =>
      match action with
      | .configure setup =>
        match rule.configure setup with
        | .ok rule => .done (w.replaceRule place rule) (.value (.bool true))
        | .error failure => .fail w failure
      | .check e => replyTo w (rule.check e) fun _ => .nothing
      | .requests => .done w (.requests rule.matched)
      | .count => .done w (.value (.int rule.count))
      | .reset => .done (w.replaceRule place rule.reset) .nothing
      | .create .. => .done w .nothing

/-- Do something with the mock transport. -/
def onMocker (w : World) (action : MockerAction) : Result :=
  match action with
  | .send r =>
    let t := w.mocker.answer r
    ⟨{ w with mocker := t.state }, t.log, t.result.map .response⟩
  | .strict enabled =>
    .done { w with mocker := { w.mocker with strict := enabled } } (.value (.bool true))
  | .requests => .done w (.requests w.mocker.requests)
  | .count => .done w (.value (.int w.mocker.count))
  | .clear =>
    .done { w with retired := w.rules, mocker := w.mocker.clear } .nothing
  | .reset => .done { w with mocker := w.mocker.reset } .nothing

/-! ## Connections -/

/-- A new connection of the given origin. -/
def newLink (w : World) (origin : Origin) (transport : Transport) : Except Failure Link :=
  match origin with
  | .module name => do
    let (_, m) ← match w.moduleNames.lookup name with
      | some place =>
        match w.host.table[place]? with
        | some m => .ok (place, m)
        | none => .error (.noObject name)
      | none => .error (.noObject name)
    return ⟨m.newConnection, some m.jar, transport⟩
  | .own jar settings => do
    let place ← match jar with
      | some name => (pick w.jars name).map fun (place, _) => some place
      | none => .ok none
    let given ← settings.elim (.ok .none) Settings.loadValue
    return ⟨.fresh given.settings, place, transport⟩

/-- Send a request with a transport. -/
def send (transport : Transport) (m : Mock.Mocker) (r : Request) :
    Transition Mock.Mocker Response :=
  match transport with
  | .mock => m.answer r
  | .demo => .done m (Demo.answer r)
  | .refusing text => .fail m (.refused text)

/-- Run the exchange of a connection. -/
def runLink (w : World) (name : String) (link : Link) : Result :=
  let t := Exchange.run ⟨link.connection, w.jarAt? link.jar, w.mocker⟩ w.pairAt w.now w.clock
    (send link.transport)
  let w := { w with mocker := t.state.transport }
  let w := match link.jar, t.state.jar with
    | some place, some jar => { w with jars := w.jars.replace place jar }
    | _, _ => w
  ⟨w.setLink name { link with connection := t.state.connection }, t.log, t.result.map .response⟩

/-- Do something with a connection. -/
def onConnection (w : World) (name : String) (action : ConnectionAction) : Result :=
  match action with
  | .create origin transport =>
    match newLink w origin transport with
    | .ok link => .done (w.setLink name link) (.settings link.connection.settings)
    | .error failure => .fail w failure
  | action =>
    match w.links.lookup name with
    | none => .fail w (.noObject name)
    | some link =>
      let change (c : Connection Nat) : World := w.setLink name { link with connection := c }
      let c := link.connection
      match action with
      | .setUrl url => changeBy w (c.setUrl url) change
      | .setMethod method => changeBy w (c.setMethod method) change
      | .setHeader key v => .done (change (c.setHeader key v)) .nothing
      | .setBody body => .done (change (c.setBody body)) .nothing
      | .addCookie cookie =>
        changeBy w (pick w.cookies cookie) fun (place, _) => change (c.addCookie place)
      | .onJson tag failure =>
        .done (change (c.onJson ⟨tag, failure⟩)) (.value (.bool true))
      | .build =>
        replyTo w ((⟨c, w.jarAt? link.jar, ()⟩ : Exchange Nat Unit).request w.pairAt w.clock)
          .request
      | .run => runLink w name link
      | .create .. => .done w .nothing

/-! ## Modules -/

/-- Put a new module into the table. -/
def addModule (w : World) (name : String) (place : Nat) : World :=
  { w with
    moduleNames := Value.assign name w.host.table.length w.moduleNames
    host := { w.host with table := w.host.table ++ [.fresh place] } }

/-- Make a module with a cookie store, which gets the module's name too. -/
def newModule (w : World) (name : String) (jar : Option String) : Result :=
  match jar with
  | some jarName => withObject w (pick w.jars jarName) fun (place, _) =>
    .done (addModule { w with jars := w.jars.label name place } name place) .nothing
  | none =>
    .done (addModule { w with jars := w.jars.add name .empty } name w.jars.items.length) .nothing

/-- Apply settings to a module. -/
def applySettings (w : World) (name : String) (entries : Value) : Result :=
  withObject w (placeOf w.moduleNames name) fun place =>
    match w.host.table[place]? with
    | none => .fail w (.noObject name)
    | some m =>
      let t := m.applyValue entries
      ⟨{ w with host := { w.host with table := w.host.table.set place t.state } }, t.log,
        t.result.map fun _ => .nothing⟩

/-! ## Steps -/

/-- Do a step while modules are being loaded, or one that does not load
    them. -/
def performPlain (w : World) (step : Step) : Result :=
  match step with
  | .cookie name action => onCookie w name action
  | .setClock time => .done { w with clock := time } .nothing
  | .advanceClock seconds => .done { w with clock := w.clock + seconds } .nothing
  | .jar name action => onJar w name action
  | .rule name action => onRule w name action
  | .mocker action => onMocker w action
  | .connection name action => onConnection w name action
  | .newModule name jar => newModule w name jar
  | .register name moduleName => withObject w (placeOf w.moduleNames moduleName) fun place =>
    changeBy w (w.host.register name place) fun host => { w with host }
  | .getModule name => replyTo w (w.host.get name) fun place => .names (w.namesOf place)
  | .load => .fail w .alreadyLoaded
  | .onLoaded name tag steps =>
    .done { w with host := w.host.addOnLoaded name ⟨tag, steps⟩ } .nothing
  | .onAllLoaded tag steps =>
    .done { w with host := w.host.addOnAllLoaded ⟨tag, steps⟩ } .nothing
  | .deploy document =>
    let t := w.host.deploy document
    ⟨{ w with host := t.state }, t.log, t.result.map fun _ => .nothing⟩
  | .apply moduleName entries => applySettings w moduleName entries

/-- Note an event. -/
def note (w : World) (e : Event) : World := { w with events := w.events ++ [e] }

/-- Do the steps of a callback, and note what each of them comes to. -/
def fireSteps (tag : Value) (w : World) : List Step → Transition World Unit
  | [] => .done w ()
  | step :: rest =>
    let t := performPlain w step
    (fireSteps tag (note t.state (.stepped tag t.result)) rest).after t.log

/-- What a callback notes about the module that it is called for. -/
def firstEvent (w : World) (tag : Value) (place : Option Nat) : Event :=
  match place with
  | none => .allLoaded tag
  | some place =>
    .loaded tag (w.namesOf place) ((w.host.table[place]?).any Module.initialized)

/-- How a load sees the world of a session. -/
def loadingWorld : Loading.World World Nat Callback where
  host := World.host
  setHost w host := { w with host }
  fire w callback place :=
    fireSteps callback.tag (note w (firstEvent w callback.tag place)) callback.steps

/-- How many callbacks can fire when the modules of the world are loaded. -/
def callbackBound (w : World) : Nat :=
  let callbacks := w.host.onLoaded.map (·.2) ++ w.host.onAllLoaded
  callbacks.foldr (fun callback n => callback.weight + n) 0

/-- Do a step. -/
def perform (w : World) (step : Step) : Result :=
  match step with
  | .load =>
    let t := Loading.load loadingWorld (callbackBound w) w
    ⟨t.state, t.log, t.result.map fun _ => .nothing⟩
  | step => performPlain w step

/-- Do steps one after the other; what each of them leaves is returned. -/
def run (w : World) : List Step → List Result
  | [] => []
  | step :: rest =>
    let t := perform w step
    t :: run t.state rest

end HttpExchange.Session
