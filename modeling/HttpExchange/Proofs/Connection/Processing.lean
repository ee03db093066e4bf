import HttpExchange.Proofs.Connection.Preparation
import Mathlib

/-! # How an exchange ends

    After the transport has answered, four things can still go wrong, in this
    order: the cookie store, the status, the body and a callback.

    * `Told` is what callbacks note, up to the first one that fails;
    * `Ending` is how the processing ends once the cookies are kept: each way
      to end has its own conditions, and no two of them go together;
    * `Processed` adds the cookie store, which is the same for all endings;
    * `run_of_prepared` says that every exchange of a prepared connection goes
      this way. -/

namespace HttpExchange.Exchange

variable {κ τ : Type} {x : Exchange κ τ} {c : Connection κ} {r : Request} {response : Response}
variable {clock : Float}

/-! ## Callbacks -/

/-- What a callback notes. -/
def note (v : Value) (callback : JsonCallback) : Value × Value := (callback.tag, v)

/-- What callbacks note and how it ends: they are called in order, all of them
    or up to the first one that fails. -/
inductive Told (v : Value) (callbacks : List JsonCallback) :
    List (Value × Value) → Except Failure Unit → Prop where
  | all (hpass : ∀ callback ∈ callbacks, callback.failure = none) :
      Told v callbacks (callbacks.map (note v)) (.ok ())
  | interrupted (before : List JsonCallback) {after : List JsonCallback}
      {callback : JsonCallback} {text : String} (hsplit : callbacks = before ++ callback :: after)
      (hpass : ∀ earlier ∈ before, earlier.failure = none)
      (hfail : callback.failure = some text) :
      Told v callbacks ((before ++ [callback]).map (note v)) (.error (.callback text))

/-- One more callback in front that does not fail. -/
theorem Told.cons {callbacks : List JsonCallback} {noted : List (Value × Value)}
    {result : Except Failure Unit} (h : Told v callbacks noted result) {callback : JsonCallback}
    (hpass : callback.failure = none) :
    Told v (callback :: callbacks) (note v callback :: noted) result := by
  cases h with
  | all hall => exact .all (List.forall_mem_cons.mpr ⟨hpass, hall⟩)
  | interrupted before hsplit hall hfail =>
      have hbefore : ∀ earlier ∈ callback :: before, earlier.failure = none :=
        List.forall_mem_cons.mpr ⟨hpass, hall⟩
      exact .interrupted (callback :: before) (congrArg _ hsplit) hbefore hfail

theorem told_notify (v : Value) (callbacks : List JsonCallback) :
    Told v callbacks (notify v callbacks).1 (notify v callbacks).2 := by
  induction callbacks with
  | nil => exact .all (fun _ h => nomatch h)
  | cons callback rest ih =>
      cases hfailure : callback.failure with
      | none =>
          simp only [notify, hfailure]
          exact ih.cons hfailure
      | some text =>
          simp only [notify, hfailure]
          exact .interrupted [] rfl (fun _ h => nomatch h) hfailure

/-! ## Endings -/

/-- Does the connection fail on the status of the response? -/
def Refuses (c : Connection κ) (response : Response) : Prop :=
  c.settings.errorForStatus = true ∧ 400 ≤ response.status

/-- Does the connection hand the response to callbacks? -/
def Hands (c : Connection κ) (response : Response) : Prop :=
  c.callbacks ≠ [] ∧ response.isJson = true

/-- How the processing of a response ends after its cookies have been kept, and
    what the callbacks note. -/
inductive Ending (c : Connection κ) (r : Request) (response : Response) :
    Except Failure Response → List (Value × Value) → Prop where
  /-- The status is an error. -/
  | refused (hrefuses : Refuses c response) :
      Ending c r response (.error (.status response.status r.method r.url)) []
  /-- Nothing is handed to callbacks. -/
  | quiet (hpasses : ¬ Refuses c response) (hquiet : ¬ Hands c response) :
      Ending c r response (.ok response) []
  /-- The body cannot be read. -/
  | unreadable (hpasses : ¬ Refuses c response) (hhands : Hands c response)
      (hbody : Json.readBytes .body response.body = none) :
      Ending c r response (.error (.bodyJson response.status)) []
  /-- The callbacks are called with the value of the body. -/
  | told {v : Value} {noted : List (Value × Value)} {result : Except Failure Unit}
      (hpasses : ¬ Refuses c response) (hhands : Hands c response)
      (hbody : Json.readBytes .body response.body = some v)
      (htold : Told v c.callbacks noted result) :
      Ending c r response (result.map fun _ => response) noted

/-- An exchange fails with the status exactly if the settings say so. -/
theorem Ending.status_iff {result : Except Failure Response} {noted : List (Value × Value)}
    (h : Ending c r response result noted) :
    (∃ failure, result = .error failure ∧ failure.kind = .status) ↔ Refuses c response := by
  cases h with
  | refused hrefuses => exact iff_of_true ⟨_, rfl, rfl⟩ hrefuses
  | quiet hpasses hquiet => exact iff_of_false (fun ⟨_, h, _⟩ => nomatch h) hpasses
  | unreadable hpasses hhands hbody =>
      refine iff_of_false ?_ hpasses
      rintro ⟨failure, hfailure, hkind⟩
      rw [← Except.error.inj hfailure] at hkind
      exact nomatch hkind
  | told hpasses hhands hbody htold =>
      refine iff_of_false ?_ hpasses
      rintro ⟨failure, hfailure, hkind⟩
      cases htold with
      | all hpass => exact nomatch hfailure
      | interrupted before hsplit hpass hfail =>
          rw [← Except.error.inj hfailure] at hkind
          exact nomatch hkind

/-- No callback is called if the status is refused. -/
theorem Ending.noted_eq_nil {result : Except Failure Response} {noted : List (Value × Value)}
    (h : Ending c r response result noted) (hrefuses : Refuses c response) : noted = [] := by
  cases h with
  | refused => rfl
  | quiet => rfl
  | unreadable => rfl
  | told hpasses => exact absurd hrefuses hpasses

theorem ending_deliver (hpasses : ¬ Refuses c response) :
    ∃ noted, Ending c r response ((deliver c response).2.map fun _ => response) noted ∧
      (deliver c response).1 = { c with received := c.received ++ noted } := by
  have hnothing : c = { c with received := c.received ++ [] } := by
    rw [List.append_nil]
  rw [deliver]
  split
  · next hempty =>
    have hquiet : ¬ Hands c response := by
      rintro ⟨hcallbacks, hjson⟩
      simp [hcallbacks, hjson] at hempty
    exact ⟨[], .quiet hpasses hquiet, hnothing⟩
  · next hsome =>
    have hhands : Hands c response := by
      simpa [Hands] using hsome
    rw [Response.json]
    cases hbody : Json.readBytes .body response.body with
    | none => exact ⟨[], .unreadable hpasses hhands hbody, hnothing⟩
    | some v => exact ⟨_, .told hpasses hhands hbody (told_notify v c.callbacks), rfl⟩

/-! ## Exchanges -/

/-- The cookies of the response can be kept, if they are to be kept. -/
def Storable (x : Exchange κ τ) (now : Reading) (clock : Float) (url : String)
    (response : Response) : Prop :=
  ∀ j, x.jar = some j → x.connection.settings.storeCookies = true →
    (j.setCookies now clock url (response.headerAll "set-cookie")).result = .ok ()

theorem keepCookies_of_on {j : Jar} (hjar : x.jar = some j)
    (hon : x.connection.settings.storeCookies = true) (now : Reading) (clock : Float)
    (url : String) (response : Response) :
    x.keepCookies now clock url response
      = let t := j.setCookies now clock url (response.headerAll "set-cookie")
        ⟨{ x with jar := some t.state }, t.log, t.result⟩ := by
  rw [keepCookies, hjar]
  exact if_pos hon

theorem keepCookies_of_off (hoff : x.jar = none ∨ x.connection.settings.storeCookies = false)
    (now : Reading) (clock : Float) (url : String) (response : Response) :
    x.keepCookies now clock url response = .done x () := by
  rw [keepCookies]
  split
  · rfl
  · next hjar =>
    rcases hoff with hnone | hoff
    · cases hjar.symm.trans hnone
    · exact if_neg (by simp [hoff])

@[simp] theorem keepCookies_transport (x : Exchange κ τ) (now : Reading) (clock : Float)
    (url : String) (response : Response) :
    (x.keepCookies now clock url response).state.transport = x.transport := by
  rw [keepCookies]
  split
  · rfl
  · split
    · rfl
    · rfl

theorem keepCookies_result_of_storable {url : String} (h : Storable x now clock url response) :
    (x.keepCookies now clock url response).result = .ok () := by
  cases hjar : x.jar with
  | none => rw [keepCookies_of_off (.inl hjar)]; rfl
  | some j =>
      cases hon : x.connection.settings.storeCookies with
      | false => rw [keepCookies_of_off (.inr hon)]; rfl
      | true =>
          rw [keepCookies_of_on hjar hon]
          exact h j hjar hon

/-- If the cookies cannot be kept, the exchange ends. -/
theorem process_of_error {failure : Failure}
    (hkeep : (x.keepCookies now clock r.url response).result = .error failure) :
    x.process now clock r response = ⟨(x.keepCookies now clock r.url response).state,
      (x.keepCookies now clock r.url response).log, .error failure⟩ := by
  rw [process, Transition.andThen, hkeep]

/-- If they can, it goes on with the status and the callbacks. -/
theorem process_of_ok (hkeep : (x.keepCookies now clock r.url response).result = .ok ()) :
    ∃ noted, Ending x.connection r response (x.process now clock r response).result noted ∧
      (x.process now clock r response).state
        = { (x.keepCookies now clock r.url response).state with
            connection := { x.connection with received := x.connection.received ++ noted } } := by
  have hconnection := keepCookies_connection x now clock r.url response
  rw [process, Transition.andThen, hkeep]
  simp only [Transition.after_result, Transition.after_state, hconnection]
  by_cases hrefuses : Refuses x.connection response
  · have hstatus : checkStatus x.connection r response
        = .error (.status response.status r.method r.url) := if_pos hrefuses
    rw [hstatus]
    refine ⟨[], .refused hrefuses, ?_⟩
    rw [List.append_nil, ← hconnection]
    rfl
  · have hstatus : checkStatus x.connection r response = .ok () := if_neg hrefuses
    obtain ⟨noted, hending, hnoted⟩ := ending_deliver (r := r) hrefuses
    rw [hstatus]
    refine ⟨noted, hending, ?_⟩
    rw [← hnoted]

/-- What an exchange comes to when the transport has answered a request with a
    response. -/
structure Processed (x : Exchange κ τ) (now : Reading) (clock : Float) (r : Request)
    (response : Response) (transport : τ) (t : Transition (Exchange κ τ) Response) : Prop where
  transport : t.state.transport = transport
  /-- The store is handed the cookies of the response, however the exchange
      ends. -/
  kept : ∀ j, x.jar = some j → x.connection.settings.storeCookies = true →
    response.headerAll "set-cookie" ≠ [] →
      t.state.jar = some (j.setCookies now clock r.url (response.headerAll "set-cookie")).state
  untouched : x.jar = none ∨ x.connection.settings.storeCookies = false ∨
    response.headerAll "set-cookie" = [] → t.state.jar = x.jar
  /-- A failure of the store is the failure of the exchange. -/
  unstorable : ∀ j failure, x.jar = some j → x.connection.settings.storeCookies = true →
    (j.setCookies now clock r.url (response.headerAll "set-cookie")).result = .error failure →
      t.result = .error failure ∧ t.state.connection = x.connection
  ended : Storable x now clock r.url response →
    ∃ noted, Ending x.connection r response t.result noted ∧
      t.state.connection = { x.connection with received := x.connection.received ++ noted }

theorem processed_process (x : Exchange κ τ) (now : Reading) (clock : Float) (r : Request)
    (response : Response) :
    Processed x now clock r response x.transport (x.process now clock r response) := by
  -- what happens after the cookies leaves the transport and the store alone
  have hrest : (x.process now clock r response).state.transport = x.transport ∧
      (x.process now clock r response).state.jar
        = (x.keepCookies now clock r.url response).state.jar := by
    cases hkeep : (x.keepCookies now clock r.url response).result with
    | error failure =>
        rw [process_of_error hkeep]
        exact ⟨keepCookies_transport x now clock r.url response, rfl⟩
    | ok =>
        obtain ⟨noted, -, hstate⟩ := process_of_ok hkeep
        rw [hstate]
        exact ⟨keepCookies_transport x now clock r.url response, rfl⟩
  obtain ⟨htransport, hjar⟩ := hrest
  refine ⟨htransport, ?_, ?_, ?_, ?_⟩
  · intro j hj hon _
    rw [hjar, keepCookies_of_on hj hon]
  · intro h
    rw [hjar]
    by_cases hoff : x.jar = none ∨ x.connection.settings.storeCookies = false
    · rw [keepCookies_of_off hoff]
      rfl
    · obtain ⟨hsome, hon⟩ := not_or.mp hoff
      obtain ⟨j, hj⟩ := Option.ne_none_iff_exists'.mp hsome
      have hempty : response.headerAll "set-cookie" = [] :=
        (h.resolve_left hsome).resolve_left hon
      rw [keepCookies_of_on hj (eq_true_of_ne_false hon), hempty, hj]
      rfl
  · intro j failure hj hon hfailure
    have hkeep : (x.keepCookies now clock r.url response).result = .error failure := by
      rw [keepCookies_of_on hj hon]
      exact hfailure
    rw [process_of_error hkeep]
    exact ⟨rfl, keepCookies_connection x now clock r.url response⟩
  · intro hstorable
    obtain ⟨noted, hending, hstate⟩ := process_of_ok (keepCookies_result_of_storable hstorable)
    refine ⟨noted, hending, ?_⟩
    rw [hstate]

/-- If the transport answers, the response is processed. -/
theorem run_of_response {pair : κ → List Char} {send : τ → Request → Transition τ Response}
    (hrequest : x.request pair clock = .ok r)
    (hresponse : (send x.transport r).result = .ok response) (now : Reading) :
    x.run pair now clock send
      = (process { x with transport := (send x.transport r).state } now clock r response).after
          (sending r :: (send x.transport r).log ++ [receivedRecord r response]) := by
  simp only [run, hrequest, hresponse]

/-- **An exchange of a prepared connection**, whatever its settings, its cookie
    store and its transport: without a URL it fails and asks nobody; if the
    transport fails, it fails in the same way and nothing else has changed;
    and otherwise it processes the response. -/
theorem run_of_prepared (hprepared : x.connection.Prepared) (pair : κ → List Char)
    (now : Reading) (clock : Float) (send : τ → Request → Transition τ Response) :
    (x.connection.url = none →
      x.run pair now clock send = .fail x .noUrl ∧ Failure.kind .noUrl = .argument) ∧
    ∀ url, x.connection.url = some url →
      ∃ r, x.request pair clock = .ok r ∧ r.url = url ∧ r.method = x.connection.method ∧
        (∀ failure, (send x.transport r).result = .error failure →
          (x.run pair now clock send).result = .error failure ∧
          (x.run pair now clock send).state
            = { x with transport := (send x.transport r).state }) ∧
        ∀ response, (send x.transport r).result = .ok response →
          Processed x now clock r response (send x.transport r).state (x.run pair now clock send) ∧
          (Storable x now clock r.url response →
            ((∃ failure, (x.run pair now clock send).result = .error failure ∧
              failure.kind = .status) ↔ Refuses x.connection response)) := by
  refine ⟨?_, ?_⟩
  · intro hurl
    have hrequest : x.request pair clock = .error .noUrl := by
      rw [request, Connection.buildRequest, hurl]
    rw [run, hrequest]
    exact ⟨rfl, rfl⟩
  · intro url hurl
    obtain ⟨r, hrequest, hr, hmethod⟩ := request_of_accepts (hprepared.accepts hurl) hurl pair clock
    refine ⟨r, hrequest, hr, hmethod, ?_, ?_⟩
    · intro failure hfailure
      simp only [run, hrequest, hfailure, and_self]
    · intro response hresponse
      have hprocessed := processed_process { x with transport := (send x.transport r).state } now
        clock r response
      rw [run_of_response hrequest hresponse]
      refine ⟨⟨hprocessed.transport, hprocessed.kept, hprocessed.untouched, hprocessed.unstorable,
        hprocessed.ended⟩, ?_⟩
      intro hstorable
      obtain ⟨noted, hending, -⟩ := hprocessed.ended hstorable
      exact hending.status_iff

/-- A JSON response with an error status: its cookie is kept, the exchange fails
    with the status, and the callback is not called. -/
theorem run_of_prepared_error_status :
    let now : Reading := .ok ⟨62135596800000000, none⟩
    let settings : Settings := { Settings.default with errorForStatus := true }
    let url := "http://example.com/a"
    let c : Connection Unit :=
      { (Connection.fresh settings).onJson ⟨.str "tag", some "no"⟩ with url := some url }
    let response : Response :=
      ⟨404, [("Content-Type", "application/json"), ("set-cookie", "a=1")], []⟩
    let t := Exchange.run ⟨c, some Jar.empty, ()⟩ (fun _ => []) now 0 fun _ _ => .done () response
    c.Prepared ∧ t.state.jar = some (Jar.empty.setCookies now 0 url ["a=1"]).state ∧
      t.state.connection.received = [] ∧
      ∃ failure, t.result = .error failure ∧ failure.kind = .status := by
  intro now settings url c response t
  have haccepts : Connection.Accepts url := ⟨⟨"http", "example.com", "/a"⟩, by cbv, by decide⟩
  have hprepared : c.Prepared :=
    .setUrl (.onJson (.fresh settings) ⟨.str "tag", some "no"⟩)
      (Connection.setUrl_eq_ok_iff.mpr ⟨haccepts, rfl⟩)
  have hheaders : response.headerAll "set-cookie" = ["a=1"] := by decide +kernel
  obtain ⟨r, -, hr, -, -, hresponse⟩ :=
    (run_of_prepared (x := ⟨c, some Jar.empty, ()⟩) hprepared (fun _ => []) now 0
      fun _ _ => .done () response).2 url rfl
  obtain ⟨hprocessed, hstatus⟩ := hresponse response rfl
  have hok : (Jar.empty.setCookies now 0 url ["a=1"]).result.isOk = true := by decide +kernel
  have hstorable : Storable ⟨c, some Jar.empty, ()⟩ now 0 r.url response := by
    intro j hj _
    rw [hr, hheaders, ← Option.some.inj hj]
    cases hresult : (Jar.empty.setCookies now 0 url ["a=1"]).result with
    | ok => rfl
    | error failure =>
        rw [hresult] at hok
        exact absurd hok Bool.false_ne_true
  have hrefuses : Refuses c response := ⟨rfl, by decide⟩
  obtain ⟨noted, hending, hreceived⟩ := hprocessed.ended hstorable
  refine ⟨hprepared, ?_, ?_, (hstatus hstorable).mpr hrefuses⟩
  · rw [← hheaders, ← hr]
    exact hprocessed.kept _ rfl rfl (by rw [hheaders]; exact List.cons_ne_nil _ _)
  · rw [hreceived, hending.noted_eq_nil hrefuses]
    rfl

end HttpExchange.Exchange
