import HttpExchange.Proofs.Connection.Processing
import HttpExchange.Proofs.Mock.JsonAnswers

/-! # JSON from a mock rule to the callbacks

    A value that a mock rule is given as JSON goes through a writer, the headers
    of the rule, the choice of the rule, the cookie store, the check of the
    status, the media type and a reader until the callbacks have it.

    * `ended_of_json` follows a JSON response through any exchange;
    * `json_of_rule` starts from the calls that configured the rule. -/

namespace HttpExchange.Exchange

open Mock

variable {κ τ : Type} {now : Reading} {clock : Float} {r : Request} {response : Response}
variable {v : Value}

/-- Callbacks that do not fail are all called, each once and in order. -/
theorem Told.eq_of_pass {callbacks : List JsonCallback} {noted : List (Value × Value)}
    {result : Except Failure Unit} (h : Told v callbacks noted result)
    (hpass : ∀ callback ∈ callbacks, callback.failure = none) :
    noted = callbacks.map (note v) ∧ result = .ok () := by
  cases h with
  | all => exact ⟨rfl, rfl⟩
  | interrupted before hsplit hbefore hfail =>
      have hmem : _ ∈ callbacks := hsplit ▸ List.mem_append_right before List.mem_cons_self
      exact nomatch (hpass _ hmem).symm.trans hfail

/-- A JSON response that is not refused is handed to all callbacks. -/
theorem Ending.of_json {c : Connection κ} {result : Except Failure Response}
    {noted : List (Value × Value)} (h : Ending c r response result noted)
    (hpasses : ¬ Refuses c response) (hjson : response.isJson = true)
    (hbody : Json.readBytes .body response.body = some v)
    (hcallbacks : ∀ callback ∈ c.callbacks, callback.failure = none) :
    result = .ok response ∧ noted = c.callbacks.map (note v) := by
  cases h with
  | refused hrefuses => exact absurd hrefuses hpasses
  | quiet _ hquiet =>
      have hnone : c.callbacks = [] := by
        by_contra hsome
        exact hquiet ⟨hsome, hjson⟩
      rw [hnone]
      exact ⟨rfl, rfl⟩
  | unreadable _ _ hnone => exact nomatch hnone.symm.trans hbody
  | told _ _ hread htold =>
      obtain rfl := Option.some.inj (hread.symm.trans hbody)
      obtain ⟨hnoted, hresult⟩ := htold.eq_of_pass hcallbacks
      rw [hresult]
      exact ⟨rfl, hnoted⟩

/-- **A JSON response without cookies** that is not refused ends an exchange
    with itself, and all callbacks have the value of its body. -/
theorem ended_of_json {x : Exchange κ τ} {pair : κ → List Char}
    {send : τ → Request → Transition τ Response} (hrequest : x.request pair clock = .ok r)
    (hresponse : (send x.transport r).result = .ok response)
    (hjson : response.isJson = true) (hbody : Json.readBytes .body response.body = some v)
    (hcookies : response.headerAll "set-cookie" = [])
    (hcallbacks : ∀ callback ∈ x.connection.callbacks, callback.failure = none)
    (hstatus : ∀ failure, (x.run pair now clock send).result = .error failure →
      failure.kind ≠ .status) :
    (x.run pair now clock send).result = .ok response ∧
      (x.run pair now clock send).state.connection.received
        = x.connection.received ++ x.connection.callbacks.map (note v) := by
  have hprocessed := processed_process { x with transport := (send x.transport r).state } now
    clock r response
  have hstorable : Storable { x with transport := (send x.transport r).state } now clock
      r.url response := by
    intro j _ _
    rw [hcookies]
    rfl
  obtain ⟨noted, hending, hconnection⟩ := hprocessed.ended hstorable
  have hrun := run_of_response hrequest hresponse now
  have hpasses : ¬ Refuses x.connection response := by
    intro hrefuses
    obtain ⟨failure, hfailure, hkind⟩ := hending.status_iff.mpr hrefuses
    refine hstatus failure ?_ hkind
    rw [hrun]
    exact hfailure
  obtain ⟨hresult, hnoted⟩ := hending.of_json hpasses hjson hbody hcallbacks
  rw [hrun]
  refine ⟨hresult, ?_⟩
  rw [Transition.after_state, hconnection, hnoted]

/-- **From the rule to the callbacks.**  If the first rule that a request meets
    was last given its body as the JSON text of a value, and the status is no
    error to the connection, then the exchange gives a JSON response that reads
    as the value, and each callback is called with the value once, in the order
    in which they were registered. -/
theorem json_of_rule {x : Exchange κ Mocker} {pair : κ → List Char} {front back : List Rule}
    {rule : Rule} {before after : List Rule.Setup} (hrequest : x.request pair clock = .ok r)
    (hrules : x.transport.rules = front ++ rule :: back) (hfront : ∀ e ∈ front, e.Passes r)
    (hmet : rule.Met r) (hrule : rule.GivesJson v before after) (hv : v.IsPlain)
    (hcallbacks : ∀ callback ∈ x.connection.callbacks, callback.failure = none)
    (hstatus : ∀ failure, (x.run pair now clock Mocker.answer).result = .error failure →
      failure.kind ≠ .status) :
    ∃ response, (x.run pair now clock Mocker.answer).result = .ok response ∧
      response.isJson = true ∧ response.json = .ok v ∧
      (x.run pair now clock Mocker.answer).state.connection.received
        = x.connection.received ++ x.connection.callbacks.map (note v) := by
  obtain ⟨response, hrespond, hjson, hbody, hcookies⟩ := hrule.respond hv r
  have hanswer := Mocker.answer_of_answers hrules hfront ⟨hmet, hrespond⟩
  obtain ⟨hresult, hreceived⟩ :=
    ended_of_json hrequest hanswer hjson hbody hcookies hcallbacks hstatus
  refine ⟨response, hresult, hjson, ?_, hreceived⟩
  rw [Response.json, hbody]

/-- A nested value for two callbacks: the rule is the second one, has a header
    and a status of its own, and was last given a value without JSON text, which
    it refused. -/
theorem json_of_rule_nested :
    let v : Value := .mapping
      [("ids", .list [.int (-9223372036854775808), .int 18446744073709551615]), ("\"\n", .null)]
    let other := Rule.built (some (.value (.str "POST"))) none []
    let rule := Rule.built (some (.value (.str "GET"))) none
      [.withHeader "X-Part" "1", .withBodyJson v, .withStatus 201, .withBodyJson (.duration 1)]
    let c : Connection Unit :=
      { Connection.fresh Settings.default with
        url := some "http://example.com/"
        callbacks := [⟨.str "first", none⟩, ⟨.str "second", none⟩] }
    let t := Exchange.run ⟨c, none, ⟨[other, rule], true⟩⟩ (fun _ => []) (.ofSeconds 0) 0
      Mocker.answer
    ∃ response, t.result = .ok response ∧ response.isJson = true ∧ response.json = .ok v ∧
      t.state.connection.received = [(.str "first", v), (.str "second", v)] := by
  intro v other rule c t
  have hdistinct : ["ids", "\"\n"].Nodup := by decide
  have hplain : v.IsPlain :=
    ⟨hdistinct, ⟨trivial, trivial, trivial⟩, trivial, trivial⟩
  have hgives : rule.GivesJson v [.withHeader "X-Part" "1"]
      [.withStatus 201, .withBodyJson (.duration 1)] := by
    refine ⟨rfl, ⟨_, _, rfl⟩, ⟨_, rfl⟩, ?_, ?_⟩
    · simp [Rule.Setup.body?, Json.writeBytes?, Json.write?, Json.writeValue?]
    · have hname : Headers.sameName "X-Part" "content-type" = false ∧
          Headers.sameName "X-Part" "set-cookie" = false := by decide
      simp [Rule.Setup.Declares, hname]
  have hother (r : Request) (hmethod : r.method = "GET") : other.Passes r := by
    have hrefused : other.matchesMethod r = .ok false := by
      rw [Rule.matchesMethod, hmethod]
      rfl
    exact .inl ⟨[], _, congrArg (· :: _) hrefused, List.forall_mem_nil _⟩
  have hmet (r : Request) (hmethod : r.method = "GET") : rule.Met r := by
    have hmeets : rule.matchesMethod r = .ok true := by
      rw [Rule.matchesMethod, hmethod]
      rfl
    have hconditions : rule.conditions r = [rule.matchesMethod r, .ok true, .ok true, .ok true] :=
      rfl
    rw [Rule.Met, hconditions, hmeets]
    simp
  have hok : t.result.isOk = true := by decide +kernel
  have hrules : [other, rule] = [other] ++ rule :: [] := rfl
  refine json_of_rule (r := ⟨"GET", "http://example.com/", _, none, _⟩) rfl hrules ?_
    (hmet _ rfl) hgives hplain (by simp [c]) ?_
  · exact List.forall_mem_singleton.mpr (hother _ rfl)
  · intro failure hfailure
    rw [hfailure] at hok
    exact absurd hok Bool.false_ne_true

end HttpExchange.Exchange
