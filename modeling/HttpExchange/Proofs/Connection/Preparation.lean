import HttpExchange.Connection.Exchange
import HttpExchange.Proofs.Jar.Scope

/-! # Prepared connections

    A connection takes its URL from one operation only, which refuses every
    text that is no absolute URL for HTTP.  So whatever has been done to a
    connection, exchanges included, its URL is one that splits and has a host:

    * `Prepared` is what can have been done to a connection;
    * `Prepared.accepts` says that its URL is accepted then, and
      `Prepared.method_mem` that its method is known;
    * `request_of_accepts` says that a request is built for such a URL. -/

namespace HttpExchange

variable {κ τ : Type}

namespace Connection

variable {c c' : Connection κ} {url : String}

/-- Is the text a URL that connections take? -/
def Accepts (url : String) : Prop := ∃ u, Url.split url = .ok u ∧ isUsable u = true

theorem accepts_iff_of_split {u : Url} (hsplit : Url.split url = .ok u) :
    Accepts url ↔ isUsable u = true := by
  constructor
  · rintro ⟨v, hv, husable⟩
    exact Except.ok.inj (hsplit.symm.trans hv) ▸ husable
  · intro husable
    exact ⟨u, hsplit, husable⟩

/-- **Setting the URL** succeeds for these texts alone. -/
theorem setUrl_eq_ok_iff :
    c.setUrl url = .ok c' ↔ Accepts url ∧ { c with url := some url } = c' := by
  rw [setUrl]
  cases hsplit : Url.split url with
  | error fault =>
      refine iff_of_false (fun h => nomatch h) ?_
      rintro ⟨⟨u, hu, -⟩, -⟩
      exact nomatch hsplit.symm.trans hu
  | ok u =>
      rw [accepts_iff_of_split hsplit]
      by_cases husable : isUsable u = true
      · simp [husable]
      · simp [husable]

/-- A URL that is accepted has a host. -/
theorem host_ne_empty_of_isUsable {u : Url} (h : isUsable u = true) : u.host ≠ "" := by
  have hhost : u.hasHost = true := (Bool.and_eq_true_iff.mp h).2
  rw [Url.hasHost, Bool.not_eq_true', List.isEmpty_eq_false_iff] at hhost
  intro hempty
  rw [Url.host, ← String.toList_eq_nil_iff, String.toList_ofList, Jar.lower_eq_nil_iff] at hempty
  exact hhost hempty

/-- A URL that is accepted is an absolute one for HTTP. -/
theorem Accepts.split (h : Accepts url) :
    ∃ u, Url.split url = .ok u ∧ (u.scheme = "http" ∨ u.scheme = "https") ∧ u.host ≠ "" := by
  obtain ⟨u, hsplit, husable⟩ := h
  refine ⟨u, hsplit, ?_, host_ne_empty_of_isUsable husable⟩
  rw [isUsable, Bool.and_eq_true, Bool.or_eq_true, beq_iff_eq, beq_iff_eq] at husable
  exact husable.1

/-- **Setting the method** succeeds for the names of methods, in any case. -/
theorem setMethod_eq_ok_iff {method : String} :
    c.setMethod method = .ok c' ↔ String.ofList (Text.upper method.toList) ∈ methods ∧
      { c with method := String.ofList (Text.upper method.toList) } = c' := by
  rw [setMethod]
  by_cases hmem : String.ofList (Text.upper method.toList) ∈ methods
  · simp [hmem]
  · simp [hmem]

end Connection

namespace Exchange

/-- Delivering a response changes nothing but what the callbacks have noted. -/
theorem deliver_connection (c : Connection κ) (response : Response) :
    ∃ received, (deliver c response).1 = { c with received } := by
  rw [deliver]
  split
  · exact ⟨c.received, rfl⟩
  · split
    · exact ⟨c.received, rfl⟩
    · exact ⟨_, rfl⟩

@[simp] theorem keepCookies_connection (x : Exchange κ τ) (now : Reading) (clock : Float)
    (url : String) (response : Response) :
    (x.keepCookies now clock url response).state.connection = x.connection := by
  rw [keepCookies]
  split
  · rfl
  · split
    · rfl
    · rfl

theorem process_connection (x : Exchange κ τ) (now : Reading) (clock : Float) (r : Request)
    (response : Response) :
    ∃ received,
      (x.process now clock r response).state.connection = { x.connection with received } := by
  have hkept := keepCookies_connection x now clock r.url response
  rw [process, Transition.andThen]
  split
  · rw [Transition.after_state]
    split
    · exact ⟨x.connection.received, hkept⟩
    · rw [hkept]
      exact deliver_connection x.connection response
  · exact ⟨x.connection.received, hkept⟩

/-- An exchange changes nothing else in its connection either. -/
theorem run_connection (x : Exchange κ τ) (pair : κ → List Char) (now : Reading) (clock : Float)
    (send : τ → Request → Transition τ Response) :
    ∃ received, (x.run pair now clock send).state.connection = { x.connection with received } := by
  rw [run]
  split
  · exact ⟨x.connection.received, rfl⟩
  · dsimp only
    split
    · exact ⟨x.connection.received, rfl⟩
    · exact process_connection { x with transport := _ } now clock _ _

end Exchange

namespace Connection

/-- What can have been done to a connection: it was made with some settings, it
    was prepared, and exchanges were run. -/
inductive Prepared : Connection κ → Prop where
  | fresh (settings : Settings) : Prepared (Connection.fresh settings)
  | setUrl {c c' : Connection κ} {url : String} (hc : Prepared c) (hset : c.setUrl url = .ok c') :
      Prepared c'
  | setMethod {c c' : Connection κ} {method : String} (hc : Prepared c)
      (hset : c.setMethod method = .ok c') : Prepared c'
  | setHeader {c : Connection κ} (hc : Prepared c) (name value : String) :
      Prepared (c.setHeader name value)
  | setBody {c : Connection κ} (hc : Prepared c) (body : Option (List UInt8)) :
      Prepared (c.setBody body)
  | addCookie {c : Connection κ} (hc : Prepared c) (cookie : κ) : Prepared (c.addCookie cookie)
  | onJson {c : Connection κ} (hc : Prepared c) (callback : JsonCallback) :
      Prepared (c.onJson callback)
  | run {τ : Type} {x : Exchange κ τ} (hx : Prepared x.connection) (pair : κ → List Char)
      (now : Reading) (clock : Float) (send : τ → Request → Transition τ Response) :
      Prepared (x.run pair now clock send).state.connection

/-- **The URL of a prepared connection** is one that connections take. -/
theorem Prepared.accepts {c : Connection κ} (h : Prepared c) {url : String}
    (hurl : c.url = some url) : Accepts url := by
  induction h with
  | fresh settings => exact nomatch hurl
  | setUrl _ hset ih =>
      obtain ⟨haccepts, rfl⟩ := setUrl_eq_ok_iff.mp hset
      exact Option.some.inj hurl ▸ haccepts
  | setMethod _ hset ih =>
      obtain ⟨-, rfl⟩ := setMethod_eq_ok_iff.mp hset
      exact ih hurl
  | setHeader _ name value ih => exact ih hurl
  | setBody _ body ih => exact ih hurl
  | addCookie _ cookie ih => exact ih hurl
  | onJson _ callback ih => exact ih hurl
  | run _ pair now clock send ih =>
      obtain ⟨received, hconnection⟩ := Exchange.run_connection _ pair now clock send
      rw [hconnection] at hurl
      exact ih hurl

/-- **The method of a prepared connection** is one of the methods. -/
theorem Prepared.method_mem {c : Connection κ} (h : Prepared c) : c.method ∈ methods := by
  induction h with
  | fresh settings => exact List.mem_cons_self
  | setUrl _ hset ih =>
      obtain ⟨-, rfl⟩ := setUrl_eq_ok_iff.mp hset
      exact ih
  | setMethod _ hset ih =>
      obtain ⟨hmem, rfl⟩ := setMethod_eq_ok_iff.mp hset
      exact hmem
  | setHeader _ name value ih => exact ih
  | setBody _ body ih => exact ih
  | addCookie _ cookie ih => exact ih
  | onJson _ callback ih => exact ih
  | run _ pair now clock send ih =>
      obtain ⟨received, hconnection⟩ := Exchange.run_connection _ pair now clock send
      rw [hconnection]
      exact ih

end Connection

namespace Exchange

/-- A store has an answer for every URL that splits. -/
theorem header?_of_split {url : String} {u : Url} (hsplit : Url.split url = .ok u) (j : Jar)
    (clock : Float) : ∃ text, j.header? clock url = .ok text := by
  rw [Jar.header?, Jar.cookiesFor, hsplit]
  dsimp only
  split
  · exact ⟨none, rfl⟩
  · exact ⟨_, rfl⟩
  · next h => exact nomatch h

/-- **A request is built** for every URL that connections take. -/
theorem request_of_accepts {x : Exchange κ τ} {url : String} (haccepts : Connection.Accepts url)
    (hurl : x.connection.url = some url) (pair : κ → List Char) (clock : Float) :
    ∃ r, x.request pair clock = .ok r ∧ r.url = url ∧ r.method = x.connection.method := by
  obtain ⟨u, hsplit, -⟩ := haccepts
  rw [request, Connection.buildRequest, hurl]
  cases hjar : x.jar with
  | none => exact ⟨_, rfl, rfl, rfl⟩
  | some j =>
      obtain ⟨text, htext⟩ := header?_of_split hsplit j clock
      simp only [Option.map_some, htext]
      split
      · exact ⟨_, rfl, rfl, rfl⟩
      · exact ⟨_, rfl, rfl, rfl⟩

end Exchange

end HttpExchange
