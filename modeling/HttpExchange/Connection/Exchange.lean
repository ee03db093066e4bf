import HttpExchange.Connection.Basic
import HttpExchange.Jar.Insert
import HttpExchange.Jar.Match
import HttpExchange.Log
import HttpExchange.Response

/-! # Exchanges

    An exchange sends the request of a connection through a transport, keeps
    the cookies of the response, fails on error statuses if the settings say
    so, and hands JSON to the callbacks, in this order. -/

namespace HttpExchange

/-- A connection with the cookie store it uses, if any, and the state of its
    transport. -/
structure Exchange (κ τ : Type) where
  connection : Connection κ
  jar : Option Jar
  transport : τ

namespace Exchange

variable {κ τ : Type}

/-- The request that would be sent at a reading of the clock. -/
def request (x : Exchange κ τ) (pair : κ → List Char) (clock : Float) : Except Failure Request :=
  x.connection.buildRequest pair (x.jar.map fun j url => j.header? clock url)

/-- The record of a request that is sent. -/
def sending (r : Request) : Log.Record :=
  ⟨.debug, .connection, "Sending " ++ r.method ++ " " ++ r.url⟩

/-- The record of a response. -/
def receivedRecord (r : Request) (response : Response) : Log.Record :=
  ⟨.debug, .connection,
    "Received " ++ Integer.toText response.status ++ " for " ++ r.method ++ " " ++ r.url⟩

/-- Keep the cookies of a response, if there is a store and the settings say
    so. -/
def keepCookies (x : Exchange κ τ) (now : Reading) (clock : Float) (url : String)
    (response : Response) : Transition (Exchange κ τ) Unit :=
  match x.jar with
  | none => .done x ()
  | some jar =>
    if x.connection.settings.storeCookies then
      let t := jar.setCookies now clock url (response.headerAll "set-cookie")
      ⟨{ x with jar := some t.state }, t.log, t.result⟩
    else .done x ()

/-- Check the status of a response, if the settings say so. -/
def checkStatus (c : Connection κ) (r : Request) (response : Response) : Except Failure Unit :=
  if c.settings.errorForStatus ∧ 400 ≤ response.status then
    .error (.status response.status r.method r.url)
  else .ok ()

/-- Call callbacks with a value, in order, until one fails.  What they have
    noted is returned with the result. -/
def notify (v : Value) : List JsonCallback → List (Value × Value) × Except Failure Unit
  | [] => ([], .ok ())
  | callback :: rest =>
    match callback.failure with
    | some text => ([(callback.tag, v)], .error (.callback text))
    | none =>
      let (noted, result) := notify v rest
      ((callback.tag, v) :: noted, result)

/-- Hand a JSON response to the callbacks of a connection. -/
def deliver (c : Connection κ) (response : Response) : Connection κ × Except Failure Unit :=
  if c.callbacks.isEmpty ∨ !response.isJson then (c, .ok ())
  else match response.json with
    | .error failure => (c, .error failure)
    | .ok v =>
      let (noted, result) := notify v c.callbacks
      ({ c with received := c.received ++ noted }, result)

/-- Process a response: cookies, status, callbacks. -/
def process (x : Exchange κ τ) (now : Reading) (clock : Float) (r : Request)
    (response : Response) : Transition (Exchange κ τ) Response :=
  (x.keepCookies now clock r.url response).andThen fun x _ =>
    match checkStatus x.connection r response with
    | .error failure => .fail x failure
    | .ok () =>
      let (connection, result) := deliver x.connection response
      ⟨{ x with connection }, [], result.map fun _ => response⟩

/-- Send the request of the connection and process the response. -/
def run (x : Exchange κ τ) (pair : κ → List Char) (now : Reading) (clock : Float)
    (send : τ → Request → Transition τ Response) : Transition (Exchange κ τ) Response :=
  match x.request pair clock with
  | .error failure => .fail x failure
  | .ok r =>
    let t := send x.transport r
    let x := { x with transport := t.state }
    let log := sending r :: t.log
    match t.result with
    | .error failure => ⟨x, log, .error failure⟩
    | .ok response =>
      (x.process now clock r response).after (log ++ [receivedRecord r response])

end Exchange

end HttpExchange
