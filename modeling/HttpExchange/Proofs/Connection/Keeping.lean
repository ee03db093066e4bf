import HttpExchange.Connection.Exchange

/-! # What an exchange does to a cookie store

    An exchange touches its cookie store at most once: it hands the cookies of
    the response to it. -/

namespace HttpExchange.Exchange

variable {κ τ : Type} {x : Exchange κ τ} {now : Reading} {clock : Float}

/-- A store is kept as it was, or it was handed the headers of a response. -/
def Keeps (now : Reading) (clock : Float) (before after : Option Jar) : Prop :=
  after = before ∨
    ∃ j url headers, before = some j ∧ after = some (j.setCookies now clock url headers).state

/-- Keeping the cookies of a response hands them to the store. -/
theorem keeps_keepCookies (x : Exchange κ τ) (now : Reading) (clock : Float) (url : String)
    (response : Response) :
    Keeps now clock x.jar (x.keepCookies now clock url response).state.jar := by
  rw [keepCookies]
  cases hjar : x.jar with
  | none => exact Or.inl hjar
  | some j =>
      dsimp only
      split
      · exact Or.inr ⟨j, url, _, rfl, rfl⟩
      · exact Or.inl hjar

/-- Nothing else in the processing of a response touches the store. -/
theorem keeps_process (x : Exchange κ τ) (now : Reading) (clock : Float) (r : Request)
    (response : Response) :
    Keeps now clock x.jar (x.process now clock r response).state.jar := by
  have hkeeps := keeps_keepCookies x now clock r.url response
  rw [process, Transition.andThen]
  split
  · rw [Transition.after]
    dsimp only
    split
    · exact hkeeps
    · exact hkeeps
  · exact hkeeps

/-- **An exchange keeps its cookie store**, but for the headers of the one
    response. -/
theorem keeps_run (x : Exchange κ τ) (pair : κ → List Char) (now : Reading) (clock : Float)
    (send : τ → Request → Transition τ Response) :
    Keeps now clock x.jar (x.run pair now clock send).state.jar := by
  rw [run]
  split
  · exact Or.inl rfl
  · dsimp only
    split
    · exact Or.inl rfl
    · exact keeps_process { x with transport := _ } now clock _ _

end HttpExchange.Exchange
