import HttpExchange.Mock.Rule

/-! # The mock transport

    Rules answer requests in the order in which they were added: the first one
    that gives a response wins, and the rules before it record the request as
    passed on. -/

namespace HttpExchange.Mock

/-- The rules of a mock transport.  A strict one fails on a request that no
    rule answers. -/
structure Mocker where
  rules : List Rule
  strict : Bool

namespace Mocker

/-- A mock transport without rules. -/
def empty : Mocker := ⟨[], false⟩

/-- Let rules have a request, up to the first that answers or fails. -/
def offer (r : Request) : List Rule → Transition (List Rule) (Option Response)
  | [] => .done [] none
  | rule :: rest =>
    let t := rule.handle r
    match t.result with
    | .ok none =>
      let u := offer r rest
      ⟨t.state :: u.state, u.log, u.result⟩
    | result => ⟨t.state :: rest, [], result⟩

/-- The answer to a request that no rule answered. -/
def unanswered (strict : Bool) (r : Request) : Except Failure Response :=
  if strict then .error (.unmatched r.method r.url) else .ok .notFound

/-- Answer a request. -/
def answer (m : Mocker) (r : Request) : Transition Mocker Response :=
  let t := offer r m.rules
  match t.result with
  | .ok (some response) => .done { m with rules := t.state } response
  | .ok none => ⟨{ m with rules := t.state }, [], unanswered m.strict r⟩
  | .error failure => .fail { m with rules := t.state } failure

/-- Add a rule. -/
def add (m : Mocker) (rule : Rule) : Mocker := { m with rules := m.rules ++ [rule] }

/-- All recorded requests that were answered, rule by rule. -/
def requests (m : Mocker) : List Request := m.rules.flatMap Rule.matched

/-- How many recorded requests were answered. -/
def count (m : Mocker) : Nat := m.rules.foldr (fun rule n => rule.count + n) 0

/-- Forget the recorded requests of all rules. -/
def reset (m : Mocker) : Mocker := { m with rules := m.rules.map Rule.reset }

/-- Remove all rules. -/
def clear (m : Mocker) : Mocker := { m with rules := [] }

end Mocker

end HttpExchange.Mock
