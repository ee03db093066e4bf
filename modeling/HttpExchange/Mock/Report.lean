import HttpExchange.Mock.Rule

/-! # Expected calls

    How many requests a rule is expected to have answered, and the report
    about one that answered fewer or more. -/

namespace HttpExchange.Mock

/-- The expected number of calls: an exact one, or bounds. -/
structure Expectation where
  exact : Option Int
  least : Option Int
  most : Option Int
  deriving DecidableEq, Repr

namespace Expectation

/-- Without any number one call is expected. -/
def orOnce (e : Expectation) : Expectation :=
  if e.exact.isNone ∧ e.least.isNone ∧ e.most.isNone then { e with exact := some 1 } else e

/-- Does a number of calls meet the expectation?  An exact number makes the
    bounds idle. -/
def isMet (e : Expectation) (count : Int) : Bool :=
  match e.exact with
  | some n => count == n
  | none => e.least.all (· ≤ count) && e.most.all (count ≤ ·)

/-- The expectation in words. -/
def text (e : Expectation) : String :=
  match e.exact with
  | some n => "exactly " ++ Integer.toText n
  | none =>
    " and ".intercalate ((e.least.map fun n => "at least " ++ Integer.toText n).toList
      ++ (e.most.map fun n => "at most " ++ Integer.toText n).toList)

end Expectation

/-- A matcher as it is shown. -/
def Matcher.shown : Matcher → String
  | .value (.pattern source) => source ++ " (regex)"
  | .value v => v.toText
  | .test shown _ => shown

/-- A matcher that may be missing, as it is shown. -/
def shownOption (expected : Option Matcher) : String := expected.elim "Any" Matcher.shown

/-- The body expectation as it is shown. -/
def BodyExpectation.shown : BodyExpectation → String
  | .json expected => "  Body (JSON): " ++ expected.shown
  | .content (.value (.bytes bs)) => "  Body (bytes): " ++ (Value.bytes bs).toLiteral
  | .content expected => "  Body (text): " ++ expected.shown

/-- The lines that show the conditions of a rule. -/
def Rule.shown (rule : Rule) : List String :=
  ["  Method: " ++ shownOption rule.method, "  Path: " ++ shownOption rule.path]
    ++ (if rule.headers.isEmpty then []
      else ["  Headers: " ++ ", ".intercalate (rule.headers.map fun (name, expected) =>
        name ++ ": " ++ expected.shown)])
    ++ (rule.body.map BodyExpectation.shown).toList
    ++ (rule.condition.map fun k => "  Custom matcher: " ++ k.name).toList
    ++ (rule.handler.map fun h => "  Custom handler: " ++ h.name).toList

/-- Requests as they are numbered from the given number on. -/
def numbered (n : Nat) : List Request → List String
  | [] => []
  | r :: rest => ("  " ++ toString n ++ ". " ++ r.display) :: numbered (n + 1) rest

/-- The lines about recorded requests under a title: the last ones up to a
    limit, and how many more there are. -/
def recorded (title : String) (limit : Nat) (requests : List Request) : List String :=
  if requests.isEmpty then []
  else
    let hidden := requests.length - limit
    ("\n" ++ title ++ " (" ++ toString requests.length ++ "):")
      :: numbered 1 (requests.drop hidden)
      ++ (if hidden = 0 then [] else ["  ... and " ++ toString hidden ++ " more"])

/-- The report about a rule that was not called as expected. -/
def Rule.report (rule : Rule) (e : Expectation) : String :=
  "\n".intercalate (["Mock was not called as expected.",
      "Expected " ++ e.text ++ " call(s), but got " ++ toString rule.count ++ ".",
      "\nMock configuration:"]
    ++ rule.shown
    ++ recorded "Unmatched requests" 5 rule.unmatched
    ++ recorded "Matched requests" 3 rule.matched)

/-- Check that a rule was called as expected, by default once. -/
def Rule.check (rule : Rule) (e : Expectation) : Except Failure Unit :=
  let e := e.orOnce
  if e.isMet rule.count then .ok () else .error (.miscounted (rule.report e))

end HttpExchange.Mock
