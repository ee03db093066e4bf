import HttpExchange.Json.Writer
import HttpExchange.Log
import HttpExchange.Request
import HttpExchange.Response
import HttpExchange.Text.Pattern

/-! # Mock rules

    A rule says which requests it answers and how.  All of its conditions have
    to hold: a pattern is searched for in text, any other value has to be
    equal, and a test of one's own decides for itself.  Tests, conditions on
    whole requests and handlers are functions that may fail, and so does the
    search for a pattern that is not read.  A rule records the requests that it
    answered and those that it passed on. -/

namespace HttpExchange.Mock

open Text

/-- Is a pattern found in a text? -/
def search (source text : String) : Except Failure Bool :=
  match isFound? source text with
  | some found => .ok found
  | none => .error (.unreadPattern source)

/-- Does a value meet an expected one?  A pattern is found in nothing but
    text. -/
def meets (expected actual : Value) : Except Failure Bool :=
  match expected with
  | .pattern source =>
    match actual.string? with
    | some text => search source text
    | none => .ok false
  | expected => .ok (expected.equal actual)

/-- What a part of a request is compared with. -/
inductive Matcher where
  /-- A pattern or a plain value. -/
  | value (expected : Value)
  /-- A test, and the text that it is shown as. -/
  | test (shown : String) (holds : Value → Except Failure Bool)

instance : Coe Value Matcher := ⟨.value⟩

/-- Does a part of a request meet the matcher? -/
def Matcher.holds : Matcher → Value → Except Failure Bool
  | .value expected, actual => meets expected actual
  | .test _ holds, actual => holds actual

/-- An expectation on the body of a request: on its content or on the JSON
    value in it. -/
inductive BodyExpectation where
  | content (expected : Matcher)
  | json (expected : Matcher)

/-- A condition on the whole request. -/
structure Condition where
  name : String
  holds : Request → Except Failure Bool

namespace Condition

/-- The URL ends with a text. -/
def urlEndsWith (tail : String) : Condition :=
  ⟨"url_endswith", fun r => .ok (tail.toList.isSuffixOf r.url.toList)⟩

/-- There is a header with the name. -/
def hasHeader (name : String) : Condition :=
  ⟨"has_header", fun r => .ok (r.header? name).isSome⟩

def always : Condition := ⟨"always", fun _ => .ok true⟩

def never : Condition := ⟨"never", fun _ => .ok false⟩

end Condition

/-- How a response is made from a request; the handler may decline. -/
structure Handler where
  name : String
  respond : Request → Except Failure (Option Response)

namespace Handler

/-- Answer with the method of the request. -/
def echoMethod (status : Int) : Handler :=
  ⟨"echo_method", fun r => .ok (some ⟨status, [("X-Method", r.method)], []⟩)⟩

/-- Answer with the body of the request. -/
def echoBody (status : Int) : Handler :=
  ⟨"echo_body", fun r =>
    .ok (some ⟨status, [("Content-Type", "application/json")], r.body.getD []⟩)⟩

/-- Answer nothing. -/
def decline : Handler := ⟨"decline", fun _ => .ok none⟩

end Handler

/-- A rule.  What is not expected is not looked at. -/
structure Rule where
  method : Option Matcher
  path : Option Matcher
  headers : List (String × Matcher)
  body : Option BodyExpectation
  condition : Option Condition
  handler : Option Handler
  /-- The requests that the rule answered. -/
  matched : List Request
  /-- The requests that the rule passed on. -/
  unmatched : List Request
  status : Int
  responseHeaders : Headers
  responseBody : List UInt8

namespace Rule

/-- A rule for a method and a path that answers with an empty body. -/
def forRequests (method path : Option Matcher) : Rule :=
  ⟨method, path, [], none, none, none, [], [], 200, [], []⟩

/-! ## Configuration -/

/-- Expect a header.  A second expectation for the same name replaces the
    first. -/
def expectHeader (rule : Rule) (name : String) (expected : Matcher) : Rule :=
  { rule with headers := Value.assign name expected rule.headers }

/-- Add a header to the response. -/
def addHeader (rule : Rule) (name value : String) : Rule :=
  { rule with responseHeaders := rule.responseHeaders ++ [(name, value)] }

/-- Declare the content type of the response, unless one is declared. -/
def declareType (rule : Rule) (contentType : String) : Rule :=
  if rule.responseHeaders.has "content-type" then rule
  else rule.addHeader "Content-Type" contentType

/-- The integer that a value counts as. -/
def count? : Value → Option Int
  | .int n => some n
  | .bool b => some (Value.ofBool b)
  | _ => none

/-- The length of the longest body of zeros that the memory holds. -/
def maxZeros : Int := 67108864

/-- A body of zeros. -/
def zeros (length : Int) : Except Failure (List UInt8) :=
  if length < -9223372036854775808 ∨ 9223372036854775807 < length then .error .overflow
  else if length < 0 then .error .negativeLength
  else if maxZeros < length then .error .memory
  else .ok (List.replicate length.toNat 0)

/-- A number as a byte. -/
def byteOf (v : Value) : Except Failure UInt8 :=
  match count? v with
  | some n => if 0 ≤ n ∧ n < 256 then .ok (UInt8.ofNat n.toNat) else .error .notByte
  | none => .error .mistyped

/-- The content that a value stands for: bytes as they are, numbers one by
    one, and for a single number that many zeros. -/
def contentOf : Value → Except Failure (List UInt8)
  | .bytes body => .ok body
  | .list items => items.mapM byteOf
  | .mapping [] => .ok []
  | v =>
    match count? v with
    | some length => zeros length
    | none => .error .mistyped

/-- Answer with text. -/
def answerText (rule : Rule) (text : String) : Rule :=
  { rule with responseBody := Utf8.encodeString text }.declareType "text/plain; charset=utf-8"

/-- Answer with the JSON form of a value, if it has one. -/
def answerJson (rule : Rule) (v : Value) : Except Failure Rule :=
  match Json.writeBytes? v with
  | some bytes => .ok ({ rule with responseBody := bytes }.declareType "application/json")
  | none => .error .mistyped

/-- A step in the configuration of a rule. -/
inductive Setup where
  | matchHeader (name : String) (expected : Matcher)
  | matchBody (expected : Matcher)
  | matchBodyJson (expected : Matcher)
  | matchRequest (condition : Condition)
  | respondWith (handler : Handler)
  | withStatus (status : Int)
  | withHeader (name value : String)
  | withBodyBytes (body : Value)
  | withBodyText (body : Value)
  | withBodyJson (body : Value)

/-- Configure a rule. -/
def configure (rule : Rule) : Setup → Except Failure Rule
  | .matchHeader name expected => .ok (rule.expectHeader name expected)
  | .matchBody expected => .ok { rule with body := some (.content expected) }
  | .matchBodyJson expected => .ok { rule with body := some (.json expected) }
  | .matchRequest condition => .ok { rule with condition := some condition }
  | .respondWith handler => .ok { rule with handler := some handler }
  | .withStatus status => .ok { rule with status }
  | .withHeader name value => .ok (rule.addHeader name value)
  | .withBodyBytes body => (contentOf body).map fun bytes => { rule with responseBody := bytes }
  | .withBodyText body =>
    match body.string? with
    | some text => .ok (rule.answerText text)
    | none => .error .unsupported
  | .withBodyJson body => rule.answerJson body

/-! ## Conditions -/

/-- Does the method of a request meet the expectation? -/
def matchesMethod (rule : Rule) (r : Request) : Except Failure Bool :=
  match rule.method with
  | none => .ok true
  | some expected => expected.holds (.str r.method)

/-- Does the path of a request meet the expectation?  Its URL has to be one
    that splits. -/
def matchesPath (rule : Rule) (r : Request) : Except Failure Bool :=
  match rule.path with
  | none => .ok true
  | some expected =>
    match Url.split r.url with
    | .ok u => expected.holds (.str u.path)
    | .error fault => .error (.url fault)

/-- Does a header of a request meet an expectation?  A missing header meets
    none. -/
def headerMeets (r : Request) (name : String) (expected : Matcher) : Except Failure Bool :=
  match r.header? name with
  | none => .ok false
  | some actual => expected.holds (.str actual)

/-- Does a body meet an expectation?  Text is only looked at when the content
    is not compared with bytes, and has to be UTF-8 then. -/
def bodyMeets (body : List UInt8) : BodyExpectation → Except Failure Bool
  | .json expected =>
    match Json.readBytes .body body with
    | some v => expected.holds v
    | none => .ok false
  | .content (.value (.bytes expected)) => .ok (expected == body)
  | .content expected =>
    match Charset.decodeUtf8 body with
    | .ok cs => expected.holds (.str (String.ofList cs))
    | .error misfit => .error (.notUtf8 misfit)

/-- Does the body of a request meet the expectation?  A missing body meets
    none. -/
def matchesBody (rule : Rule) (r : Request) : Except Failure Bool :=
  match rule.body, r.body with
  | none, _ => .ok true
  | some _, none => .ok false
  | some expected, some body => bodyMeets body expected

/-- Does the condition on the whole request hold? -/
def matchesRequest (rule : Rule) (r : Request) : Except Failure Bool :=
  match rule.condition with
  | none => .ok true
  | some k => k.holds r

/-- What the conditions of a rule come to for a request, in the order in which
    they are looked at. -/
def conditions (rule : Rule) (r : Request) : List (Except Failure Bool) :=
  rule.matchesMethod r :: rule.matchesPath r ::
    (rule.headers.map fun (name, expected) => headerMeets r name expected)
      ++ [rule.matchesBody r, rule.matchesRequest r]

/-- Do all conditions hold?  They are looked at up to the first that does not
    hold or fails. -/
def allHold : List (Except Failure Bool) → Except Failure Bool
  | [] => .ok true
  | .ok true :: rest => allHold rest
  | result :: _ => result

/-- Do all conditions hold for a request? -/
def accepts (rule : Rule) (r : Request) : Except Failure Bool := allHold (rule.conditions r)

/-- The response of a rule to a request that it accepts. -/
def respond (rule : Rule) (r : Request) : Except Failure (Option Response) :=
  match rule.handler with
  | some handler => handler.respond r
  | none => .ok (some ⟨rule.status, rule.responseHeaders, rule.responseBody⟩)

/-- The response of a rule to a request, if it answers. -/
def answer? (rule : Rule) (r : Request) : Except Failure (Option Response) :=
  match rule.accepts r with
  | .ok true => rule.respond r
  | .ok false => .ok none
  | .error failure => .error failure

/-- Let a rule have a request: its answer is recorded. -/
def handle (rule : Rule) (r : Request) : Transition Rule (Option Response) :=
  match rule.answer? r with
  | .ok (some response) =>
    .done { rule with matched := rule.matched ++ [r] } (some response)
  | .ok none => .done { rule with unmatched := rule.unmatched ++ [r] } none
  | .error failure => .fail rule failure

/-- Forget the recorded requests. -/
def reset (rule : Rule) : Rule := { rule with matched := [], unmatched := [] }

/-- How many requests the rule answered. -/
def count (rule : Rule) : Nat := rule.matched.length

end Rule

end HttpExchange.Mock
