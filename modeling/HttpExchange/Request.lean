import HttpExchange.Headers
import HttpExchange.Value.Display

/-! # Requests -/

namespace HttpExchange

open Text

/-- A request, ready to be sent.  The timeout is in microseconds. -/
structure Request where
  method : String
  url : String
  headers : Headers
  body : Option (List UInt8)
  timeout : Option Int
  deriving DecidableEq, Repr

namespace Request

/-- A request with header names and values of any kind, which are shown as
    text. -/
def build (method url : String) (headers : List (Value × Value)) (body : Option (List UInt8)) :
    Request :=
  ⟨method, url, headers.map fun (k, v) => (k.toText, v.toText), body, none⟩

/-- The first value of a header. -/
def header? (r : Request) (name : String) : Option String := r.headers.first? name

/-- How many bytes of a body are shown. -/
def shownBytes : Nat := 100

/-- A body as it is shown: cut, with three points after the cut. -/
def shownBody : Option (List UInt8) → List Char
  | none => Value.literal .null
  | some body =>
    quoteBytes (if body.length ≤ shownBytes then body
      else body.take shownBytes ++ [0x2E, 0x2E, 0x2E])

/-- Headers as they are shown. -/
def shownHeaders (headers : Headers) : List Char :=
  let one (entry : String × String) : List Char :=
    '(' :: quote entry.1.toList ++ ',' :: ' ' :: quote entry.2.toList ++ [')']
  '[' :: [',', ' '].intercalate (headers.map one) ++ [']']

/-- The request with its headers and its body, for messages. -/
def display (r : Request) : String := String.ofList
  ("Request(method=".toList ++ quote r.method.toList ++ ", url=".toList ++ quote r.url.toList
    ++ ", headers=".toList ++ shownHeaders r.headers ++ ", body=".toList ++ shownBody r.body
    ++ [')'])

end Request

end HttpExchange
