import HttpExchange.Failure
import HttpExchange.Headers
import HttpExchange.Json.Reader

/-! # Responses

    A response with its status, headers and body, and the body read as text
    in the character set of its content type or as JSON. -/

namespace HttpExchange

open Text

/-- A response. -/
structure Response where
  status : Int
  headers : Headers
  body : List UInt8
  deriving DecidableEq, Repr

namespace Response

/-- The response for a request that nothing answers. -/
def notFound : Response := ⟨404, [], []⟩

/-- The first value of a header. -/
def header? (r : Response) (name : String) : Option String := r.headers.first? name

/-- All values of a header, in order. -/
def headerAll (r : Response) (name : String) : List String := r.headers.all name

/-- The text of the content type, empty if there is none. -/
def contentText (r : Response) : List Char := ((r.header? "content-type").getD "").toList

/-- The media type: the content type without parameters, in lower case. -/
def contentType? (r : Response) : Option String :=
  let content := r.contentText
  if content.isEmpty then none
  else some (String.ofList (lower (trim (partition ';' content).1)))

/-- Is the body JSON by its media type? -/
def isJson (r : Response) : Bool :=
  match r.contentType? with
  | some mediaType =>
    mediaType == "application/json" || "+json".toList.isSuffixOf mediaType.toList
  | none => false

/-- The label of the character set in a parameter of the content type. -/
def charsetParameter? (parameter : List Char) : Option (List Char) :=
  match partition '=' parameter with
  | (key, some value) =>
    if lower (trim key) = "charset".toList ∧ !(trim value).isEmpty then
      some (trimBy (· == '"') (trim value))
    else none
  | (_, none) => none

/-- The label of the character set: that of the last parameter with one. -/
def charset (r : Response) : String :=
  match ((segments ';' r.contentText).2.filterMap charsetParameter?).getLast? with
  | some label => String.ofList label
  | none => "utf-8"

/-- The body as text. -/
def text (r : Response) : Except Failure String :=
  let label := r.charset
  if '\x00' ∈ label.toList then .error .nullInLabel
  else (Charset.read label r.body).mapError (.ofCharset label)

/-- The body as JSON. -/
def json (r : Response) : Except Failure Value :=
  match Json.readBytes .body r.body with
  | some v => .ok v
  | none => .error (.bodyJson r.status)

end Response

end HttpExchange
