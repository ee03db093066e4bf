import HttpExchange.Charset
import HttpExchange.Percent
import HttpExchange.Settings.Fault
import HttpExchange.Url
import HttpExchange.Value.Display

/-! # Failures

    Everything that an operation can fail with, by cause.  The kind, the
    message and the details of a failure are read off its cause.

    Failures of types and ranges, and of the system, have short messages of
    their own.  The message about a document or a body that is not JSON stops
    where a reader of JSON would say why, and that about settings counts the
    faults. -/

namespace HttpExchange

open Text

/-- Why an operation fails. -/
inductive Failure where
  /-- A Set-Cookie header has no text. -/
  | emptyHeader
  /-- A Set-Cookie header does not start with a name and an equals sign. -/
  | unnamedHeader (header : String)
  | emptyMapping
  | unnamedMapping (pairs : List (String × Value))
  | cookieVersion (version : Value)
  | sameSite (value : Value)
  | escape (fault : Percent.Fault)
  | url (fault : Url.Fault)
  /-- The URL that a cookie comes from has no host. -/
  | noHost (url : String)
  /-- The URL of a connection is not an absolute one for HTTP. -/
  | unusableUrl (url : String)
  | unknownMethod (method : String)
  | noUrl
  /-- A body is not text in the character set. -/
  | bodyText (charset : String) (fault : Charset.Fault)
  /-- A body is not JSON. -/
  | bodyJson (status : Int)
  /-- The label of a character set contains a null character. -/
  | nullInLabel
  | notUtf8 (misfit : Charset.Misfit)
  | status (status : Int) (method url : String)
  | settings (faults : List Settings.Fault)
  /-- A sequence of pairs has an item of a length other than two. -/
  | notPair (index length : Nat)
  | documentNotJson
  | documentNotMapping
  | sectionNotMapping (name : String)
  | emptyModuleName
  | moduleTaken (name : String)
  | noModule (name : String)
  | alreadyLoaded
  /-- A module was registered while the modules were being loaded. -/
  | registeredWhileLoading
  | unmatched (method url : String)
  /-- A rule did not answer as many requests as expected. -/
  | miscounted (report : String)
  | integer (fault : Integer.Fault) (written : Value)
  /-- An integer has too many digits to be written. -/
  | longInteger
  | notANumber
  /-- A transport refused the connection. -/
  | refused (text : String)
  /-- A callback failed. -/
  | callback (text : String)
  /-- A value has a type that the operation does not take. -/
  | mistyped
  /-- A value lacks the operation. -/
  | unsupported
  /-- A number or date is out of range. -/
  | overflow
  /-- The year that the clock shows does not fit into a date. -/
  | clockYear
  /-- A body of a negative length was asked for. -/
  | negativeLength
  /-- A number in a body is not a byte. -/
  | notByte
  /-- A body is too long for the memory. -/
  | memory
  /-- A search pattern is written in a syntax that is not read here. -/
  | unreadPattern (source : String)
  /-- A body is in a character set that is not read here. -/
  | unreadCharset (label : String)
  /-- No object of the session has the name. -/
  | noObject (name : String)

namespace Failure

/-- The kinds of failures. -/
inductive Kind where
  /-- An argument or an input was rejected. -/
  | argument
  /-- An escape sequence cannot be read. -/
  | escape
  | body
  | status
  | value
  | undecodable
  | assertion
  | refused
  | runtime
  | mistyped
  | unsupported
  | overflow
  | system
  | memory
  | noObject
  deriving DecidableEq, Repr

/-- The kind of a failure. -/
def kind : Failure → Kind
  | .emptyHeader | .unnamedHeader _ | .emptyMapping | .unnamedMapping _ | .cookieVersion _
  | .sameSite _ | .noHost _ | .unusableUrl _ | .unknownMethod _ | .noUrl | .settings _
  | .documentNotJson | .documentNotMapping | .sectionNotMapping _ | .emptyModuleName
  | .moduleTaken _ | .noModule _ | .alreadyLoaded => .argument
  | .escape _ => .escape
  | .bodyText .. | .bodyJson _ => .body
  | .status .. => .status
  | .url _ | .nullInLabel | .notPair .. | .integer .. | .longInteger | .notANumber
  | .negativeLength | .notByte => .value
  | .notUtf8 _ => .undecodable
  | .unmatched .. | .miscounted _ => .assertion
  | .refused _ => .refused
  | .callback _ | .registeredWhileLoading => .runtime
  | .mistyped => .mistyped
  | .unsupported | .unreadPattern _ | .unreadCharset _ => .unsupported
  | .overflow => .overflow
  | .clockYear => .system
  | .memory => .memory
  | .noObject _ => .noObject

/-- Is the failure one of a rejected argument or input?  A rejected escape
    sequence is one as well. -/
def isRejection (f : Failure) : Bool := f.kind == .argument || f.kind == .escape

/-- A text or a value in quotes, cut after two hundred characters. -/
def excerpt (v : Value) : String := String.ofList (v.literal.take 200)

/-- The wording of a failure. -/
def message : Failure → String
  | .emptyHeader => "empty Set-Cookie header"
  | .unnamedHeader header => "invalid Set-Cookie header: " ++ quoteString header
  | .emptyMapping => "cannot create a cookie from an empty mapping"
  | .unnamedMapping _ => "cookie name must not be empty"
  | .cookieVersion v => "cookie version must be 0 or 1, got " ++ v.toLiteral
  | .sameSite v => "invalid SameSite value: " ++ v.toLiteral
  | .escape (.malformed position sequence) =>
    "Invalid escape sequence at position " ++ toString position ++ ": "
      ++ String.ofList (quote sequence)
  | .escape (.notUtf8 fault) => "Escaped value is not valid UTF-8: " ++ fault.reason.text
  | .url fault => fault.message
  | .noHost u => "request URL has no host: " ++ quoteString u
  | .unusableUrl u => "Invalid URL: " ++ quoteString u
  | .unknownMethod method => "Invalid HTTP method: " ++ quoteString method
  | .noUrl => "URL is not set"
  | .bodyText _ fault => "Failed to decode response body: " ++ fault.message
  | .bodyJson _ => "Failed to decode JSON body"
  | .nullInLabel => "embedded null character"
  | .notUtf8 misfit => misfit.message
  | .status code method u =>
    "HTTP status " ++ Integer.toText code ++ " for " ++ method ++ " " ++ u
  | .settings faults =>
    "Invalid connection settings: " ++ toString faults.length ++ " error(s)"
  | .notPair index length =>
    "dictionary update sequence element #" ++ toString index ++ " has length " ++ toString length
      ++ "; 2 is required"
  | .documentNotJson => "Invalid settings document"
  | .documentNotMapping => "settings document must be a JSON object"
  | .sectionNotMapping name =>
    "settings section " ++ quoteString name ++ " must be an object"
  | .emptyModuleName => "module name must not be empty"
  | .moduleTaken name => "module " ++ quoteString name ++ " is already registered"
  | .noModule name => "module " ++ quoteString name ++ " is not registered"
  | .alreadyLoaded => "modules are already loaded"
  | .registeredWhileLoading => "dictionary changed size during iteration"
  | .unmatched method u => "No mock rule matched request: " ++ method ++ " " ++ u
  | .miscounted report => report
  | .integer .malformed written =>
    "invalid literal for int() with base 10: " ++ excerpt written
  | .integer (.tooLong digits) _ =>
    "Exceeds the limit (4300 digits) for integer string conversion: value has "
      ++ toString digits ++ " digits; use sys.set_int_max_str_digits() to increase the limit"
  | .longInteger =>
    "Exceeds the limit (4300 digits) for integer string conversion; "
      ++ "use sys.set_int_max_str_digits() to increase the limit"
  | .notANumber => "cannot convert float NaN to integer"
  | .refused text => text
  | .callback text => text
  | .mistyped => "the value has the wrong type"
  | .unsupported => "the value does not support the operation"
  | .overflow => "out of range"
  | .clockYear => "the year is out of range"
  | .negativeLength => "negative count"
  | .notByte => "bytes must be in range(0, 256)"
  | .memory => "out of memory"
  | .unreadPattern source => "the search pattern is not read: " ++ quoteString source
  | .unreadCharset label => (Charset.Fault.unread label).message
  | .noObject name => quoteString name

/-- Why a body in the character set with the label is not read as text. -/
def ofCharset (label : String) : Charset.Fault → Failure
  | .unread label => .unreadCharset label
  | fault => .bodyText label fault

/-- The details of a failure. -/
def details : Failure → List (String × Value)
  | .unnamedHeader header => [("header", .str header)]
  | .unnamedMapping pairs => [("mapping", .mapping pairs)]
  | .cookieVersion v => [("version", v)]
  | .sameSite v => [("same_site", v)]
  | .escape (.malformed position sequence) =>
    [("position", .int position), ("sequence", .str (String.ofList sequence))]
  | .escape (.notUtf8 fault) => [("byte_offset", .int fault.start)]
  | .noHost u => [("url", .str u)]
  | .unusableUrl u => [("url", .str u)]
  | .unknownMethod method => [("method", .str method)]
  | .bodyText charset _ => [("charset", .str charset)]
  | .bodyJson code => [("status", .int code)]
  | .status _ method u => [("url", .str u), ("method", .str method)]
  | .settings faults => [("errors", .list (faults.map Settings.Fault.toValue))]
  | .sectionNotMapping name => [("section", .str name)]
  | .moduleTaken name => [("name", .str name)]
  | .noModule name => [("name", .str name)]
  | _ => []

end Failure

end HttpExchange
