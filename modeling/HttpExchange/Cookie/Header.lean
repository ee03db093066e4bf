import HttpExchange.Cookie.Basic
import HttpExchange.Time.HttpDate

/-! # Writing cookies

    The Set-Cookie header of a cookie: its pair and its attributes, always in
    the same order, and the expiry date for readers that do not know the age
    when the time is given.

    A cookie has a header only if the integers in it can be written.  This is
    always so for a cookie that was read; an age that was set may be too
    large. -/

namespace HttpExchange.Cookie

/-- An attribute with a value. -/
def valued (key : String) (value : List Char) : List Char := key.toList ++ '=' :: value

/-- A text attribute, if it is set. -/
def textPart (key : String) (value : Value) : List (List Char) :=
  if value.truthy then [valued key value.text] else []

/-- A flag, if it is set. -/
def flagPart (key : String) (flag : Bool) : List (List Char) := if flag then [key.toList] else []

/-- Is the cookie of version 1? -/
def isVersionOne (c : Cookie) : Bool := c.version.equal (.int 1)

/-- The age and the expiry date.  A cookie of the session has neither. -/
def ageParts (c : Cookie) (now : Option Moment) : List (List Char) :=
  if c.maxAge < 0 then []
  else valued "Max-Age" (Integer.write c.maxAge) ::
    match now with
    | some now => [valued "Expires" (HttpDate.expiry now c.maxAge)]
    | none => []

/-- The SameSite attribute, if it is specified. -/
def sameSitePart (s : SameSite) : List (List Char) :=
  if s = .notSpecified then [] else [valued "SameSite" s.word.toList]

/-- The parts of the header in order.  A comment is only written for version
    1. -/
def parts (c : Cookie) (now : Option Moment) : List (List Char) :=
  [c.pair]
    ++ (if c.isVersionOne then textPart "Comment" c.comment else [])
    ++ textPart "Domain" c.domain
    ++ textPart "Path" c.path
    ++ c.ageParts now
    ++ flagPart "Secure" c.secure
    ++ flagPart "HttpOnly" c.httpOnly
    ++ textPart "Priority" c.priority
    ++ sameSitePart c.sameSite
    ++ (if c.isVersionOne then [valued "Version" ['1']] else [])

/-- The header, with the expiry date if the time is given. -/
def header (c : Cookie) (now : Option Moment) : List Char :=
  [';', ' '].intercalate (c.parts now)

/-- The header as a string. -/
def headerString (c : Cookie) (now : Option Moment) : String := String.ofList (c.header now)

/-- Can all parts of the header be written? -/
def isWritable (c : Cookie) : Bool :=
  c.name.isWritable && c.value.isWritable && (!c.isVersionOne || c.comment.isWritable)
    && c.domain.isWritable && c.path.isWritable
    && (c.maxAge < 0 || Integer.isWritable c.maxAge) && c.priority.isWritable

/-- Write the header. -/
def written (c : Cookie) (now : Option Moment) : Except Failure String :=
  if c.isWritable then .ok (c.headerString now) else .error .longInteger

/-- What the cookie is, for messages. -/
def display (c : Cookie) : String :=
  "Cookie(" ++ Text.quoteString (c.headerString none) ++ ")"

end HttpExchange.Cookie
