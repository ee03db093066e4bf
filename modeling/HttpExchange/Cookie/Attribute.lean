import HttpExchange.Cookie.Basic
import HttpExchange.Log
import HttpExchange.Time.MailDate

/-! # Cookie attributes

    What the keys and values after the name of a cookie mean.  An attribute
    that is unknown or cannot be read is left out and reported; only a date
    or a clock beyond all computing makes the whole cookie fail.  The age of a cookie is
    what `Max-Age` says, and what `Expires` says if there is no age. -/

namespace HttpExchange.Cookie

open Text

/-- An attribute that has been read. -/
inductive Attribute where
  | domain (s : String)
  | path (s : String)
  | priority (s : String)
  | comment (s : String)
  | secure
  | httpOnly
  | maxAge (seconds : Int)
  /-- The seconds that were left until the expiry date. -/
  | expires (seconds : Int)
  | sameSite (s : SameSite)
  | version (n : Int)
  deriving DecidableEq, Repr

/-- Why an expiry date gives no age. -/
inductive Expiry.Fault where
  /-- There is no such date, or the clock shows none. -/
  | unreadable
  /-- A number is beyond what a date can be computed with. -/
  | overflow
  /-- The year that the clock shows does not fit into a date. -/
  | clockYear
  deriving DecidableEq, Repr

/-- The fault of an expiry date that is not read. -/
def Expiry.Fault.ofDate : MailDate.Fault → Expiry.Fault
  | .unreadable => .unreadable
  | .overflow => .overflow

/-- The fault of a clock that shows no moment. -/
def Expiry.Fault.ofClock : Moment.ClockFault → Expiry.Fault
  | .undated => .unreadable
  | .yearTooLarge => .clockYear
  | .beyondCounting => .overflow

/-- Why an attribute has no effect. -/
inductive Attribute.Problem where
  /-- The value cannot be read; the name of the attribute is given. -/
  | invalid (name : String) (value : String)
  | unknown (key : String)
  /-- The date or the clock is out of range: the cookie fails. -/
  | fatal (fault : Expiry.Fault)
  deriving DecidableEq, Repr

/-- Take off the double quotes around a text. -/
def unquote (cs : List Char) : List Char :=
  if 2 ≤ cs.length ∧ cs.head? = some '"' ∧ cs.getLast? = some '"' then (cs.drop 1).dropLast
  else cs

/-- The seconds from the current moment to the date in a text, at least zero.
    The date is read before the clock. -/
def secondsUntil (now : Reading) (cs : List Char) : Except Expiry.Fault Int := do
  let date ← (MailDate.read cs).mapError .ofDate
  let moment ← now.mapError .ofClock
  match moment.utc? with
  | none => .error .overflow
  | some start => .ok (max 0 (Binary64.roundedQuotient (date.instant - start) 1000000))

/-- Read an age in seconds; a negative one counts as zero. -/
def readAge (cs : List Char) : Option Int := (Integer.read cs).toOption.map (max 0)

/-- Read a version. -/
def readVersion (cs : List Char) : Option Int :=
  match (Integer.read cs).toOption with
  | some n => if n = 0 ∨ n = 1 then some n else none
  | none => none

/-- An attribute that is read, or reported as invalid. -/
def readWith (make : α → Attribute) (name : String) (cs : List Char) (value : Option α) :
    Except Attribute.Problem Attribute :=
  match value with
  | some v => .ok (make v)
  | none => .error (.invalid name (String.ofList cs))

/-- Read an attribute.  Its key is compared without regard to case and
    blanks around it; quotes around the value are taken off. -/
def Attribute.read (now : Reading) (key value : List Char) :
    Except Attribute.Problem Attribute :=
  let v := unquote (trim value)
  let s := String.ofList v
  match String.ofList (lower (trim key)) with
  | "domain" => .ok (.domain s)
  | "path" => .ok (.path s)
  | "priority" => .ok (.priority s)
  | "comment" => .ok (.comment s)
  | "secure" => .ok .secure
  | "httponly" => .ok .httpOnly
  | "max-age" => readWith .maxAge "Max-Age" v (readAge v)
  | "expires" =>
    match secondsUntil now v with
    | .ok seconds => .ok (.expires seconds)
    | .error .unreadable => .error (.invalid "Expires" s)
    | .error fault => .error (.fatal fault)
  | "samesite" => readWith .sameSite "SameSite" v (SameSite.ofWord? v)
  | "version" => readWith .version "Version" v (readVersion v)
  | _ => .error (.unknown (String.ofList key))

/-- The record that reports a problem of a cookie with the name. -/
def Attribute.Problem.record? (name : Value) : Attribute.Problem → Option Log.Record
  | .invalid key value =>
    some ⟨.debug, .cookie, "Ignoring invalid " ++ key ++ " " ++ quoteString value
      ++ " of cookie " ++ name.toLiteral⟩
  | .unknown key =>
    some ⟨.debug, .cookie, "Ignoring unknown attribute " ++ quoteString key ++ " of cookie "
      ++ name.toLiteral⟩
  | .fatal _ => none

/-- The failure of a cookie because of an attribute. -/
def Attribute.Problem.failure : Attribute.Problem → Failure
  | .fatal .clockYear => .clockYear
  | _ => .overflow

/-- A cookie while its attributes are applied. -/
structure Draft where
  cookie : Cookie
  /-- Was an age given? -/
  hasAge : Bool
  /-- The seconds left until the last expiry date. -/
  expires : Option Int

/-- A draft of a cookie without attributes. -/
def Draft.ofCookie (cookie : Cookie) : Draft := ⟨cookie, false, none⟩

/-- Apply an attribute. -/
def Draft.apply (d : Draft) : Attribute → Draft
  | .domain s => { d with cookie := { d.cookie with domain := .str s } }
  | .path s => { d with cookie := { d.cookie with path := .str s } }
  | .priority s => { d with cookie := { d.cookie with priority := .str s } }
  | .comment s => { d with cookie := { d.cookie with comment := .str s } }
  | .secure => { d with cookie := { d.cookie with secure := true } }
  | .httpOnly => { d with cookie := { d.cookie with httpOnly := true } }
  | .maxAge seconds => { d with cookie := { d.cookie with maxAge := seconds }, hasAge := true }
  | .expires seconds => { d with expires := some seconds }
  | .sameSite s => { d with cookie := { d.cookie with sameSite := s } }
  | .version n => { d with cookie := { d.cookie with version := .int n } }

/-- The finished cookie: an expiry date counts if there was no age. -/
def Draft.finish (d : Draft) : Cookie :=
  match d.expires, d.hasAge with
  | some seconds, false => { d.cookie with maxAge := seconds }
  | _, _ => d.cookie

/-- Apply attributes, given as keys and values, in order. -/
def Draft.applyAll (now : Reading) (d : Draft) : List (List Char × List Char) → Outcome Draft
  | [] => ⟨[], .ok d⟩
  | (key, value) :: rest =>
    match Attribute.read now key value with
    | .ok a => (d.apply a).applyAll now rest
    | .error problem =>
      match problem.record? d.cookie.name with
      | some record => (d.applyAll now rest).after [record]
      | none => ⟨[], .error problem.failure⟩

/-- A cookie with attributes. -/
def withAttributes (c : Cookie) (now : Reading) (attributes : List (List Char × List Char)) :
    Outcome Cookie :=
  ((Draft.ofCookie c).applyAll now attributes).map Draft.finish

end HttpExchange.Cookie
