import HttpExchange.Failure

/-! # Cookies

    A cookie is a name, a value and attributes.  The text fields take any
    value as it is and are shown as text; the other fields convert what they
    are set to. -/

namespace HttpExchange

open Text

/-- A cookie.  An empty text field counts as not set; a negative age makes the
    cookie last as long as the session, and age zero deletes it. -/
structure Cookie where
  version : Value
  name : Value
  value : Value
  comment : Value
  domain : Value
  path : Value
  priority : Value
  secure : Bool
  maxAge : Int
  httpOnly : Bool
  sameSite : SameSite
  deriving Inhabited

namespace SameSite

/-- The value with a word, in any case and with blanks around it. -/
def ofWord? (word : List Char) : Option SameSite :=
  all.find? fun s => lower s.word.toList == lower (trim word)

/-- Convert a value: SameSite values are kept and text is read. -/
def ofValue : Value → Except Failure SameSite
  | .sameSite s => .ok s
  | .str word =>
    match ofWord? word.toList with
    | .some s => .ok s
    | .none => .error (.sameSite (.str word))
  | v => .error (.sameSite v)

end SameSite

namespace Cookie

/-- A cookie of version 0 without attributes. -/
def ofPair (name value : Value) : Cookie :=
  ⟨.int 0, name, value, .str "", .str "", .str "", .str "", false, -1, false, .notSpecified⟩

/-- The name and the value with an equals sign, as they are sent in requests. -/
def pair (c : Cookie) : List Char := c.name.text ++ '=' :: c.value.text

/-- The pair as a string. -/
def pairString (c : Cookie) : String := String.ofList c.pair

/-- Equality of cookies, field by field. -/
def equal (c d : Cookie) : Bool :=
  c.version.equal d.version && c.name.equal d.name && c.value.equal d.value &&
    c.comment.equal d.comment && c.domain.equal d.domain && c.path.equal d.path &&
    c.priority.equal d.priority && c.secure == d.secure && c.maxAge == d.maxAge &&
    c.httpOnly == d.httpOnly && c.sameSite == d.sameSite

/-! ## Setting fields -/

/-- Convert a version: the numbers 0 and 1 are accepted, truth values are
    not. -/
def versionOf (v : Value) : Except Failure Value :=
  match v with
  | .bool _ => .error (.cookieVersion v)
  | _ =>
    if v.equal (.int 0) || v.equal (.int 1) then .ok v else .error (.cookieVersion v)

/-- The integer part of a double. -/
def truncate (x : Float) : Except Failure Int :=
  match Binary64.view x with
  | .nan => .error .notANumber
  | .infinite _ => .error .overflow
  | .finite negative mantissa exponent =>
    let part : Int := Binary64.integerPart mantissa exponent
    .ok (if negative then -part else part)

/-- The integer that text denotes. -/
def integerOf (cs : List Char) (written : Value) : Except Failure Int :=
  (Integer.read cs).mapError fun fault => .integer fault written

/-- Convert an age: a duration counts its whole seconds, a number its whole
    part, and text is read. -/
def ageOf (v : Value) : Except Failure Int :=
  match v with
  | .duration micros => .ok (Binary64.roundedQuotient micros 1000000)
  | .bool b => .ok (Value.ofBool b)
  | .int n => .ok n
  | .float x => truncate x
  | .nan .. => .error .notANumber
  | .str s => integerOf s.toList v
  | .sameSite s => integerOf s.word.toList v
  | .bytes bs =>
    (Integer.readAscii (bs.map Charset.sameNumber)).mapError fun fault => .integer fault v
  | _ => .error .mistyped

/-- The fields of a cookie. -/
inductive Field where
  | version | name | value | comment | domain | path | priority | secure | maxAge | httpOnly
  | sameSite
  deriving DecidableEq, Repr

/-- The name of a field. -/
def Field.key : Field → String
  | .version => "version"
  | .name => "name"
  | .value => "value"
  | .comment => "comment"
  | .domain => "domain"
  | .path => "path"
  | .priority => "priority"
  | .secure => "secure"
  | .maxAge => "max_age"
  | .httpOnly => "http_only"
  | .sameSite => "same_site"

/-- All fields. -/
def Field.all : List Field :=
  [.version, .name, .value, .comment, .domain, .path, .priority, .secure, .maxAge, .httpOnly,
    .sameSite]

/-- The field with a name. -/
def Field.ofKey? (key : String) : Option Field := all.find? fun f => f.key == key

/-- What a field holds. -/
def get (c : Cookie) : Field → Value
  | .version => c.version
  | .name => c.name
  | .value => c.value
  | .comment => c.comment
  | .domain => c.domain
  | .path => c.path
  | .priority => c.priority
  | .secure => .bool c.secure
  | .maxAge => .int c.maxAge
  | .httpOnly => .bool c.httpOnly
  | .sameSite => .sameSite c.sameSite

/-- Set a field to a value, which is converted or refused. -/
def set (c : Cookie) (field : Field) (v : Value) : Except Failure Cookie :=
  match field with
  | .version => (versionOf v).map fun version => { c with version }
  | .name => .ok { c with name := v }
  | .value => .ok { c with value := v }
  | .comment => .ok { c with comment := v }
  | .domain => .ok { c with domain := v }
  | .path => .ok { c with path := v }
  | .priority => .ok { c with priority := v }
  | .secure => .ok { c with secure := v.truthy }
  | .maxAge => (ageOf v).map fun maxAge => { c with maxAge }
  | .httpOnly => .ok { c with httpOnly := v.truthy }
  | .sameSite => (SameSite.ofValue v).map fun sameSite => { c with sameSite }

/-- What the field with a name holds. -/
def getNamed (c : Cookie) (key : String) : Except Failure Value :=
  match Field.ofKey? key with
  | some field => .ok (c.get field)
  | none => .error .unsupported

/-- Set the field with a name to a value. -/
def setNamed (c : Cookie) (key : String) (v : Value) : Except Failure Cookie :=
  match Field.ofKey? key with
  | some field => c.set field v
  | none => .error .unsupported

/-- Set named fields one after the other, until one is refused. -/
def setAll (c : Cookie) : List (String × Value) → Except Failure Cookie
  | [] => .ok c
  | (key, v) :: rest =>
    match c.setNamed key v with
    | .ok c => c.setAll rest
    | .error failure => .error failure

end Cookie

end HttpExchange
