import HttpExchange.Cookie.Attribute

/-! # Reading cookies

    A cookie is read from a Set-Cookie header or from a mapping whose first
    pair is its name and value; the pairs of a request's Cookie header are
    read as cookies without attributes. -/

namespace HttpExchange.Cookie

open Text

/-- Split a segment at its first equals sign into key and value, with the
    blanks around them dropped. -/
def keyValue (segment : List Char) : List Char × Option (List Char) :=
  let (key, value) := partition '=' segment
  (trim key, value.map trim)

/-- The attributes in the segments of a header: those with a key. -/
def attributesOf (segments : List (List Char)) : List (List Char × List Char) :=
  (segments.map keyValue).filterMap fun (key, value) =>
    if key.isEmpty then none else some (key, value.getD [])

/-- The name and the value in a segment that has both. -/
def namedPair? (segment : List Char) : Option (List Char × List Char) :=
  match keyValue segment with
  | (name, some value) => if name.isEmpty then none else some (name, unquote value)
  | (_, none) => none

/-- A cookie with text as its name and value. -/
def ofText (name value : List Char) : Cookie :=
  ofPair (.str (String.ofList name)) (.str (String.ofList value))

/-- Read a Set-Cookie header at a moment. -/
def parse (header : String) (now : Reading) : Outcome Cookie :=
  if (trim header.toList).isEmpty then ⟨[], .error .emptyHeader⟩
  else
    let (first, rest) := segments ';' header.toList
    match namedPair? first with
    | some (name, value) => (ofText name value).withAttributes now (attributesOf rest)
    | none => ⟨[], .error (.unnamedHeader header)⟩

/-- Read a cookie from a mapping at a moment: the first pair gives its name
    and value as they are, the others its attributes. -/
def ofMapping (pairs : List (String × String)) (now : Reading) : Outcome Cookie :=
  match pairs with
  | [] => ⟨[], .error .emptyMapping⟩
  | (name, value) :: rest =>
    if name.isEmpty then
      ⟨[], .error (.unnamedMapping (pairs.map fun (k, v) => (k, .str v)))⟩
    else
      (ofPair (.str name) (.str value)).withAttributes now
        (rest.map fun (k, v) => (k.toList, v.toList))

/-- The names and values in a request's Cookie header. -/
def pairsOf (header : List Char) : List (List Char × List Char) :=
  (pieces ';' header).filterMap namedPair?

/-- The cookies in a request's Cookie header. -/
def requestCookies (header : String) : List Cookie :=
  (pairsOf header.toList).map fun (name, value) => ofText name value

/-- The names in a request's Cookie header with their values; the last value
    of a name counts. -/
def requestMapping (header : String) : List (String × String) :=
  Value.ofPairs ((pairsOf header.toList).map fun (name, value) =>
    (String.ofList name, String.ofList value))

end HttpExchange.Cookie
