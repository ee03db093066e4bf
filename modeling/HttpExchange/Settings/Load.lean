import HttpExchange.Settings.Basic
import HttpExchange.Settings.Duration
import HttpExchange.Value.Atom

/-! # Loading settings

    A section is a mapping from names of settings to values.  Each setting
    converts its value or finds a fault with it, on its own; a section is
    refused with the faults of all settings in the order in which settings
    are declared, and then of the keys that are no settings. -/

namespace HttpExchange.Settings

open Text

/-- A converted value, the faults with it, or a failure of the whole load. -/
inductive Conversion (α : Type) where
  | ok (a : α)
  | faulty (faults : List Fault)
  | fatal (failure : Failure)

/-- The text of a value: bytes count if they are UTF-8. -/
def textOf (place : List Step) (v : Value) : Conversion String :=
  match v with
  | .bytes bs =>
    match Utf8.decodeString bs with
    | .ok s => .ok s
    | .error _ => .faulty [⟨.brokenText, place⟩]
  | v =>
    match v.string? with
    | some s => .ok s
    | none => .faulty [⟨.notText, place⟩]

/-- The headers in the entries of a mapping; the faults of all entries are
    found. -/
def headersOf (place : List Step) : List (String × Value) → Conversion Headers
  | [] => .ok []
  | (key, v) :: rest =>
    match textOf (place ++ [.key key]) v, headersOf place rest with
    | .ok s, .ok headers => .ok ((key, s) :: headers)
    | .ok _, rest => rest
    | .faulty faults, .faulty more => .faulty (faults ++ more)
    | .faulty faults, _ => .faulty faults
    | .fatal failure, _ => .fatal failure

/-- A duration that has been read, or the fault that there is none. -/
def durationOr (place : List Step) (d : Option Duration.Signed) : Conversion (Option Int) :=
  match d with
  | none => .faulty [⟨.badDuration, place⟩]
  | some d =>
    match Duration.total? d with
    | some n => .ok (some n)
    | none => .fatal .overflow

/-- Does the integer fit into a signed word of 64 bits? -/
def isWord (n : Int) : Bool := -9223372036854775808 ≤ n && n ≤ 9223372036854775807

/-- The timeout in a value. -/
def timeoutOf (place : List Step) (v : Value) : Conversion (Option Int) :=
  let ofBytes (bs : List UInt8) := durationOr place (Duration.read (bs.map Charset.sameNumber))
  match v with
  | .null => .ok none
  | .duration micros => .ok (some micros)
  | .str s => ofBytes (Utf8.encodeString s)
  | .sameSite s => ofBytes (Utf8.encodeString s.word)
  | .bytes bs => ofBytes bs
  | .bool b => durationOr place (Duration.ofSeconds (Value.ofBool b))
  | .int n =>
    if isWord n then durationOr place (Duration.ofSeconds n)
    else match Binary64.ofInt? n with
      | some x => durationOr place (Duration.ofFloat x)
      | none => .faulty [⟨.notDuration, place⟩]
  | .float x => durationOr place (Duration.ofFloat x)
  | .nan .. => .faulty [⟨.badDuration, place⟩]
  | _ => .faulty [⟨.notDuration, place⟩]

/-- The words for false. -/
def falseWords : List String := ["0", "off", "f", "false", "n", "no"]

/-- The words for true. -/
def trueWords : List String := ["1", "on", "t", "true", "y", "yes"]

/-- The truth value of a word in any case. -/
def flagWord? (s : String) : Option Bool :=
  let word := String.ofList (s.toList.map Char.toLower)
  if falseWords.contains word then some false
  else if trueWords.contains word then some true
  else none

/-- A flag, or the fault that a text or number is none. -/
def flagOr (place : List Step) (flag : Option Bool) : Conversion Bool :=
  match flag with
  | some b => .ok b
  | none => .faulty [⟨.badFlag, place⟩]

/-- The flag that the numbers 0 and 1 stand for. -/
def flagNumber? (n : Int) : Option Bool :=
  if n = 0 then some false else if n = 1 then some true else none

/-- Does the integer fit into a word when it comes as a double?  The least
    word does not. -/
def isInnerWord (n : Int) : Bool := -9223372036854775808 < n && n < 9223372036854775808

/-- The flag in a value. -/
def flagOf (place : List Step) (v : Value) : Conversion Bool :=
  match v with
  | .bool b => .ok b
  | .str s => flagOr place (flagWord? s)
  | .sameSite s => flagOr place (flagWord? s.word)
  | .bytes bs => flagOr place ((Utf8.decodeString bs).toOption.bind flagWord?)
  | .int n => if isWord n then flagOr place (flagNumber? n) else .faulty [⟨.notFlag, place⟩]
  | .float x =>
    match Binary64.toInt? x with
    | some n =>
      if isInnerWord n then flagOr place (flagNumber? n) else .faulty [⟨.notFlag, place⟩]
    | none => .faulty [⟨.notFlag, place⟩]
  | _ => .faulty [⟨.notFlag, place⟩]

/-- The default headers in a value. -/
def defaultHeadersOf (place : List Step) (v : Value) : Conversion Headers :=
  match v with
  | .mapping entries => headersOf place entries
  | _ => .faulty [⟨.notMapping, place⟩]

/-! ## Sections -/

/-- The entries of a section.  Keys may be of any kind, but only text names a
    setting. -/
abbrev Section := List (Value × Value)

/-- The section with the entries of a mapping. -/
def Section.ofMapping (entries : List (String × Value)) : Section :=
  entries.map fun (k, v) => (.str k, v)

/-- Set a key of a section: an equal key that is there keeps its place. -/
def Section.assign (s : Section) (key v : Value) : Section :=
  match s with
  | [] => [(key, v)]
  | (k, w) :: rest =>
    if k.equal key then (k, v) :: rest else (k, w) :: Section.assign rest key v

/-- The value of a setting in a section. -/
def Section.lookup (s : Section) (name : String) : Option Value :=
  (s.find? fun (k, _) => k.string? == some name).map (·.2)

/-- The value of a setting in a section, converted: none if the setting is
    not given. -/
def field {α : Type} (s : Section) (name : String)
    (convert : List Step → Value → Conversion α) : Conversion (Option α) :=
  match s.lookup name with
  | none => .ok none
  | some v =>
    match convert [.key name] v with
    | .ok a => .ok (some a)
    | .faulty faults => .faulty faults
    | .fatal failure => .fatal failure

/-- The faults of a conversion. -/
def Conversion.faults {α : Type} : Conversion α → List Fault
  | .faulty faults => faults
  | _ => []

/-- The names of the settings, in the order of their declaration. -/
def keys : List String :=
  ["user_agent", "default_headers", "timeout", "error_for_status", "send_cookies",
    "store_cookies"]

/-- The step to an entry whose key is not text: a number if the key counts as
    one of 64 bits, and what the key is otherwise. -/
def Step.ofKey : Value → Step
  | .bool b => .number (Value.ofBool b)
  | .int n => if isWord n then .number n else .key (Integer.toText n)
  | k => .key k.toLiteral

/-- The fault with a key, unless it names a setting. -/
def keyFault? (k : Value) : Option Fault :=
  match k.string? with
  | some name => if keys.contains name then none else some ⟨.unknown, [.key name]⟩
  | none => some ⟨.badKey, [.ofKey k]⟩

/-- The faults of the keys that are no settings, in order. -/
def unknownKeys (s : Section) : List Fault := s.filterMap fun (k, _) => keyFault? k

/-- Load a section. -/
def load (s : Section) : Except Failure Given :=
  let userAgent := field s "user_agent" textOf
  let defaultHeaders := field s "default_headers" defaultHeadersOf
  let timeout := field s "timeout" timeoutOf
  let errorForStatus := field s "error_for_status" flagOf
  let sendCookies := field s "send_cookies" flagOf
  let storeCookies := field s "store_cookies" flagOf
  let extra := unknownKeys s
  match userAgent, defaultHeaders, timeout, errorForStatus, sendCookies, storeCookies, extra with
  | _, _, .fatal failure, _, _, _, _ => .error failure
  | .ok userAgent, .ok defaultHeaders, .ok timeout, .ok errorForStatus, .ok sendCookies,
    .ok storeCookies, [] =>
    .ok ⟨userAgent, defaultHeaders, timeout, errorForStatus, sendCookies, storeCookies⟩
  | _, _, _, _, _, _, _ =>
    .error (.settings (userAgent.faults ++ defaultHeaders.faults ++ timeout.faults
      ++ errorForStatus.faults ++ sendCookies.faults ++ storeCookies.faults ++ extra))

/-! ## Sections from values -/

/-- The items of a value that can be walked through, if it can. -/
def items? : Value → Option (List Value)
  | .list vs => some vs
  | .str s => some (s.toList.map fun c => .str (String.singleton c))
  | .sameSite s => some (s.word.toList.map fun c => .str (String.singleton c))
  | .bytes bs => some (bs.map fun b => .int b.toNat)
  | .mapping entries => some (entries.map fun (k, _) => .str k)
  | _ => none

/-- Can the value be a key?  What has parts cannot. -/
def isKey (v : Value) : Bool := v.atom?.isSome

/-- The section that a list of pairs stands for, on top of the one read so
    far; the pairs are counted from the given index on. -/
def sectionOfPairs (index : Nat) (s : Section) : List Value → Except Failure Section
  | [] => .ok s
  | item :: rest =>
    match items? item with
    | some [key, v] =>
      if isKey key then sectionOfPairs (index + 1) (s.assign key v) rest else .error .mistyped
    | some vs => .error (.notPair index vs.length)
    | none => .error .mistyped

/-- The section in a value: the entries of a mapping, or the pairs of a
    list. -/
def sectionOf (v : Value) : Except Failure Section :=
  match v with
  | .mapping entries => .ok (Section.ofMapping entries)
  | v =>
    match items? v with
    | some pairs => sectionOfPairs 0 [] pairs
    | none => .error .mistyped

/-- Load settings from a value. -/
def loadValue (v : Value) : Except Failure Given :=
  match sectionOf v with
  | .ok s => load s
  | .error failure => .error failure

end HttpExchange.Settings
