import HttpExchange.Address
import HttpExchange.Text.Blank
import HttpExchange.Text.Case
import HttpExchange.Text.Quoted

/-! # URLs

    The scheme, the authority and the path of a URL, and the host that the
    authority names.  Any text splits into these parts, except for authorities
    with misplaced brackets and those in which a character would turn into a
    separator when it is normalised. -/

namespace HttpExchange

open Text

/-- A URL in parts.  The scheme is in lower case; the path ends before the
    query and the fragment. -/
structure Url where
  scheme : String
  authority : String
  path : String
  deriving DecidableEq, Repr

namespace Url

/-- Why a text is not split. -/
inductive Fault where
  /-- The brackets of the authority do not form a pair around its host. -/
  | brackets
  | futureAddress
  | bracketedIPv4
  /-- The host between the brackets is not an address. -/
  | notAddress (host : String)
  /-- The authority has a character that stands for a separator. -/
  | hiddenSeparator (authority : String)
  deriving DecidableEq, Repr

/-- The wording of a fault. -/
def Fault.message : Fault → String
  | .brackets => "Invalid IPv6 URL"
  | .futureAddress => "IPvFuture address is invalid"
  | .bracketedIPv4 => "An IPv4 address cannot be in brackets"
  | .notAddress host => quoteString host ++ " does not appear to be an IPv4 or IPv6 address"
  | .hiddenSeparator authority =>
    "netloc '" ++ authority ++ "' contains invalid characters under NFKC normalization"

/-- May the character stand in a scheme? -/
def isSchemeChar (c : Char) : Bool := c.isAlphanum || c == '+' || c == '-' || c == '.'

/-- Take the scheme off a text that has one. -/
def takeScheme (cs : List Char) : List Char × List Char :=
  match partition ':' cs with
  | (scheme, some rest) =>
    if (scheme.head?.any Char.isAlpha) ∧ scheme.all isSchemeChar then
      (scheme.map Char.toLower, rest)
    else ([], cs)
  | (_, none) => ([], cs)

/-- Does the character end the authority? -/
def endsAuthority (c : Char) : Bool := c == '/' || c == '?' || c == '#'

/-- Take the authority off a text that has one. -/
def takeAuthority (cs : List Char) : List Char × List Char :=
  match cs with
  | '/' :: '/' :: rest =>
    (rest.takeWhile fun c => !endsAuthority c, rest.dropWhile fun c => !endsAuthority c)
  | _ => ([], cs)

/-- The part of an authority after the user. -/
def afterUser (authority : List Char) : List Char := (partitionLast '@' authority).2

/-- Check the host that stands between brackets. -/
def checkBracketed (host : List Char) : Except Fault Unit :=
  if host.head? = some 'v' then
    if Address.isFuture host then .ok () else .error .futureAddress
  else if Address.isIPv4 host then .error .bracketedIPv4
  else if Address.isIPv6 host then .ok ()
  else .error (.notAddress (String.ofList host))

/-- Check the brackets of an authority: they come in pairs, nothing stands
    before them, and after them only what a colon starts. -/
def checkBrackets (authority : List Char) : Except Fault Unit :=
  if '[' ∈ authority ∧ ']' ∈ authority then
    let info := afterUser authority
    match partition '[' info with
    | (before, some bracketed) =>
      let (host, after) := partition ']' bracketed
      if !before.isEmpty ∨ (after.getD []).head?.any (· ≠ ':') then .error .brackets
      else checkBracketed host
    | (_, none) => checkBracketed (partition ':' info).1
  else if '[' ∈ authority ∨ ']' ∈ authority then .error .brackets
  else .ok ()

/-- The characters whose compatibility form contains one of the characters
    `/`, `?`, `#`, `@` and `:`. -/
def hiddenSeparators : List Nat :=
  [0x2047, 0x2048, 0x2049, 0x2100, 0x2101, 0x2105, 0x2106, 0x2A74, 0xFE13, 0xFE16, 0xFE55,
    0xFE56, 0xFE5F, 0xFE6B, 0xFF03, 0xFF0F, 0xFF1A, 0xFF1F, 0xFF20]

/-- Check that no character of an authority stands for a separator. -/
def checkCompatibility (authority : List Char) : Except Fault Unit :=
  if authority.any fun c => hiddenSeparators.contains c.toNat then
    .error (.hiddenSeparator (String.ofList authority))
  else .ok ()

/-- Is the character skipped at the start of a URL? -/
def isControlOrSpace (c : Char) : Bool := c.toNat ≤ 0x20

/-- Is the character removed from a URL wherever it stands? -/
def isRemoved (c : Char) : Bool := c == '\t' || c == '\r' || c == '\n'

/-- The characters of a URL that count. -/
def relevant (cs : List Char) : List Char :=
  (trimStartBy isControlOrSpace cs).filter fun c => !isRemoved c

/-- Split a text. -/
def split (text : String) : Except Fault Url := do
  let (scheme, rest) := takeScheme (relevant text.toList)
  let (authority, rest) := takeAuthority rest
  checkBrackets authority
  checkCompatibility authority
  let path := rest.takeWhile fun c => c ≠ '#' ∧ c ≠ '?'
  return ⟨String.ofList scheme, String.ofList authority, String.ofList path⟩

/-- The host in an authority as it is written: between brackets, or before the
    first colon. -/
def writtenHost (authority : List Char) : List Char :=
  let info := afterUser authority
  match partition '[' info with
  | (_, some bracketed) => (partition ']' bracketed).1
  | (_, none) => (partition ':' info).1

/-- The host of a URL in lower case; empty if it has none. -/
def host (u : Url) : String := String.ofList (lower (writtenHost u.authority.toList))

/-- Has the URL a host? -/
def hasHost (u : Url) : Bool := !(writtenHost u.authority.toList).isEmpty

/-- May cookies for encrypted connections be sent to the URL? -/
def isSecure (u : Url) : Bool := u.scheme == "https"

end Url

end HttpExchange
