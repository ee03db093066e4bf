import HttpExchange.Number.Binary64
import HttpExchange.SameSite

/-! # Values

    What a cookie property may be set to, what a settings section may hold,
    what a JSON body decodes to and what a mock rule compares with.  Values
    of different kinds can be equal: numbers by what they denote, truth
    values as one and zero, and a SameSite value as its word.  A double that
    is no number equals only itself and its copies.  Text consists of
    characters: it holds no surrogates. -/

namespace HttpExchange

/-- A value of any kind.  A duration counts microseconds; a mapping keeps
    the order of its keys. -/
inductive Value where
  | null
  | bool (b : Bool)
  | int (n : Int)
  | float (x : Float)
  /-- A double that is no number, by its bits; the mark tells it apart from
      others. -/
  | nan (bits : UInt64) (mark : Nat)
  | str (s : String)
  | bytes (bs : List UInt8)
  | list (items : List Value)
  | mapping (entries : List (String × Value))
  | duration (micros : Int)
  | sameSite (s : SameSite)
  | pattern (source : String)
  deriving Inhabited

namespace Value

/-- Does the value count as true? -/
def truthy : Value → Bool
  | .null => false
  | .bool b => b
  | .int n => n != 0
  | .float x => !(x == 0)
  | .nan .. => true
  | .str s => !s.isEmpty
  | .bytes bs => !bs.isEmpty
  | .list items => !items.isEmpty
  | .mapping entries => !entries.isEmpty
  | .duration micros => micros != 0
  | .sameSite s => s != .notSpecified
  | .pattern _ => true

/-- The double with the bits; the mark is for one that is no number. -/
def ofBits (bits : UInt64) (mark : Nat) : Value :=
  let x := Float.ofBits bits
  if x.isNaN then .nan bits mark else .float x

/-- The text of a value that is text. -/
def string? : Value → Option String
  | .str s => some s
  | .sameSite s => some s.word
  | _ => none

/-- The value of a key in a mapping. -/
def lookup (key : String) : List (String × Value) → Option Value
  | [] => none
  | (k, v) :: rest => if k = key then some v else lookup key rest

/-- Set a key of a mapping: a key that is there keeps its place. -/
def assign {α : Type} (key : String) (value : α) : List (String × α) → List (String × α)
  | [] => [(key, value)]
  | (k, v) :: rest => if k = key then (k, value) :: rest else (k, v) :: assign key value rest

/-- The mapping of pairs in order: a repeated key keeps its first place and
    takes its last value. -/
def ofPairs {α : Type} (pairs : List (String × α)) : List (String × α) :=
  pairs.foldl (fun entries (k, v) => assign k v entries) []

/-- Does a double denote the integer? -/
def floatIsInt (x : Float) (n : Int) : Bool := Binary64.toInt? x == some n

/-- The integer that a truth value counts as. -/
def ofBool (b : Bool) : Int := if b then 1 else 0

mutual

/-- Equality of values. -/
def equal : Value → Value → Bool
  | .null, .null => true
  | .bool a, .bool b => a == b
  | .bool a, .int n => ofBool a == n
  | .int n, .bool b => n == ofBool b
  | .bool a, .float x => floatIsInt x (ofBool a)
  | .float x, .bool b => floatIsInt x (ofBool b)
  | .int m, .int n => m == n
  | .int n, .float x => floatIsInt x n
  | .float x, .int n => floatIsInt x n
  | .float x, .float y => x == y
  | .nan _ m, .nan _ n => m == n
  | .str s, .str t => s == t
  | .str s, .sameSite t => s == t.word
  | .sameSite s, .str t => s.word == t
  | .sameSite s, .sameSite t => s == t
  | .bytes a, .bytes b => a == b
  | .list a, .list b => equalItems a b
  | .mapping a, .mapping b => a.length == b.length && equalEntries a b
  | .duration a, .duration b => a == b
  | .pattern a, .pattern b => a == b
  | _, _ => false

/-- Equality of lists, item by item. -/
def equalItems : List Value → List Value → Bool
  | [], [] => true
  | v :: vs, w :: ws => equal v w && equalItems vs ws
  | _, _ => false

/-- Has the second mapping an equal value for every key of the first? -/
def equalEntries : List (String × Value) → List (String × Value) → Bool
  | [], _ => true
  | (k, v) :: rest, entries =>
    (match lookup k entries with
      | some w => equal v w
      | none => false) && equalEntries rest entries

end

end Value

end HttpExchange
