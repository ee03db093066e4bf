import HttpExchange.Number.Integer
import HttpExchange.Text.Hex

/-! # Internet addresses

    Which texts are addresses of the fourth and of the sixth version. -/

namespace HttpExchange.Address

open Text

/-- Is the text a number from 0 to 255 without a zero in front? -/
def isOctet (cs : List Char) : Bool :=
  !cs.isEmpty && cs.all Integer.isDigit && cs.length ≤ 3 &&
    (cs.length == 1 || cs.head? != some '0') && Integer.digitsValue cs ≤ 255

/-- Is the text four numbers with points between them? -/
def isIPv4 (cs : List Char) : Bool :=
  let octets := pieces '.' cs
  octets.length == 4 && octets.all isOctet

/-- Is the text a group of at most four hexadecimal digits? -/
def isGroup (cs : List Char) : Bool :=
  !cs.isEmpty && cs.length ≤ 4 && cs.all fun c => (hexValue? c).isSome

/-- The groups of an address of the sixth version; a last group in the form
    of the fourth version counts as two. -/
def groups? (cs : List Char) : Option (List (List Char)) :=
  let parts := pieces ':' cs
  let last := parts.getLastD []
  if parts.length < 3 then none
  else if '.' ∈ last then
    if isIPv4 last then some (parts.dropLast ++ [['0'], ['0']]) else none
  else some parts

/-- Are the groups on one side of a double colon fine?  The side may be
    empty. -/
def isSide (groups : List (List Char)) : Bool := groups == [[]] || groups.all isGroup

/-- Do the groups stand for eight?  A double colon, which shows as one empty
    group inside, stands for one or more of them. -/
def isEight (groups : List (List Char)) : Bool :=
  let inner := (groups.drop 1).dropLast
  if inner.contains [] then
    let before := groups.take (1 + (inner.takeWhile fun g => !g.isEmpty).length)
    let after := groups.drop (before.length + 1)
    let written := (groups.filter fun g => !g.isEmpty).length
    inner.count [] == 1 && isSide before && isSide after && written ≤ 7
  else groups.length == 8 && groups.all isGroup

/-- Is the text an address of the sixth version?  A zone may follow it after
    a percent sign. -/
def isIPv6 (cs : List Char) : Bool :=
  let (address, zone) := partition '%' cs
  let zoneFits := match zone with
    | none => true
    | some z => !z.isEmpty && !z.contains '%'
  zoneFits && match groups? address with
    | some groups => groups.length ≤ 9 && isEight groups
    | none => false

/-- Is the text an address of a future version: its version number in
    hexadecimal digits after the letter v, a point, and something after it? -/
def isFuture (cs : List Char) : Bool :=
  match cs with
  | 'v' :: rest =>
    let isHex (c : Char) : Bool := (hexValue? c).isSome
    let version := rest.takeWhile isHex
    match rest.dropWhile isHex with
    | '.' :: tail => !version.isEmpty && !tail.isEmpty
    | _ => false
  | _ => false

end HttpExchange.Address
