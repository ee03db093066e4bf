import HttpExchange.Text.Blank
import HttpExchange.Text.Digit
import HttpExchange.Text.Word

/-! # Search patterns

    Patterns of literal characters, character classes and sets, groups with
    alternatives, and repetition, with anchors for the ends of a text and of
    words, and with tests of what follows.  A pattern is searched for: it may
    match anywhere.

    A match that begins at a place may end at several; they are tried in an
    order of preference, and a committed pattern keeps to the first.

    Some syntax is not read: back references and conditions on groups, tests of
    what precedes, flags, comments, and characters that are given by number or
    by name.  Nothing is known of a pattern that is written with it
    (`isFound?`). -/

namespace HttpExchange.Text

/-- One member of a character set.  A negated class has all other
    characters. -/
inductive CharClass where
  /-- The characters between two bounds, both included. -/
  | range (first last : Char)
  /-- The decimal digits of every script. -/
  | digit (negated : Bool)
  | blank (negated : Bool)
  /-- The characters of words. -/
  | word (negated : Bool)
  deriving DecidableEq, Repr

/-- Is the character in the class? -/
def CharClass.contains (k : CharClass) (c : Char) : Bool :=
  match k with
  | .range first last => first.toNat ≤ c.toNat && c.toNat ≤ last.toNat
  | .digit negated => (decimalDigit? c).isSome != negated
  | .blank negated => isBlank c != negated
  | .word negated => isWordChar c != negated

/-- The characters from one to another, if the classes are single characters
    in order. -/
def CharClass.upTo? : CharClass → CharClass → Option CharClass
  | .range a _, .range b _ => if a.toNat ≤ b.toNat then some (.range a b) else none
  | _, _ => none

/-- A pattern. -/
inductive Pattern where
  | empty
  /-- Any character but a line break. -/
  | any
  | set (negated : Bool) (classes : List CharClass)
  /-- The start of the text. -/
  | start
  /-- The end of the text, or before a line break there. -/
  | finish
  /-- The end of the text. -/
  | last
  /-- Where a word starts or ends, or anywhere else in a text that is not
      empty. -/
  | boundary (negated : Bool)
  /-- Where the pattern matches what follows, or where it does not. -/
  | ahead (negated : Bool) (p : Pattern)
  | seq (p q : Pattern)
  | alt (p q : Pattern)
  /-- A number of times. -/
  | exactly (n : Nat) (p : Pattern)
  /-- At most a number of times: as often as possible, or as seldom. -/
  | upTo (n : Nat) (greedy : Bool) (p : Pattern)
  /-- Any number of times: as often as possible, or as seldom. -/
  | star (greedy : Bool) (p : Pattern)
  /-- A match of the pattern, and no other once it is found. -/
  | committed (p : Pattern)
  deriving Repr

namespace Pattern

/-- A pattern for one character. -/
def literal (c : Char) : Pattern := .set false [.range c c]

/-- One pattern and then another, which may be empty. -/
def andThen (p : Pattern) : Pattern → Pattern
  | .empty => p
  | q => .seq p q

/-! ## Reading -/

/-- The control character that a letter stands for behind a backslash. -/
def control? : Char → Option Char
  | 'a' => some '\x07'
  | 'f' => some '\x0c'
  | 'n' => some '\n'
  | 'r' => some '\r'
  | 't' => some '\t'
  | 'v' => some '\x0b'
  | _ => none

/-- The class of an escaped character.  Letters and digits have meanings of
    their own, of which those of classes and control characters are known
    here. -/
def escaped? (c : Char) : Option CharClass :=
  match c with
  | 'd' => some (.digit false)
  | 'D' => some (.digit true)
  | 's' => some (.blank false)
  | 'S' => some (.blank true)
  | 'w' => some (.word false)
  | 'W' => some (.word true)
  | c =>
    if c.isAlphanum then (control? c).map fun k => .range k k
    else some (.range c c)

/-- The anchor that a letter stands for behind a backslash. -/
def anchor? : Char → Option Pattern
  | 'A' => some .start
  | 'Z' => some .last
  | 'b' => some (.boundary false)
  | 'B' => some (.boundary true)
  | _ => none

/-- Put a member before the members read after it. -/
def consMember (k : CharClass) (r : Option (List CharClass × List Char)) :
    Option (List CharClass × List Char) :=
  r.map fun (classes, rest) => (k :: classes, rest)

/-- Read one character of a set, which may be escaped. -/
def readMember : List Char → Option (CharClass × List Char)
  | [] => none
  | ['\\'] => none
  | '\\' :: 'b' :: rest => some (.range '\x08' '\x08', rest)
  | '\\' :: c :: rest => (escaped? c).map fun k => (k, rest)
  | c :: rest => some (.range c c, rest)

/-- Read the members of a character set up to its closing bracket; the number
    bounds the calls.  A bracket that comes first is a member, and so is a
    hyphen that comes last. -/
def readMembers : Nat → Bool → List Char → Option (List CharClass × List Char)
  | 0, _, _ => none
  | _ + 1, true, ']' :: rest => some ([], rest)
  | n + 1, _, cs =>
    match readMember cs with
    | none => none
    | some (k, '-' :: ']' :: rest) => some ([k, .range '-' '-'], rest)
    | some (k, '-' :: rest) =>
      match readMember rest with
      | none => none
      | some (l, rest) => (k.upTo? l).bind fun r => consMember r (readMembers n true rest)
    | some (k, rest) => consMember k (readMembers n true rest)

/-- Read a character set after its opening bracket. -/
def readSet (cs : List Char) : Option (Pattern × List Char) :=
  match cs with
  | '^' :: rest => (readMembers cs.length false rest).map fun (ks, rest) => (.set true ks, rest)
  | _ => (readMembers cs.length false cs).map fun (ks, rest) => (.set false ks, rest)

/-- How often a repeated pattern matches: at least and at most. -/
structure Times where
  least : Nat
  most : Option Nat
  deriving DecidableEq, Repr

/-- The number that digits stand for. -/
def number (digits : List Char) : Nat :=
  digits.foldl (fun n c => n * 10 + (c.toNat - '0'.toNat)) 0

/-- Read the bounds of a repetition up to the closing brace: one number, or
    two with a comma between them, of which either may be missing. -/
def readBounds (cs : List Char) : Option (Times × List Char) :=
  let least := cs.takeWhile Char.isDigit
  match cs.drop least.length with
  | '\x7d' :: rest =>
    if least.isEmpty then none else some (⟨number least, some (number least)⟩, rest)
  | ',' :: rest =>
    let most := rest.takeWhile Char.isDigit
    match rest.drop most.length with
    | '\x7d' :: rest =>
      some (⟨number least, if most.isEmpty then none else some (number most)⟩, rest)
    | _ => none
  | _ => none

/-- Read a repetition sign.  A brace without bounds is none. -/
def readSign : List Char → Option (Times × List Char)
  | '*' :: rest => some (⟨0, none⟩, rest)
  | '+' :: rest => some (⟨1, none⟩, rest)
  | '?' :: rest => some (⟨0, some 1⟩, rest)
  | '\x7b' :: rest => readBounds rest
  | _ => none

/-- A pattern as often as possible or as seldom as possible. -/
def repeated (p : Pattern) (greedy : Bool) (t : Times) : Pattern :=
  let more := match t.most with
    | some most => .upTo (most - t.least) greedy p
    | none => .star greedy p
  if t.least = 0 then more else .seq (.exactly t.least p) more

/-- Apply the repetition sign that follows a pattern, if one does.  After the
    sign, a question mark means as seldom as possible, and a plus sign that
    each of the matches is final; a pattern is not repeated twice. -/
def readTimes (p : Pattern) (cs : List Char) : Option (Pattern × List Char) :=
  match readSign cs with
  | none => some (p, cs)
  | some (t, rest) =>
    let (q, rest) := match rest with
      | '?' :: rest => (p.repeated false t, rest)
      | '+' :: rest => (.committed (p.committed.repeated true t), rest)
      | rest => (p.repeated true t, rest)
    if t.most.any (· < t.least) ∨ (readSign rest).isSome then none else some (q, rest)

/-- What the start of a group makes of the pattern in it: a group is the
    pattern itself, with or without a name, a pattern that is committed, or a
    test of what follows. -/
def readOpening : List Char → Option ((Pattern → Pattern) × List Char)
  | '?' :: ':' :: rest => some (id, rest)
  | '?' :: '>' :: rest => some (.committed, rest)
  | '?' :: '=' :: rest => some (.ahead false, rest)
  | '?' :: '!' :: rest => some (.ahead true, rest)
  | '?' :: 'P' :: '<' :: rest =>
    let name := rest.takeWhile (· ≠ '>')
    some (id, rest.drop (name.length + 1))
  | '?' :: _ => none
  | rest => some (id, rest)

mutual

/-- Read alternatives; the number bounds the calls. -/
def readAlternatives : Nat → List Char → Option (Pattern × List Char)
  | 0, _ => none
  | n + 1, cs =>
    match readSequence n cs with
    | none => none
    | some (p, '|' :: rest) => (readAlternatives n rest).map fun (q, rest) => (.alt p q, rest)
    | some (p, rest) => some (p, rest)

/-- Read a sequence of patterns up to a bar, a closing parenthesis or the
    end. -/
def readSequence : Nat → List Char → Option (Pattern × List Char)
  | 0, _ => none
  | _ + 1, [] => some (.empty, [])
  | n + 1, c :: cs =>
    if c = '|' ∨ c = ')' then some (.empty, c :: cs)
    else match readRepeated n c cs with
      | none => none
      | some (p, rest) => (readSequence n rest).map fun (q, rest) => (p.andThen q, rest)

/-- Read one pattern that starts with the given character, and how often it
    matches.  An anchor is not repeated. -/
def readRepeated : Nat → Char → List Char → Option (Pattern × List Char)
  | 0, _, _ => none
  | n + 1, c, cs =>
    match readOne n c cs with
    | none => none
    | some (p, rest) =>
      if c = '^' ∨ c = '$' ∨ c = '\\' ∧ (cs.head?.bind anchor?).isSome then
        if (readSign rest).isSome then none else some (p, rest)
      else readTimes p rest

/-- Read one pattern that starts with the given character. -/
def readOne : Nat → Char → List Char → Option (Pattern × List Char)
  | 0, _, _ => none
  | n + 1, c, cs =>
    match c with
    | '^' => some (.start, cs)
    | '$' => some (.finish, cs)
    | '.' => some (.any, cs)
    | '\\' =>
      match cs with
      | d :: rest => ((anchor? d).or ((escaped? d).map fun k => .set false [k])).map (·, rest)
      | [] => none
    | '[' => readSet cs
    | '(' =>
      match readOpening cs with
      | none => none
      | some (make, cs) =>
        match readAlternatives n cs with
        | some (p, ')' :: rest) => some (make p, rest)
        | _ => none
    | c => if (readSign (c :: cs)).isSome then none else some (literal c, cs)

end

/-- Read a pattern. -/
def read (source : List Char) : Option Pattern :=
  match readAlternatives (4 * source.length + 4) source with
  | some (p, []) => some p
  | _ => none

/-! ## Searching -/

/-- A place in a text: how many characters precede it, the last of them, and
    those that follow. -/
structure Place where
  position : Nat
  before : Option Char
  rest : List Char
  deriving DecidableEq, Repr

/-- Are two places of one text the same? -/
def Place.same (x y : Place) : Bool := x.position == y.position

/-- Does a word start or end at the place? -/
def Place.isBoundary (x : Place) : Bool :=
  x.before.any isWordChar != x.rest.head?.any isWordChar

/-- The place behind the next character, if that has the property. -/
def Place.behind (p : Char → Bool) (x : Place) : List Place :=
  match x.rest with
  | c :: rest => if p c then [⟨x.position + 1, some c, rest⟩] else []
  | [] => []

/-- Put a place before those that were found, unless it is one of them. -/
def note (found : List Place) (place : Place) : List Place :=
  if found.any place.same then found else place :: found

/-- The places in order, without repetitions. -/
def distinct (places : List Place) : List Place := (places.foldl note []).reverse

/-- The places where a number of repetitions can end. -/
def iterate (step : Place → List Place) : Nat → List Place → List Place
  | 0, places => places
  | n + 1, places => if places.isEmpty then [] else iterate step n (distinct (places.flatMap step))

/-- The places where at most a number of repetitions can end.  An end where
    the repeated pattern matched nothing is the end of the repetition. -/
def bounded (step : Place → List Place) (greedy : Bool) : Nat → Place → List Place
  | 0, place => [place]
  | n + 1, place =>
    let later := (step place).flatMap fun next =>
      if place.same next then [place] else bounded step greedy n next
    distinct (if greedy then later ++ [place] else place :: later)

/-- Add the places where a repetition can end that has come to a place; those
    found later stand first, and the number bounds the rounds.  Here too an
    end where the repeated pattern matched nothing is the end. -/
def explore (step : Place → List Place) (greedy : Bool) :
    Nat → List Place → Place → List Place
  | 0, found, _ => found
  | n + 1, found, place =>
    let visit (found : List Place) (next : Place) : List Place :=
      if found.any next.same then found else explore step greedy n found next
    let ends := step place
    let before := if greedy then ends.takeWhile fun next => !place.same next else []
    (ends.drop before.length).foldl visit (place :: before.foldl visit found)

/-- The places where a match that begins at a place can end, in the order in
    which they are tried. -/
def ends (p : Pattern) (place : Place) : List Place :=
  match p with
  | .empty => [place]
  | .any => place.behind fun c => c ≠ '\n'
  | .set negated classes => place.behind fun c => (classes.any fun k => k.contains c) != negated
  | .start => if place.position = 0 then [place] else []
  | .finish => if place.rest = [] ∨ place.rest = ['\n'] then [place] else []
  | .last => if place.rest = [] then [place] else []
  | .boundary negated =>
    if place.position = 0 ∧ place.rest = [] then []
    else if place.isBoundary != negated then [place] else []
  | .ahead negated p => if (p.ends place).isEmpty = negated then [place] else []
  | .seq p q =>
    match p.ends place with
    | [next] => q.ends next
    | places => distinct (places.flatMap q.ends)
  | .alt p q => distinct (p.ends place ++ q.ends place)
  | .exactly n p => iterate p.ends n [place]
  | .upTo n greedy p => bounded p.ends greedy n place
  | .star greedy p => (explore p.ends greedy (place.rest.length + 1) [] place).reverse
  | .committed p => (p.ends place).take 1

/-- Does the pattern match at a place or after it? -/
def matchesFrom (p : Pattern) (position : Nat) (before : Option Char) : List Char → Bool
  | [] => !(p.ends ⟨position, before, []⟩).isEmpty
  | c :: cs =>
    !(p.ends ⟨position, before, c :: cs⟩).isEmpty || p.matchesFrom (position + 1) (some c) cs

/-- Is the pattern found in a text? -/
def isFound (p : Pattern) (text : List Char) : Bool := p.matchesFrom 0 none text

end Pattern

/-- Is the pattern with the source found in a text?  There is no answer for a
    source that is not read. -/
def isFound? (source text : String) : Option Bool :=
  (Pattern.read source.toList).map fun p => p.isFound text.toList

end HttpExchange.Text
