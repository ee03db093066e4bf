import HttpExchange.Text.CaseTable

/-! # Case folding

    Lower case of every script, with the sigma that ends a word and the
    dotted capital I, and the part of upper case that ends in ASCII. -/

namespace HttpExchange.Text

/-- Is the character skipped when looking for the letters around a sigma? -/
def isCaseIgnorable (c : Char) : Bool := inRuns caseIgnorableBounds c.toNat

/-- Is the character a letter with case (and not case-ignorable)? -/
def isCased (c : Char) : Bool := inRuns casedBounds c.toNat

/-- The simple lower-case mapping of a character. -/
def lowerChar (c : Char) : Char :=
  let n := c.toNat
  if n < 0x80 then (if 65 ≤ n ∧ n ≤ 90 then Char.ofNat (n + 32) else c)
  else
    match lowerRuns.find? fun (first, last, step, _) =>
        first ≤ n && n ≤ last && (n - first) % step == 0 with
    | some (_, _, _, shift) => Char.ofNat ((n : Int) + shift).toNat
    | none => c

/-- Does the next character that is not case-ignorable have case? -/
def casedFollows : List Char → Bool
  | [] => false
  | c :: cs => if isCaseIgnorable c then casedFollows cs else isCased c

/-- Lower case of a text that follows a letter with case, or does not.  A
    capital sigma becomes the final form at the end of a word. -/
def lowerAfter (cased : Bool) : List Char → List Char
  | [] => []
  | c :: cs =>
    let rest := lowerAfter (if isCaseIgnorable c then cased else isCased c) cs
    if c = 'Σ' then (if cased && !casedFollows cs then 'ς' else 'σ') :: rest
    else if c = 'İ' then 'i' :: Char.ofNat 0x307 :: rest
    else lowerChar c :: rest

/-- Lower case of a text. -/
def lower (cs : List Char) : List Char := lowerAfter false cs

/-- Lower case of a string. -/
def lowerString (s : String) : String := String.ofList (lower s.toList)

/-- Upper case of a character whose upper case is ASCII; any other character
    is kept, and stays outside ASCII or has no case. -/
def upperChar (c : Char) : List Char :=
  let n := c.toNat
  if 97 ≤ n ∧ n ≤ 122 then [Char.ofNat (n - 32)]
  else match n with
    | 0xDF => ['S', 'S']
    | 0x131 => ['I']
    | 0x17F => ['S']
    | 0xFB00 => ['F', 'F']
    | 0xFB01 => ['F', 'I']
    | 0xFB02 => ['F', 'L']
    | 0xFB03 => ['F', 'F', 'I']
    | 0xFB04 => ['F', 'F', 'L']
    | 0xFB05 => ['S', 'T']
    | 0xFB06 => ['S', 'T']
    | _ => [c]

/-- The upper case of a text, as far as it is ASCII. -/
def upper (cs : List Char) : List Char := cs.flatMap upperChar

end HttpExchange.Text
