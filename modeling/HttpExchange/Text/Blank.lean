/-! # Blank characters and trimming

    The blanks are the characters that trimming removes: the ASCII blanks
    with the four information separators, and the blanks of Unicode. -/

namespace HttpExchange.Text

/-- Is the character a blank? -/
def isBlank (c : Char) : Bool :=
  let n := c.toNat
  (9 ≤ n && n ≤ 13) || (28 ≤ n && n ≤ 32) || n == 0x85 || n == 0xA0 || n == 0x1680 ||
    (0x2000 ≤ n && n ≤ 0x200A) || n == 0x2028 || n == 0x2029 || n == 0x202F || n == 0x205F ||
    n == 0x3000

/-- Drop the characters with the property from the front. -/
def trimStartBy (p : Char → Bool) (cs : List Char) : List Char := cs.dropWhile p

/-- Drop the characters with the property from the end. -/
def trimEndBy (p : Char → Bool) (cs : List Char) : List Char := (cs.reverse.dropWhile p).reverse

/-- Drop the characters with the property from both ends. -/
def trimBy (p : Char → Bool) (cs : List Char) : List Char := trimEndBy p (trimStartBy p cs)

/-- Drop the blanks from both ends. -/
def trim (cs : List Char) : List Char := trimBy isBlank cs

/-- The words of a text: its longest stretches without blanks, in order. -/
def words (cs : List Char) : List (List Char) :=
  let step (c : Char) : List Char × List (List Char) → List Char × List (List Char)
    | (word, rest) =>
      if isBlank c then ([], if word.isEmpty then rest else word :: rest) else (c :: word, rest)
  let (word, rest) := cs.foldr step ([], [])
  if word.isEmpty then rest else word :: rest

/-- Trimming the empty text leaves it empty. -/
@[simp] theorem trim_nil : trim [] = [] := rfl

end HttpExchange.Text
