/-! # Splitting and joining at a character

    `segments` cuts a text at every occurrence of a separator and
    `partition` at the first one only. -/

namespace HttpExchange.Text

/-- The pieces between the separators: the first piece and the others.  A
    text without the separator is its own first piece. -/
def segments (sep : Char) : List Char → List Char × List (List Char)
  | [] => ([], [])
  | c :: cs =>
    let (piece, others) := segments sep cs
    if c = sep then ([], piece :: others) else (c :: piece, others)

/-- All pieces between the separators, in order. -/
def pieces (sep : Char) (cs : List Char) : List (List Char) :=
  (segments sep cs).1 :: (segments sep cs).2

/-- The text before the first separator, and the text after it if there is
    one. -/
def partition (sep : Char) : List Char → List Char × Option (List Char)
  | [] => ([], none)
  | c :: cs =>
    if c = sep then ([], some cs)
    else
      let (before, after) := partition sep cs
      (c :: before, after)

/-- The text before the last separator if there is one, and the text after
    it. -/
def partitionLast (sep : Char) : List Char → Option (List Char) × List Char
  | [] => (none, [])
  | c :: cs =>
    match partitionLast sep cs with
    | (some before, after) => (some (c :: before), after)
    | (none, after) => if c = sep then (some [], after) else (none, c :: after)

/-- Without the separator nothing is cut off. -/
theorem partition_of_not_mem {sep : Char} {cs : List Char} (h : sep ∉ cs) :
    partition sep cs = (cs, none) := by
  induction cs with
  | nil => rfl
  | cons c cs ih =>
    have hc : ¬ c = sep := fun e => h (by simp [e])
    simp [partition, hc, ih fun m => h (List.mem_cons_of_mem _ m)]

/-- A text put before a separator is what the partition finds before it. -/
theorem partition_append {sep : Char} {cs ds : List Char} (h : sep ∉ cs) :
    partition sep (cs ++ sep :: ds) = (cs, some ds) := by
  induction cs with
  | nil => simp [partition]
  | cons c cs ih =>
    have hc : ¬ c = sep := fun e => h (by simp [e])
    simp [partition, hc, ih fun m => h (List.mem_cons_of_mem _ m)]

/-- Without the separator the text is its only piece. -/
theorem segments_of_not_mem {sep : Char} {cs : List Char} (h : sep ∉ cs) :
    segments sep cs = (cs, []) := by
  induction cs with
  | nil => rfl
  | cons c cs ih =>
    have hc : ¬ c = sep := fun e => h (by simp [e])
    simp [segments, hc, ih fun m => h (List.mem_cons_of_mem _ m)]

/-- Cutting at a separator leaves the pieces on both sides of it. -/
theorem segments_append {sep : Char} (cs ds : List Char) :
    segments sep (cs ++ sep :: ds)
      = ((segments sep cs).1, (segments sep cs).2 ++ pieces sep ds) := by
  induction cs with
  | nil => simp [segments, pieces]
  | cons c cs ih =>
    by_cases hc : c = sep <;> simp [segments, hc, ih]

end HttpExchange.Text
