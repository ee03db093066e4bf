import HttpExchange.Proofs.Cookie.RoundTrip

/-! # How Cookie headers are read

    The pairs of a Cookie header are those of its parts, whatever the parts
    are: joining brings nothing in and hides nothing, because a part that holds
    the separator is cut in the same places on its own.  A name and a value
    that have nothing around them are read as they are. -/

namespace HttpExchange.Cookie

open Text

variable {name value : List Char}

/-! ## One segment -/

/-- A text that can stand before the equals sign of a pair. -/
structure IsName (cs : List Char) : Prop where
  ne_nil : cs ≠ []
  trim_eq : trim cs = cs
  equals_not_mem : '=' ∉ cs
  semicolon_not_mem : ';' ∉ cs

instance : DecidablePred IsName := fun cs =>
  decidable_of_iff (cs ≠ [] ∧ trim cs = cs ∧ '=' ∉ cs ∧ ';' ∉ cs)
    ⟨fun ⟨hne, htrim, hequals, hsemicolon⟩ => ⟨hne, htrim, hequals, hsemicolon⟩,
      fun h => ⟨h.ne_nil, h.trim_eq, h.equals_not_mem, h.semicolon_not_mem⟩⟩

/-- A blank in front of a segment changes nothing. -/
theorem namedPair?_blank (segment : List Char) :
    namedPair? (' ' :: segment) = namedPair? segment := by
  have hpartition : partition '=' (' ' :: segment)
      = (' ' :: (partition '=' segment).1, (partition '=' segment).2) := rfl
  rw [namedPair?, namedPair?, keyValue, keyValue, hpartition]
  dsimp only
  rw [trim_cons_blank (by decide)]

/-- **A pair is read as it is** if nothing stands around its name and its
    value. -/
theorem namedPair?_pair (hname : IsName name) (htrim : trim value = value)
    (hquoted : ¬ IsQuoted value) : namedPair? (name ++ '=' :: value) = some (name, value) := by
  rw [namedPair?, keyValue, partition_append hname.equals_not_mem]
  dsimp only [Option.map_some]
  rw [hname.trim_eq, htrim, unquote_of_not_isQuoted hquoted]
  exact if_neg (by rw [List.isEmpty_eq_false_iff.mpr hname.ne_nil]; exact Bool.false_ne_true)

/-! ## Headers -/

/-- The pairs before and behind a semicolon. -/
theorem pairsOf_append (front back : List Char) :
    pairsOf (front ++ ';' :: back) = pairsOf front ++ pairsOf back := by
  rw [pairsOf, pieces_append, List.filterMap_append, pairsOf, pairsOf]

/-- A blank in front of a header changes nothing. -/
theorem pairsOf_blank (header : List Char) : pairsOf (' ' :: header) = pairsOf header := by
  rw [pairsOf, pieces, segments_cons (by decide), List.filterMap_cons, namedPair?_blank,
    ← List.filterMap_cons, ← pieces, ← pairsOf]

/-- **The pairs of joined parts** are the pairs of the parts. -/
theorem pairsOf_intercalate (parts : List (List Char)) :
    pairsOf ([';', ' '].intercalate parts) = parts.flatMap pairsOf := by
  induction parts with
  | nil => rfl
  | cons part parts ih =>
      cases parts with
      | nil => rw [List.intercalate_singleton, List.flatMap_singleton]
      | cons second parts =>
          rw [List.intercalate_cons_cons, List.append_assoc]
          show pairsOf (part ++ ';' :: (' ' :: [';', ' '].intercalate (second :: parts))) = _
          rw [pairsOf_append, pairsOf_blank, ih, ← List.flatMap_cons]

theorem semicolon_not_mem_pair (hname : IsName name) (hvalue : IsBare value) :
    ';' ∉ name ++ '=' :: value := by
  intro h
  rcases List.mem_append.mp h with h | h
  · exact hname.semicolon_not_mem h
  · rcases List.mem_cons.mp h with e | h
    · exact absurd e (by decide)
    · exact hvalue.1 h

/-- A pair without semicolons is the only one of its part. -/
theorem pairsOf_pair (hname : IsName name) (hvalue : IsBare value) :
    pairsOf (name ++ '=' :: value) = [(name, value)] := by
  rw [pairsOf, pieces, segments_of_not_mem (semicolon_not_mem_pair hname hvalue),
    List.filterMap_cons_some (namedPair?_pair hname hvalue.2.1 hvalue.2.2)]
  rfl

/-- **The pairs of a header that was joined from pairs** are those pairs in
    order. -/
theorem pairsOf_joined {pairs : List (List Char × List Char)}
    (h : ∀ pair ∈ pairs, IsName pair.1 ∧ IsBare pair.2) :
    pairsOf ([';', ' '].intercalate (pairs.map fun pair => pair.1 ++ '=' :: pair.2))
      = pairs := by
  rw [pairsOf_intercalate]
  induction pairs with
  | nil => rfl
  | cons pair pairs ih =>
      obtain ⟨⟨hname, hvalue⟩, hrest⟩ := List.forall_mem_cons.mp h
      rw [List.map_cons, List.flatMap_cons, pairsOf_pair hname hvalue, ih hrest]
      rfl

end HttpExchange.Cookie
