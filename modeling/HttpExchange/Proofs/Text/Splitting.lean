import HttpExchange.Text.Blank
import HttpExchange.Text.Split

/-! # Splitting and joining

    No piece holds the separator that the text was cut at, and pieces hold
    nothing that the text does not hold.  Pieces without the separator come
    back when they are joined and cut again, each with the blank that the
    joining put in front of it; words come back from between blanks. -/

namespace HttpExchange.Text

variable {sep : Char}

/-! ## Cutting at the first separator -/

/-- The text before the first separator does not hold it. -/
theorem not_mem_partition_fst (sep : Char) (cs : List Char) : sep ∉ (partition sep cs).1 := by
  induction cs with
  | nil => exact List.not_mem_nil
  | cons c cs ih =>
      rw [partition]
      by_cases hc : c = sep
      · rw [if_pos hc]
        exact List.not_mem_nil
      · rw [if_neg hc]
        intro h
        rcases List.mem_cons.mp h with e | h
        · exact hc e.symm
        · exact ih h

/-- A text with a separator is what stands before it, the separator and what
    stands after it. -/
theorem eq_of_partition_some {cs after : List Char} (h : (partition sep cs).2 = some after) :
    cs = (partition sep cs).1 ++ sep :: after := by
  induction cs with
  | nil => exact nomatch h
  | cons c cs ih =>
      rw [partition] at h ⊢
      by_cases hc : c = sep
      · rw [if_pos hc] at h ⊢
        have he : cs = after := Option.some.inj h
        rw [he, hc]
        rfl
      · rw [if_neg hc] at h ⊢
        exact congrArg (c :: ·) (ih h)

/-- What stands before the first separator is part of the text. -/
theorem partition_fst_sublist (sep : Char) (cs : List Char) :
    (partition sep cs).1.Sublist cs := by
  induction cs with
  | nil => exact List.Sublist.slnil
  | cons c cs ih =>
      rw [partition]
      by_cases hc : c = sep
      · rw [if_pos hc]
        exact List.nil_sublist _
      · rw [if_neg hc]
        exact ih.cons_cons c

theorem mem_of_mem_partition_snd {cs after : List Char} {c : Char}
    (h : (partition sep cs).2 = some after) (hc : c ∈ after) : c ∈ cs := by
  rw [eq_of_partition_some h]
  exact List.mem_append_right _ (List.mem_cons_of_mem sep hc)

/-! ## Cutting at the last separator -/

/-- A text that is not cut is left whole. -/
theorem eq_of_partitionLast_none {cs : List Char} (h : (partitionLast sep cs).1 = none) :
    (partitionLast sep cs).2 = cs := by
  induction cs with
  | nil => rfl
  | cons c cs ih =>
      rw [partitionLast] at h ⊢
      split at h
      · exact nomatch h
      · next after hcut =>
        rw [hcut] at ih
        by_cases hc : c = sep
        · rw [if_pos hc] at h
          exact nomatch h
        · rw [if_neg hc]
          exact congrArg (c :: ·) (ih rfl)

/-- A text that is cut at its last separator is what stands before it, the
    separator and what stands after it. -/
theorem eq_of_partitionLast_some {cs before : List Char}
    (h : (partitionLast sep cs).1 = some before) :
    cs = before ++ sep :: (partitionLast sep cs).2 := by
  induction cs generalizing before with
  | nil => exact nomatch h
  | cons c cs ih =>
      rw [partitionLast] at h ⊢
      split at h
      · next front after hcut =>
        rw [hcut] at ih
        obtain rfl := Option.some.inj h
        exact congrArg (c :: ·) (ih rfl)
      · next after hcut =>
        -- nothing is cut off behind the character, so it is the last separator or none is
        have hafter := eq_of_partitionLast_none (congrArg Prod.fst hcut)
        rw [hcut] at hafter
        by_cases hc : c = sep
        · rw [if_pos hc] at h ⊢
          obtain rfl := Option.some.inj h
          rw [hc]
          exact congrArg (sep :: ·) hafter.symm
        · rw [if_neg hc] at h
          exact nomatch h

/-- A text with the separator is cut at the last one. -/
theorem partitionLast_of_mem {cs : List Char} (h : sep ∈ cs) :
    ∃ before, (partitionLast sep cs).1 = some before := by
  induction cs with
  | nil => exact absurd h List.not_mem_nil
  | cons c cs ih =>
      rw [partitionLast]
      split
      · exact ⟨_, rfl⟩
      · next after hcut =>
        by_cases hc : c = sep
        · rw [if_pos hc]
          exact ⟨[], rfl⟩
        · obtain ⟨before, hbefore⟩ := ih ((List.mem_cons.mp h).resolve_left (Ne.symm hc))
          rw [hcut] at hbefore
          exact nomatch hbefore

/-- What stands behind the last separator does not hold it. -/
theorem not_mem_partitionLast_snd (sep : Char) (cs : List Char) :
    sep ∉ (partitionLast sep cs).2 := by
  induction cs with
  | nil => exact List.not_mem_nil
  | cons c cs ih =>
      rw [partitionLast]
      split
      · next before after hcut =>
        rw [hcut] at ih
        exact ih
      · next after hcut =>
        rw [hcut] at ih
        by_cases hc : c = sep
        · rw [if_pos hc]
          exact ih
        · rw [if_neg hc]
          intro hmem
          rcases List.mem_cons.mp hmem with rfl | hmem
          · exact hc rfl
          · exact ih hmem

/-! ## Cutting at every separator -/

theorem segments_cons {c : Char} (hc : c ≠ sep) (cs : List Char) :
    segments sep (c :: cs) = (c :: (segments sep cs).1, (segments sep cs).2) := by
  rw [segments]
  exact if_neg hc

theorem segments_sep (cs : List Char) : segments sep (sep :: cs) = ([], pieces sep cs) := by
  rw [segments]
  exact if_pos rfl

/-- The pieces before and behind a separator. -/
theorem pieces_append (cs ds : List Char) :
    pieces sep (cs ++ sep :: ds) = pieces sep cs ++ pieces sep ds := by
  rw [pieces, segments_append, pieces]
  rfl

/-- No piece holds the separator. -/
theorem not_mem_segments (sep : Char) (cs : List Char) :
    sep ∉ (segments sep cs).1 ∧ ∀ piece ∈ (segments sep cs).2, sep ∉ piece := by
  induction cs with
  | nil => exact ⟨List.not_mem_nil, fun piece h => absurd h List.not_mem_nil⟩
  | cons c cs ih =>
      obtain ⟨ihfirst, ihothers⟩ := ih
      by_cases hc : c = sep
      · rw [hc, segments_sep]
        refine ⟨List.not_mem_nil, ?_⟩
        intro piece h
        rcases List.mem_cons.mp h with rfl | h
        · exact ihfirst
        · exact ihothers piece h
      · rw [segments_cons hc]
        refine ⟨?_, ihothers⟩
        intro h
        rcases List.mem_cons.mp h with e | h
        · exact hc e.symm
        · exact ihfirst h

/-- The first piece is part of the text. -/
theorem segments_fst_sublist (sep : Char) (cs : List Char) : (segments sep cs).1.Sublist cs := by
  induction cs with
  | nil => exact List.Sublist.slnil
  | cons c cs ih =>
      by_cases hc : c = sep
      · rw [hc, segments_sep]
        exact List.nil_sublist _
      · rw [segments_cons hc]
        exact ih.cons_cons c

/-- The other pieces hold nothing that the text does not hold. -/
theorem mem_of_mem_segments {cs piece : List Char} {c : Char}
    (hpiece : piece ∈ (segments sep cs).2) (hc : c ∈ piece) : c ∈ cs := by
  induction cs with
  | nil => exact absurd hpiece List.not_mem_nil
  | cons d cs ih =>
      by_cases hd : d = sep
      · rw [hd, segments_sep] at hpiece
        rcases List.mem_cons.mp hpiece with rfl | hpiece
        · exact List.mem_cons_of_mem d ((segments_fst_sublist sep cs).subset hc)
        · exact List.mem_cons_of_mem d (ih hpiece)
      · rw [segments_cons hd] at hpiece
        exact List.mem_cons_of_mem d (ih hpiece)

theorem mem_intercalate_cons {c : Char} {between first : List Char} (h : c ∈ first)
    (others : List (List Char)) : c ∈ between.intercalate (first :: others) := by
  cases others with
  | nil =>
      rw [List.intercalate_singleton]
      exact h
  | cons second others =>
      rw [List.intercalate_cons_cons, List.append_assoc]
      exact List.mem_append_left _ h

theorem intercalate_cons {between : List Char} (c : Char) (first : List Char)
    (others : List (List Char)) :
    between.intercalate ((c :: first) :: others) = c :: between.intercalate (first :: others) := by
  cases others with
  | nil => rw [List.intercalate_singleton, List.intercalate_singleton]
  | cons second others =>
      rw [List.intercalate_cons_cons, List.intercalate_cons_cons]
      rfl

/-- Pieces behind blanks are joined by the separator alone. -/
theorem intercalate_blanks (blank : Char) (first : List Char) (others : List (List Char)) :
    [sep].intercalate (first :: others.map (blank :: ·))
      = [sep, blank].intercalate (first :: others) := by
  induction others generalizing first with
  | nil => rw [List.map_nil, List.intercalate_singleton, List.intercalate_singleton]
  | cons second others ih =>
      rw [List.map_cons, List.intercalate_cons_cons, List.intercalate_cons_cons,
        intercalate_cons, ih second]
      simp only [List.append_assoc, List.cons_append, List.nil_append]

/-- **Joined pieces come apart again.** -/
theorem segments_join (first : List Char) (others : List (List Char)) (hfirst : sep ∉ first)
    (hothers : ∀ piece ∈ others, sep ∉ piece) :
    segments sep ([sep].intercalate (first :: others)) = (first, others) := by
  induction others generalizing first with
  | nil =>
      rw [List.intercalate_singleton, segments_of_not_mem hfirst]
  | cons second others ih =>
      have hsecond : sep ∉ second := hothers second List.mem_cons_self
      have hrest : ∀ piece ∈ others, sep ∉ piece :=
        fun piece h => hothers piece (List.mem_cons_of_mem second h)
      rw [List.intercalate_cons_cons, List.append_assoc]
      show segments sep (first ++ sep :: [sep].intercalate (second :: others)) = _
      rw [segments_append, segments_of_not_mem hfirst, pieces, ih second hsecond hrest]
      rfl

/-- If the separator and a blank stand between the pieces, every piece but the
    first comes back with a blank in front. -/
theorem segments_intercalate {blank : Char} (hb : blank ≠ sep) (first : List Char)
    (others : List (List Char)) (hfirst : sep ∉ first) (hothers : ∀ piece ∈ others, sep ∉ piece) :
    segments sep ([sep, blank].intercalate (first :: others))
      = (first, others.map (blank :: ·)) := by
  rw [← intercalate_blanks]
  refine segments_join first _ hfirst ?_
  intro piece hpiece hmem
  obtain ⟨other, hother, rfl⟩ := List.mem_map.mp hpiece
  exact hothers other hother ((List.mem_cons.mp hmem).resolve_left (Ne.symm hb))

/-! ## Cutting at blanks -/

/-- The words of a text, scanned from its end. -/
def scanned (cs : List Char) : List Char × List (List Char) :=
  cs.foldr (fun c scan => if isBlank c then
      ([], if scan.1.isEmpty then scan.2 else scan.1 :: scan.2) else (c :: scan.1, scan.2))
    ([], [])

theorem words_eq (cs : List Char) :
    words cs = if (scanned cs).1.isEmpty then (scanned cs).2
      else (scanned cs).1 :: (scanned cs).2 := rfl

theorem scanned_append {word : List Char} (h : ∀ c ∈ word, isBlank c = false) (cs : List Char) :
    scanned (word ++ cs) = (word ++ (scanned cs).1, (scanned cs).2) := by
  induction word with
  | nil => rfl
  | cons c word ih =>
      have hc : ¬ isBlank c = true := by
        rw [h c List.mem_cons_self]
        exact Bool.false_ne_true
      have hword := ih fun d hd => h d (List.mem_cons_of_mem c hd)
      show (if isBlank c then _ else (c :: (scanned (word ++ cs)).1, (scanned (word ++ cs)).2)) = _
      rw [if_neg hc, hword]
      rfl

/-- **A word ends at a blank**, and the others are those behind it. -/
theorem words_append_blank {word : List Char} {blank : Char} (hne : word ≠ [])
    (h : ∀ c ∈ word, isBlank c = false) (hblank : isBlank blank = true) (cs : List Char) :
    words (word ++ blank :: cs) = word :: words cs := by
  have hscan : scanned (blank :: cs) = ([], words cs) := if_pos hblank
  rw [words_eq, scanned_append h, hscan, List.append_nil]
  exact if_neg (by rw [List.isEmpty_eq_false_iff.mpr hne]; exact Bool.false_ne_true)

/-- A text without blanks is its only word. -/
theorem words_of_not_blank {word : List Char} (hne : word ≠ [])
    (h : ∀ c ∈ word, isBlank c = false) : words word = [word] := by
  have hscan : scanned word = (word, []) := by
    have happend := scanned_append h []
    rw [List.append_nil] at happend
    rw [happend]
    exact congrArg (·, []) (List.append_nil word)
  rw [words_eq, hscan]
  exact if_neg (by rw [List.isEmpty_eq_false_iff.mpr hne]; exact Bool.false_ne_true)

end HttpExchange.Text
