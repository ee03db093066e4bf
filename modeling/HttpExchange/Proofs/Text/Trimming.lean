import HttpExchange.Text.Blank
import Mathlib.Data.List.DropRight

/-! # Trimming

    What trimming leaves is part of the text, has everything that is not
    blank, and is left alone when it is trimmed again.  A text is its own
    trimmed form as soon as trimming does not shorten it. -/

namespace HttpExchange.Text

variable {cs : List Char}

theorem trim_eq (cs : List Char) : trim cs = (cs.dropWhile isBlank).rdropWhile isBlank := rfl

theorem trim_sublist (cs : List Char) : (trim cs).Sublist cs :=
  (List.rdropWhile_prefix isBlank _).sublist.trans (List.dropWhile_suffix isBlank).sublist

theorem mem_of_mem_trim {c : Char} (h : c ∈ trim cs) : c ∈ cs := (trim_sublist cs).subset h

/-- A text that trimming does not shorten is its own trimmed form. -/
theorem trim_eq_self_of_le (h : cs.length ≤ (trim cs).length) : trim cs = cs :=
  (trim_sublist cs).eq_of_length_le h

/-- A character that is not blank is not dropped from the front. -/
theorem mem_dropWhile_blank {c : Char} (hc : isBlank c = false) (h : c ∈ cs) :
    c ∈ cs.dropWhile isBlank := by
  rw [← List.takeWhile_append_dropWhile (p := isBlank) (l := cs)] at h
  rcases List.mem_append.mp h with ht | hd
  · rw [List.mem_takeWhile_imp ht] at hc
    exact Bool.noConfusion hc
  · exact hd

theorem mem_trim {c : Char} (hc : isBlank c = false) (h : c ∈ cs) : c ∈ trim cs := by
  have hd : c ∈ (cs.dropWhile isBlank).reverse := List.mem_reverse.mpr (mem_dropWhile_blank hc h)
  exact List.mem_reverse.mpr (mem_dropWhile_blank hc hd)

/-- A text without blanks is its own trimmed form. -/
theorem trim_of_not_blank (h : ∀ c ∈ cs, isBlank c = false) : trim cs = cs := by
  have hfront : cs.dropWhile isBlank = cs := by
    cases cs with
    | nil => rfl
    | cons c cs =>
        exact List.dropWhile_cons_of_neg (Bool.eq_false_iff.mp (h c List.mem_cons_self))
  rw [trim_eq, hfront, List.rdropWhile_eq_self_iff]
  intro hne
  rw [h _ (List.getLast_mem hne)]
  exact Bool.false_ne_true

/-- A text with something that is not blank at both ends is its own trimmed
    form. -/
theorem trim_of_ends {first last : Char} (hfirst : isBlank first = false)
    (hlast : isBlank last = false) (cs : List Char) :
    trim (first :: (cs ++ [last])) = first :: (cs ++ [last]) := by
  rw [trim_eq, List.dropWhile_cons_of_neg (Bool.eq_false_iff.mp hfirst), ← List.cons_append,
    List.rdropWhile_concat_neg _ _ _ (Bool.eq_false_iff.mp hlast)]

theorem trim_cons_blank {c : Char} (hc : isBlank c = true) (cs : List Char) :
    trim (c :: cs) = trim cs := by
  rw [trim_eq, trim_eq, List.dropWhile_cons_of_pos hc]

/-- What is left once the blanks at the end are dropped starts as before. -/
theorem dropWhile_rdropWhile (cs : List Char) :
    ((cs.dropWhile isBlank).rdropWhile isBlank).dropWhile isBlank
      = (cs.dropWhile isBlank).rdropWhile isBlank := by
  obtain ⟨tail, htail⟩ := List.rdropWhile_prefix isBlank (cs.dropWhile isBlank)
  cases h : (cs.dropWhile isBlank).rdropWhile isBlank with
  | nil => rfl
  | cons c rest =>
      rw [h] at htail
      have hc := List.head?_dropWhile_not isBlank cs
      rw [← htail] at hc
      exact List.dropWhile_cons_of_neg (Bool.eq_false_iff.mp hc)

/-- **Trimming twice is trimming once.** -/
@[simp] theorem trim_trim (cs : List Char) : trim (trim cs) = trim cs := by
  rw [trim_eq (trim cs), trim_eq cs, dropWhile_rdropWhile]
  exact List.rdropWhile_idempotent isBlank _

end HttpExchange.Text
