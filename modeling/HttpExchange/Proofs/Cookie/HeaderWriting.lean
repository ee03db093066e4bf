import HttpExchange.Cookie.Header
import HttpExchange.Proofs.Number.IntegerReading

/-! # What a written header consists of

    The parts of a header are the pair and the attributes that are set.  The
    semicolons of the header stand between its parts as long as no text of the
    cookie holds one: keys, flags, numbers and SameSite values never do. -/

namespace HttpExchange.Cookie

open Text

variable {c : Cookie}

/-! ## Values that are text -/

/-- Is the value text? -/
def IsText (v : Value) : Prop := ∃ s, v.string? = some s

/-- A value that is text is a string or a SameSite value. -/
theorem IsText.cases {v : Value} (h : IsText v) :
    (∃ s, v = .str s) ∨ ∃ s, v = .sameSite s := by
  obtain ⟨s, hs⟩ := h
  cases v with
  | str t => exact Or.inl ⟨t, rfl⟩
  | sameSite t => exact Or.inr ⟨t, rfl⟩
  | _ => exact nomatch hs

theorem IsText.truthy_iff {v : Value} (h : IsText v) : v.truthy = true ↔ v.text ≠ [] := by
  rcases h.cases with ⟨s, rfl⟩ | ⟨s, rfl⟩
  · rw [Value.truthy, Value.text_str, Bool.not_eq_true', ← Bool.not_eq_true,
      String.isEmpty_iff, ← String.toList_eq_nil_iff]
  · cases s <;> decide

/-- A string equals text with the same characters. -/
theorem IsText.equal_iff {v : Value} (h : IsText v) (s : String) :
    (Value.str s).equal v = true ↔ s.toList = v.text := by
  rcases h.cases with ⟨t, rfl⟩ | ⟨t, rfl⟩
  · rw [Value.equal, beq_iff_eq, Value.text_str, String.toList_inj]
  · rw [Value.equal, beq_iff_eq, Value.text, String.toList_inj]

/-! ## The parts -/

/-- The parts behind the pair. -/
def attributeParts (c : Cookie) (now : Option Moment) : List (List Char) :=
  (if c.isVersionOne then textPart "Comment" c.comment else [])
    ++ textPart "Domain" c.domain
    ++ textPart "Path" c.path
    ++ c.ageParts now
    ++ flagPart "Secure" c.secure
    ++ flagPart "HttpOnly" c.httpOnly
    ++ textPart "Priority" c.priority
    ++ sameSitePart c.sameSite
    ++ (if c.isVersionOne then [valued "Version" ['1']] else [])

theorem parts_eq (c : Cookie) (now : Option Moment) :
    c.parts now = c.pair :: c.attributeParts now := rfl

theorem eq_of_mem_textPart {key : String} {v : Value} {part : List Char}
    (h : part ∈ textPart key v) : part = valued key v.text := by
  rw [textPart] at h
  split at h
  · exact List.mem_singleton.mp h
  · exact absurd h List.not_mem_nil

theorem eq_of_mem_flagPart {key : String} {flag : Bool} {part : List Char}
    (h : part ∈ flagPart key flag) : part = key.toList := by
  rw [flagPart] at h
  split at h
  · exact List.mem_singleton.mp h
  · exact absurd h List.not_mem_nil

/-- What stands behind the pair when no moment is given. -/
inductive IsPart (c : Cookie) : List Char → Prop
  | comment (h : c.isVersionOne = true) : IsPart c (valued "Comment" c.comment.text)
  | domain : IsPart c (valued "Domain" c.domain.text)
  | path : IsPart c (valued "Path" c.path.text)
  | maxAge : IsPart c (valued "Max-Age" (Integer.write c.maxAge))
  | secure : IsPart c "Secure".toList
  | httpOnly : IsPart c "HttpOnly".toList
  | priority : IsPart c (valued "Priority" c.priority.text)
  | sameSite : IsPart c (valued "SameSite" c.sameSite.word.toList)
  | version : IsPart c (valued "Version" ['1'])

/-- **There are no other parts.** -/
theorem isPart_of_mem {part : List Char} (h : part ∈ c.attributeParts none) : c.IsPart part := by
  -- one case for each attribute, in the order in which they are written
  simp only [attributeParts, List.mem_append] at h
  rcases h with (((((((h | h) | h) | h) | h) | h) | h) | h) | h
  · split at h
    · next hone =>
      rw [eq_of_mem_textPart h]
      exact .comment hone
    · exact absurd h List.not_mem_nil
  · rw [eq_of_mem_textPart h]
    exact .domain
  · rw [eq_of_mem_textPart h]
    exact .path
  · rw [ageParts] at h
    split at h
    · exact absurd h List.not_mem_nil
    · rw [List.mem_singleton.mp h]
      exact .maxAge
  · rw [eq_of_mem_flagPart h]
    exact .secure
  · rw [eq_of_mem_flagPart h]
    exact .httpOnly
  · rw [eq_of_mem_textPart h]
    exact .priority
  · rw [sameSitePart] at h
    split at h
    · exact absurd h List.not_mem_nil
    · rw [List.mem_singleton.mp h]
      exact .sameSite
  · split at h
    · rw [List.mem_singleton.mp h]
      exact .version
    · exact absurd h List.not_mem_nil

/-! ## No part holds a semicolon -/

/-- A cookie in whose header the semicolons stand between the parts only. -/
structure IsFlat (c : Cookie) : Prop where
  name : ';' ∉ c.name.text
  value : ';' ∉ c.value.text
  domain : ';' ∉ c.domain.text
  path : ';' ∉ c.path.text
  priority : ';' ∉ c.priority.text
  comment : c.isVersionOne = true → ';' ∉ c.comment.text

theorem not_mem_valued {key : String} {value : List Char} (hkey : ';' ∉ key.toList)
    (hvalue : ';' ∉ value) : ';' ∉ valued key value := by
  intro h
  rcases List.mem_append.mp h with h | h
  · exact hkey h
  · rcases List.mem_cons.mp h with e | h
    · exact absurd e (by decide)
    · exact hvalue h

theorem not_mem_write (n : Int) : ';' ∉ Integer.write n := by
  have hdigits : ';' ∉ Nat.toDigits 10 n.natAbs :=
    fun h => absurd (Integer.isDigits_toDigits _ _ h) (by decide)
  rw [Integer.write]
  split
  · intro h
    rcases List.mem_cons.mp h with e | h
    · exact absurd e (by decide)
    · exact hdigits h
  · exact hdigits

theorem not_mem_word (s : SameSite) : ';' ∉ s.word.toList := by
  cases s <;> decide

/-- **The semicolons of a flat cookie stand between its parts.** -/
theorem IsFlat.not_mem_attributeParts (h : c.IsFlat) :
    ∀ part ∈ c.attributeParts none, ';' ∉ part := by
  intro part hpart
  cases isPart_of_mem hpart with
  | comment hone => exact not_mem_valued (by decide) (h.comment hone)
  | domain => exact not_mem_valued (by decide) h.domain
  | path => exact not_mem_valued (by decide) h.path
  | maxAge => exact not_mem_valued (by decide) (not_mem_write _)
  | secure => decide
  | httpOnly => decide
  | priority => exact not_mem_valued (by decide) h.priority
  | sameSite => exact not_mem_valued (by decide) (not_mem_word _)
  | version => decide

/-- A name and a value without semicolons make a pair without one. -/
theorem IsFlat.not_mem_pair (h : c.IsFlat) : ';' ∉ c.pair := by
  intro hmem
  rcases List.mem_append.mp hmem with hmem | hmem
  · exact h.name hmem
  · rcases List.mem_cons.mp hmem with e | hmem
    · exact absurd e (by decide)
    · exact h.value hmem

end HttpExchange.Cookie
