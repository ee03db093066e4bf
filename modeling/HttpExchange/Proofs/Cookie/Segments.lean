import HttpExchange.Proofs.Cookie.HeaderFailing

/-! # What the segments of a header say

    A segment is one attribute at most: its keyword is known and its value can
    be used, or it is passed over.  What it says does not depend on the
    segments around it, so the attributes of a header, and the records about
    what was passed over, are read off segment by segment.

    * `read_segment` is what becomes of one segment;
    * `applyAll_attributesOf` puts a header together: what is left of the
      reader is a fold over the attributes that were read. -/

namespace HttpExchange.Cookie

open Text

variable {now : Reading} {segment : List Char}

/-! ## Segments -/

/-- The text before the first equals sign of a segment, without the blanks
    around it. -/
def keyOf (segment : List Char) : List Char := trim (partition '=' segment).1

/-- The keyword of a segment: its key in lower case. -/
def keyword (segment : List Char) : List Char := lower (keyOf segment)

/-- The text after the first equals sign of a segment, without the blanks
    around it. -/
def textOf (segment : List Char) : List Char := trim ((partition '=' segment).2.getD [])

/-- The value of a segment: its text without quotes. -/
def valueOf (segment : List Char) : List Char := unquote (textOf segment)

theorem bare_textOf (segment : List Char) : bare (textOf segment) = valueOf segment := by
  rw [valueOf, textOf, bare_trim, bare]

/-- What a segment says, if its keyword is known and its value can be used. -/
def attributeIn? (now : Reading) (segment : List Char) : Option Attribute :=
  (Keyword.ofText? (keyword segment)).bind (Keyword.attribute? now (valueOf segment))

/-- Is a segment reported?  It has a key, and its keyword is unknown or its
    value cannot be used. -/
def isReported (now : Reading) (segment : List Char) : Bool :=
  !(keyOf segment).isEmpty &&
    match Keyword.ofText? (keyword segment) with
    | none => true
    | some k => (k.attribute? now (valueOf segment)).isNone

/-- The record about a segment of the header of a cookie with the name. -/
def report (name : List Char) (segment : List Char) : Log.Record :=
  ⟨.debug, .cookie,
    match Keyword.ofText? (keyword segment) with
    | some k =>
        "Ignoring invalid " ++ k.label ++ " " ++ quoteString (String.ofList (valueOf segment))
          ++ " of cookie " ++ quoteString (String.ofList name)
    | none =>
        "Ignoring unknown attribute " ++ quoteString (String.ofList (keyOf segment))
          ++ " of cookie " ++ quoteString (String.ofList name)⟩

theorem isReported_of_key_nil (h : keyOf segment = []) : isReported now segment = false := by
  rw [isReported, h]
  rfl

/-- A segment with a key is reported if it says nothing. -/
theorem isReported_of_key_ne_nil (now : Reading) (h : keyOf segment ≠ []) :
    isReported now segment = (attributeIn? now segment).isNone := by
  rw [isReported, List.isEmpty_eq_false_iff.mpr h, attributeIn?]
  cases Keyword.ofText? (keyword segment) with
  | none => rfl
  | some k => rfl

/-- A segment without a key says nothing. -/
theorem attributeIn?_of_key_nil (h : keyOf segment = []) : attributeIn? now segment = none := by
  rw [attributeIn?, keyword, h]
  rfl

/-- Segments without a key are no attributes, any other one is its key and its
    text. -/
theorem attributesOf_cons (segment : List Char) (rest : List (List Char)) :
    attributesOf (segment :: rest)
      = if keyOf segment = [] then attributesOf rest
        else (keyOf segment, textOf segment) :: attributesOf rest := by
  have htext : ((partition '=' segment).2.map trim).getD [] = textOf segment := by
    rw [textOf]
    cases (partition '=' segment).2 with
    | none => rfl
    | some after => rfl
  by_cases hkey : keyOf segment = []
  · rw [if_pos hkey, attributesOf, List.map_cons, List.filterMap_cons_none, attributesOf]
    exact if_pos (List.isEmpty_iff.mpr hkey)
  · rw [if_neg hkey, attributesOf, List.map_cons, List.filterMap_cons_some, attributesOf]
    rw [← htext]
    exact if_neg (fun h => hkey (List.isEmpty_iff.mp h))

/-- The attributes of segments are their keys and texts. -/
theorem mem_attributesOf_iff {others : List (List Char)} {key value : List Char} :
    (key, value) ∈ attributesOf others ↔
      ∃ segment ∈ others, keyOf segment ≠ [] ∧ key = keyOf segment ∧ value = textOf segment := by
  induction others with
  | nil =>
      constructor
      · exact fun h => absurd h List.not_mem_nil
      · rintro ⟨segment, hsegment, -⟩
        exact absurd hsegment List.not_mem_nil
  | cons first rest ih =>
      rw [attributesOf_cons, List.exists_mem_cons_iff]
      by_cases hkey : keyOf first = []
      · rw [if_pos hkey, ih]
        exact (or_iff_right fun h => h.1 hkey).symm
      · rw [if_neg hkey, List.mem_cons, ih, Prod.mk.injEq]
        exact or_congr_left (and_iff_right hkey).symm

/-- **A segment with a key** is read as what it says, or reported. -/
theorem read_segment (hreckonable : ¬ Beyond now (keyOf segment) (textOf segment)) :
    (∃ a, attributeIn? now segment = some a ∧
      Attribute.read now (keyOf segment) (textOf segment) = .ok a) ∨
    (attributeIn? now segment = none ∧
      ∃ problem, Attribute.read now (keyOf segment) (textOf segment) = .error problem ∧
        ∀ name : List Char, problem.record? (.str (String.ofList name))
          = some (report name segment)) := by
  have htrim : lower (trim (keyOf segment)) = keyword segment := by
    rw [keyword, keyOf, trim_trim]
  have hreads := reads_read now (keyOf segment) (textOf segment)
  generalize Attribute.read now (keyOf segment) (textOf segment) = outcome at hreads ⊢
  cases hreads with
  | valid hkey hvalue =>
      have hknown := Keyword.ofText?_eq_some_iff.mpr (htrim.symm.trans hkey)
      rw [bare_textOf] at hvalue
      refine Or.inl ⟨_, ?_, rfl⟩
      rw [attributeIn?, hknown]
      exact hvalue
  | invalid hkey hvalue =>
      have hknown := Keyword.ofText?_eq_some_iff.mpr (htrim.symm.trans hkey)
      rw [bare_textOf] at hvalue ⊢
      refine Or.inr ⟨?_, _, rfl, ?_⟩
      · rw [attributeIn?, hknown]
        exact hvalue
      · intro name
        rw [report, hknown]
        rfl
  | fatal hkey hdate hfault => exact absurd ⟨hkey, _, hdate, hfault⟩ hreckonable
  | unknown hkey =>
      rw [htrim] at hkey
      refine Or.inr ⟨?_, _, rfl, ?_⟩
      · rw [attributeIn?, hkey]
        rfl
      · intro name
        rw [report, hkey]
        rfl

/-! ## Headers -/

/-- **What the reader does with segments**: it applies what they say, in order,
    and reports those that say nothing. -/
theorem applyAll_attributesOf {others : List (List Char)} {name : List Char} {d : Draft}
    (hname : d.cookie.name = .str (String.ofList name))
    (hreckonable : ∀ key value, (key, value) ∈ attributesOf others → ¬ Beyond now key value) :
    d.applyAll now (attributesOf others)
      = ⟨(others.filter (isReported now)).map (report name),
          .ok ((others.filterMap (attributeIn? now)).foldl Draft.apply d)⟩ := by
  induction others generalizing d with
  | nil => rfl
  | cons segment rest ih =>
      rw [attributesOf_cons] at hreckonable ⊢
      by_cases hkey : keyOf segment = []
      · rw [if_pos hkey] at hreckonable ⊢
        have hpassed : ¬ isReported now segment = true := by
          rw [isReported_of_key_nil hkey]
          exact Bool.false_ne_true
        rw [ih hname hreckonable, List.filter_cons_of_neg hpassed,
          List.filterMap_cons_none (attributeIn?_of_key_nil hkey)]
      · rw [if_neg hkey] at hreckonable ⊢
        have hrest : ∀ key value, (key, value) ∈ attributesOf rest → ¬ Beyond now key value :=
          fun key value hmem => hreckonable key value (List.mem_cons_of_mem _ hmem)
        have hreported := isReported_of_key_ne_nil now hkey
        rw [Draft.applyAll]
        rcases read_segment (hreckonable _ _ List.mem_cons_self) with
          ⟨a, hattribute, hread⟩ | ⟨hattribute, problem, hread, hrecord⟩
        · have hpassed : ¬ isReported now segment = true := by
            rw [hreported, hattribute]
            exact Bool.false_ne_true
          -- the records about the rest still have the right name
          have happlied : (d.apply a).cookie.name = .str (String.ofList name) := by
            rw [(apply_pair d a).1]
            exact hname
          rw [hread, List.filterMap_cons_some hattribute, List.filter_cons_of_neg hpassed]
          exact ih happlied hrest
        · rw [hattribute] at hreported
          rw [hread, List.filterMap_cons_none hattribute, List.filter_cons_of_pos hreported]
          dsimp only
          rw [hname, hrecord name, ih hname hrest]
          rfl

end HttpExchange.Cookie
