import HttpExchange.Cookie.Header
import HttpExchange.Proofs.Cookie.AttributeReading
import HttpExchange.Proofs.Number.IntegerReading

/-! # How headers are read

    A header that is read is cut at its semicolons, so no field of the cookie
    holds one, and its name comes from before the first equals sign.  The other
    way round, the parts of a written header turn a cookie without attributes
    into the cookie with the attribute that the part stands for, one part after
    the other. -/

namespace HttpExchange.Cookie

open Text

variable {now : Reading}

/-! ## The pieces of a header -/

/-- The name and the value in a segment come from before and after its first
    equals sign. -/
theorem namedPair?_eq_some {segment name value : List Char}
    (h : namedPair? segment = some (name, value)) :
    ∃ after, (partition '=' segment).2 = some after ∧ name = trim (partition '=' segment).1 ∧
      name ≠ [] ∧ value = bare after := by
  rw [namedPair?, keyValue] at h
  dsimp only at h
  cases hafter : (partition '=' segment).2 with
  | none =>
      rw [hafter] at h
      exact nomatch h
  | some after =>
      rw [hafter] at h
      dsimp only [Option.map_some] at h
      cases hempty : (trim (partition '=' segment).1).isEmpty with
      | true =>
          rw [hempty] at h
          exact nomatch h
      | false =>
          rw [hempty] at h
          have hpair := Option.some.inj h
          have hname : trim (partition '=' segment).1 = name := congrArg Prod.fst hpair
          have hvalue : bare after = value := congrArg Prod.snd hpair
          refine ⟨after, rfl, hname.symm, ?_, hvalue.symm⟩
          rw [← hname]
          exact List.isEmpty_eq_false_iff.mp hempty

/-- What a segment holds before and after its first equals sign is part of
    it. -/
theorem mem_of_mem_attributesOf {others : List (List Char)} {key value : List Char}
    (h : (key, value) ∈ attributesOf others) :
    ∃ segment ∈ others, ∀ c ∈ value, c ∈ segment := by
  rw [attributesOf, List.mem_filterMap] at h
  obtain ⟨pair, hpair, hsome⟩ := h
  obtain ⟨segment, hsegment, rfl⟩ := List.mem_map.mp hpair
  refine ⟨segment, hsegment, ?_⟩
  rw [keyValue] at hsome
  dsimp only at hsome
  split at hsome
  · exact nomatch hsome
  · have hvalue := congrArg Prod.snd (Option.some.inj hsome)
    dsimp only at hvalue
    intro c hc
    rw [← hvalue] at hc
    cases hafter : (partition '=' segment).2 with
    | none =>
        rw [hafter] at hc
        exact absurd hc List.not_mem_nil
    | some after =>
        rw [hafter] at hc
        exact mem_of_mem_partition_snd hafter (mem_of_mem_trim hc)

/-- **What a header that is read consists of**: a first segment with a name
    and a value, and segments with attributes. -/
theorem parse_eq_ok {header : String} {c : Cookie} (h : (parse header now).result = .ok c) :
    ∃ name value, namedPair? (segments ';' header.toList).1 = some (name, value) ∧
      ((ofText name value).withAttributes now
        (attributesOf (segments ';' header.toList).2)).result = .ok c := by
  rw [parse] at h
  split at h
  · exact nomatch h
  · dsimp only at h
    cases hpair : namedPair? (segments ';' header.toList).1 with
    | none =>
        rw [hpair] at h
        exact nomatch h
    | some pair =>
        rw [hpair] at h
        exact ⟨pair.1, pair.2, rfl, h⟩

/-- The name of a cookie that was read is text without semicolons and equals
    signs, and there are no blanks around it. -/
theorem name_of_parse {header : String} {c : Cookie} (h : (parse header now).result = .ok c) :
    Holds (fun name => name ≠ [] ∧ trim name = name ∧ '=' ∉ name ∧ ';' ∉ name) c.name := by
  obtain ⟨name, value, hpair, hattributes⟩ := parse_eq_ok h
  obtain ⟨after, hafter, rfl, hne, -⟩ := namedPair?_eq_some hpair
  refine ⟨_, (withAttributes_pair hattributes).1, ?_⟩
  rw [String.toList_ofList]
  refine ⟨hne, trim_trim _, ?_, ?_⟩
  · intro hmem
    exact not_mem_partition_fst '=' _ (mem_of_mem_trim hmem)
  · intro hmem
    exact (not_mem_segments ';' header.toList).1
      ((partition_fst_sublist '=' _).subset (mem_of_mem_trim hmem))

/-- **The texts of a cookie that was read** are what is read from texts that are
    part of the header and hold no semicolon. -/
theorem texts_of_parse {header : String} {c : Cookie} {P : List Char → Prop}
    (hP : ∀ text, (∀ ch ∈ text, ch ∈ header.toList) → ';' ∉ text → P (bare text))
    (h : (parse header now).result = .ok c) : Holds P c.value ∧ TextFields P c := by
  obtain ⟨name, value, hpair, hattributes⟩ := parse_eq_ok h
  obtain ⟨after, hafter, -, -, rfl⟩ := namedPair?_eq_some hpair
  obtain ⟨hfirst, hothers⟩ := not_mem_segments ';' header.toList
  constructor
  · refine ⟨_, (withAttributes_pair hattributes).2, ?_⟩
    rw [String.toList_ofList]
    refine hP after ?_ (fun hmem => hfirst (mem_of_mem_partition_snd hafter hmem))
    intro ch hch
    exact (segments_fst_sublist ';' header.toList).subset (mem_of_mem_partition_snd hafter hch)
  · have hempty : P [] := hP [] (fun _ hch => absurd hch List.not_mem_nil) List.not_mem_nil
    refine withAttributes_textFields (TextFields.ofText hempty name _) ?_ hattributes
    intro key value hmem
    obtain ⟨segment, hsegment, hsub⟩ := mem_of_mem_attributesOf hmem
    refine hP value ?_ (fun hsemi => hothers segment hsegment (hsub ';' hsemi))
    intro ch hch
    exact mem_of_mem_segments hsegment (hsub ch hch)

theorem not_mem_bare {text : List Char} (h : ';' ∉ text) : ';' ∉ bare text :=
  fun hmem => h ((bare_sublist text).subset hmem)

theorem value_of_parse {header : String} {c : Cookie} (h : (parse header now).result = .ok c) :
    Holds (';' ∉ ·) c.value :=
  (texts_of_parse (fun _ _ => not_mem_bare) h).1

/-- The texts that the attributes of a header set hold no semicolon. -/
theorem textFields_of_parse {header : String} {c : Cookie}
    (h : (parse header now).result = .ok c) : TextFields (';' ∉ ·) c :=
  (texts_of_parse (fun _ _ => not_mem_bare) h).2

/-! ## The attribute that a part stands for -/

/-- Do the parts of a header, each behind a blank, turn a draft into another
    without a report? -/
def Turns (now : Reading) (parts : List (List Char)) (d e : Draft) : Prop :=
  d.applyAll now (attributesOf (parts.map (' ' :: ·))) = ⟨[], .ok e⟩

theorem Turns.nil (d : Draft) : Turns now [] d d := rfl

/-- Attributes that are applied without a report are followed by the others. -/
theorem applyAll_append {d e : Draft} {first second : List (List Char × List Char)}
    (h : d.applyAll now first = ⟨[], .ok e⟩) :
    d.applyAll now (first ++ second) = e.applyAll now second := by
  induction first generalizing d with
  | nil =>
      have he : d = e := Except.ok.inj (congrArg Outcome.result h)
      rw [he]
      rfl
  | cons pair first ih =>
      obtain ⟨key, value⟩ := pair
      rw [Draft.applyAll] at h
      rw [List.cons_append, Draft.applyAll]
      cases hread : Attribute.read now key value with
      | ok a =>
          rw [hread] at h
          exact ih h
      | error problem =>
          -- a problem leaves a record or is the end, and here there is neither
          rw [hread] at h
          dsimp only at h
          cases hrecord : problem.record? d.cookie.name with
          | some record =>
              rw [hrecord] at h
              have hlog := congrArg Outcome.log h
              exact absurd hlog (List.cons_ne_nil record _)
          | none =>
              rw [hrecord] at h
              cases congrArg Outcome.result h

/-- Parts behind parts turn the draft that the first ones leave. -/
theorem Turns.append {first second : List (List Char)} {d e f : Draft}
    (h : Turns now first d e) (h' : Turns now second e f) : Turns now (first ++ second) d f := by
  have happend : attributesOf ((first ++ second).map (' ' :: ·))
      = attributesOf (first.map (' ' :: ·)) ++ attributesOf (second.map (' ' :: ·)) := by
    rw [attributesOf, attributesOf, attributesOf, List.map_append, List.map_append,
      List.filterMap_append]
  rw [Turns, happend, applyAll_append h]
  exact h'

/-- May the text stand for a key?  It is not empty, it holds no equals sign,
    and no blanks stand around it. -/
def IsKey (key : List Char) : Prop := key ≠ [] ∧ '=' ∉ key ∧ trim key = key

instance : DecidablePred IsKey := fun key =>
  inferInstanceAs (Decidable (key ≠ [] ∧ '=' ∉ key ∧ trim key = key))

theorem IsKey.trim_cons {key : List Char} (h : IsKey key) : trim (' ' :: key) = key := by
  rw [trim_cons_blank (by decide), h.2.2]

theorem IsKey.not_mem_cons {key : List Char} (h : IsKey key) : '=' ∉ ' ' :: key := by
  intro hmem
  rcases List.mem_cons.mp hmem with e | hmem
  · exact absurd e (by decide)
  · exact h.2.1 hmem

/-- A part with a value turns a draft by the attribute that is read from its
    key and value. -/
theorem turns_valued (key : String) {value : List Char} {a : Attribute} (hkey : IsKey key.toList)
    (h : Attribute.read now key.toList (trim value) = .ok a) (d : Draft) :
    Turns now [valued key value] d (d.apply a) := by
  have hattributes : attributesOf [' ' :: valued key value] = [(key.toList, trim value)] := by
    rw [attributesOf, List.map_singleton, keyValue]
    show List.filterMap _ [(trim (partition '=' (' ' :: key.toList ++ '=' :: value)).1,
      (partition '=' (' ' :: key.toList ++ '=' :: value)).2.map trim)] = _
    rw [partition_append hkey.not_mem_cons, hkey.trim_cons, List.filterMap_cons_some]
    · rfl
    · exact if_neg (by rw [List.isEmpty_eq_false_iff.mpr hkey.1]; exact Bool.false_ne_true)
  rw [Turns, List.map_singleton, hattributes, Draft.applyAll, h]
  rfl

/-- A part without a value turns a draft by the attribute that is read from
    its key. -/
theorem turns_key (key : String) {a : Attribute} (hkey : IsKey key.toList)
    (h : Attribute.read now key.toList [] = .ok a) (d : Draft) :
    Turns now [key.toList] d (d.apply a) := by
  have hattributes : attributesOf [' ' :: key.toList] = [(key.toList, [])] := by
    rw [attributesOf, List.map_singleton, keyValue, partition_of_not_mem hkey.not_mem_cons]
    dsimp only
    rw [hkey.trim_cons, List.filterMap_cons_some]
    · rfl
    · exact if_neg (by rw [List.isEmpty_eq_false_iff.mpr hkey.1]; exact Bool.false_ne_true)
  rw [Turns, List.map_singleton, hattributes, Draft.applyAll, h]
  rfl

end HttpExchange.Cookie
