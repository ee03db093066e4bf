import HttpExchange.Proofs.Json.Scalars
import HttpExchange.Proofs.Utf8.Decoding
import HttpExchange.Proofs.Value.Mapping

/-! # Written documents read back

    A document holds null, truth values, integers, texts, lists and mappings
    without loss, as long as no mapping repeats a key.  A SameSite value comes
    back as the text of its word, and nothing is said here about doubles.

    Reading counts its calls and the depth of the nesting.  The calls do not run
    out because at most every other one takes no character off the text, and the
    depth does not because reading admits more of it than writing does.

    * `readsValue_succ`, `readsItems_succ` and `readsEntries_succ` are one call
      each, and `reads_calls` any number of calls;
    * `readBytes_writeBytes` is the round trip of whole documents. -/

namespace HttpExchange

namespace Value

mutual

/-- Does a document hold the value without loss?  It is null, a truth value, an
    integer, a text, a list of such values or a mapping of distinct keys to such
    values. -/
def IsPlain : Value → Prop
  | .null | .bool _ | .int _ | .str _ => True
  | .list items => AllPlain items
  | .mapping entries => Distinct entries ∧ EntriesPlain entries
  | _ => False

/-- Does a document hold all values of the list without loss? -/
def AllPlain : List Value → Prop
  | [] => True
  | v :: vs => IsPlain v ∧ AllPlain vs

/-- Does a document hold all values of the entries without loss? -/
def EntriesPlain : List (String × Value) → Prop
  | [] => True
  | (_, v) :: rest => IsPlain v ∧ EntriesPlain rest

end

end Value

namespace Json

open Text Value

variable {dialect : Dialect} {calls depth limit : Nat} {v w : Value} {key : String}
variable {text rest : List Char}

/-! ## What is written -/

theorem writeItems?_cons_cons {vs : List Value}
    (h : writeItems? limit (v :: w :: vs) = some text) :
    ∃ first others, writeValue? limit v = some first ∧
      writeItems? limit (w :: vs) = some others ∧ text = first ++ ',' :: others := by
  rw [writeItems?] at h
  obtain ⟨first, hfirst, h⟩ := Option.bind_eq_some_iff.mp h
  obtain ⟨others, hothers, h⟩ := Option.bind_eq_some_iff.mp h
  exact ⟨first, others, hfirst, hothers, (Option.some.inj h).symm⟩

theorem writeEntries?_singleton (h : writeEntries? limit [(key, v)] = some text) :
    ∃ first, writeValue? limit v = some first ∧ text = writeText key.toList ++ ':' :: first := by
  rw [writeEntries?] at h
  obtain ⟨first, hfirst, h⟩ := Option.bind_eq_some_iff.mp h
  exact ⟨first, hfirst, (Option.some.inj h).symm⟩

theorem writeEntries?_cons_cons {entry : String × Value} {entries : List (String × Value)}
    (h : writeEntries? limit ((key, v) :: entry :: entries) = some text) :
    ∃ first others, writeValue? limit v = some first ∧
      writeEntries? limit (entry :: entries) = some others ∧
      text = writeText key.toList ++ ':' :: (first ++ ',' :: others) := by
  rw [writeEntries?] at h
  obtain ⟨first, hfirst, h⟩ := Option.bind_eq_some_iff.mp h
  obtain ⟨others, hothers, h⟩ := Option.bind_eq_some_iff.mp h
  refine ⟨first, others, hfirst, hothers, ?_⟩
  rw [← Option.some.inj h, List.append_assoc, List.cons_append]

/-- No number starts with a blank. -/
theorem isSpace_of_number {c : Char} (hc : c = '-' ∨ Integer.isDigit c = true) :
    isSpace c = false := by
  rw [← Bool.not_eq_true]
  intro hspace
  simp only [isSpace, Bool.or_eq_true, beq_iff_eq] at hspace
  rcases hspace with ((rfl | rfl) | rfl) | rfl <;> exact absurd hc (by decide)

/-- The text of a value starts with neither a blank nor the end of a list. -/
theorem starts_writeValue? (hv : v.IsPlain) (h : writeValue? limit v = some text) :
    ∃ c tail, text = c :: tail ∧ isSpace c = false ∧ c ≠ ']' := by
  cases v with
  | null => exact ⟨_, _, (Option.some.inj h).symm, by decide, by decide⟩
  | bool b => cases b <;> exact ⟨_, _, (Option.some.inj h).symm, by decide, by decide⟩
  | int n =>
      rw [writeValue?] at h
      split at h
      · obtain ⟨c, tail, hwrite, hc⟩ := Integer.exists_cons_write n
        refine ⟨c, tail, by rw [← Option.some.inj h, hwrite], isSpace_of_number hc, ?_⟩
        rintro rfl
        exact absurd hc (by decide)
      · exact nomatch h
  | str s => exact ⟨_, _, (Option.some.inj h).symm, by decide, by decide⟩
  | list items =>
      rw [writeValue?] at h
      split at h
      · exact nomatch h
      · obtain ⟨body, -, rfl⟩ := Option.map_eq_some_iff.mp h
        exact ⟨_, _, rfl, by decide, by decide⟩
  | mapping entries =>
      rw [writeValue?] at h
      split at h
      · exact nomatch h
      · obtain ⟨body, -, rfl⟩ := Option.map_eq_some_iff.mp h
        exact ⟨_, _, rfl, by decide, by decide⟩
  | _ => exact hv.elim

theorem starts_writeItems? {vs : List Value} (hv : v.IsPlain)
    (h : writeItems? limit (v :: vs) = some text) :
    ∃ c tail, text = c :: tail ∧ isSpace c = false ∧ c ≠ ']' := by
  cases vs with
  | nil => exact starts_writeValue? hv h
  | cons w ws =>
      obtain ⟨first, others, hfirst, -, rfl⟩ := writeItems?_cons_cons h
      obtain ⟨c, tail, rfl, hc⟩ := starts_writeValue? hv hfirst
      exact ⟨c, _, rfl, hc⟩

theorem starts_writeEntries? {entry : String × Value} {entries : List (String × Value)}
    (h : writeEntries? limit (entry :: entries) = some text) : ∃ tail, text = '"' :: tail := by
  cases entries with
  | nil =>
      obtain ⟨first, -, rfl⟩ := writeEntries?_singleton h
      exact ⟨_, rfl⟩
  | cons next entries =>
      obtain ⟨first, others, -, -, rfl⟩ := writeEntries?_cons_cons h
      exact ⟨_, rfl⟩

/-! ## One call -/

theorem skip_of_not_isSpace {c : Char} (h : isSpace c = false) (cs : List Char) :
    skip (c :: cs) = c :: cs :=
  List.dropWhile_cons_of_neg (by rw [h]; exact Bool.false_ne_true)

theorem readValue_of_number {c : Char} (hc : c = '-' ∨ Integer.isDigit c = true)
    (cs : List Char) :
    readValue dialect (calls + 1) depth (c :: cs) = readNumber dialect (c :: cs) := by
  have hstart : ∀ d, ¬ (d = '-' ∨ Integer.isDigit d = true) → c ≠ d := by
    rintro d hd rfl
    exact hd hc
  rw [readValue, skip_of_not_isSpace (isSpace_of_number hc)]
  split
  · next h => exact absurd (List.cons.inj h).1 (hstart _ (by decide))
  · next h => exact absurd (List.cons.inj h).1 (hstart _ (by decide))
  · next h => exact absurd (List.cons.inj h).1 (hstart _ (by decide))
  · next h => exact absurd (List.cons.inj h).1 (hstart _ (by decide))
  · next h => exact absurd (List.cons.inj h).1 (hstart _ (by decide))
  · next h => exact absurd (List.cons.inj h).1 (hstart _ (by decide))
  · rfl

/-- A text in quotes, in front of something else. -/
theorem writeText_append (cs rest : List Char) :
    writeText cs ++ rest = '"' :: (cs.flatMap writeChar ++ '"' :: rest) := by
  rw [writeText, List.cons_append, List.cons_append, List.append_assoc, List.singleton_append]

/-- Do so many calls read the written values that are short enough? -/
def ReadsValue (dialect : Dialect) (calls : Nat) : Prop :=
  ∀ {depth limit v text rest}, IsPlain v → writeValue? limit v = some text → limit ≤ depth →
    2 * text.length ≤ calls + 1 → Follows rest →
    readValue dialect calls depth (text ++ rest) = some (v, rest)

/-- Do so many calls read the written items that are short enough? -/
def ReadsItems (dialect : Dialect) (calls : Nat) : Prop :=
  ∀ {depth limit v vs text}, AllPlain (v :: vs) → writeItems? limit (v :: vs) = some text →
    limit ≤ depth → 2 * text.length ≤ calls → ∀ rest,
    readItems dialect calls depth (text ++ ']' :: rest) = some (v :: vs, rest)

/-- Do so many calls read the written entries that are short enough? -/
def ReadsEntries (dialect : Dialect) (calls : Nat) : Prop :=
  ∀ {depth limit entry entries text}, EntriesPlain (entry :: entries) →
    writeEntries? limit (entry :: entries) = some text → limit ≤ depth →
    2 * text.length ≤ calls → ∀ rest,
    readEntries dialect calls depth (text ++ '\x7d' :: rest) = some (entry :: entries, rest)

/-- One more call for the first item of a list. -/
theorem readsItems_succ (hvalue : ReadsValue dialect calls) (hitems : ReadsItems dialect calls) :
    ReadsItems dialect (calls + 1) := by
  intro depth limit v vs text hplain hwrite hdepth hlength rest
  obtain ⟨hv, hvs⟩ := hplain
  cases vs with
  | nil =>
      have hread := hvalue hv hwrite hdepth hlength (.cons (.inr (.inl rfl)) rest)
      rw [readItems, hread]
      rfl
  | cons w ws =>
      obtain ⟨first, others, hfirst, hothers, rfl⟩ := writeItems?_cons_cons hwrite
      rw [List.length_append, List.length_cons] at hlength
      have hread := hvalue hv hfirst hdepth (by omega)
        (.cons (.inl rfl) (others ++ ']' :: rest))
      have hmore := hitems hvs hothers hdepth (by omega) rest
      rw [readItems, List.append_assoc, List.cons_append, hread]
      simp only [skip_of_not_isSpace (c := ',') rfl, hmore, Option.map_some]

/-- An entry whose value is the last one. -/
theorem readEntries_last {body : List Char}
    (hread : readValue dialect calls depth body = some (v, '\x7d' :: rest)) :
    readEntries dialect (calls + 1) depth (writeText key.toList ++ ':' :: body)
      = some ([(key, v)], rest) := by
  rw [readEntries, writeText_append, skip_of_not_isSpace (c := '"') rfl]
  simp only [readText_written, skip_of_not_isSpace (c := ':') rfl, hread,
    skip_of_not_isSpace (c := '\x7d') rfl, String.ofList_toList]

/-- An entry in front of others. -/
theorem readEntries_more {body others : List Char} {entries : List (String × Value)}
    (hread : readValue dialect calls depth body = some (v, ',' :: others))
    (hmore : readEntries dialect calls depth others = some (entries, rest)) :
    readEntries dialect (calls + 1) depth (writeText key.toList ++ ':' :: body)
      = some ((key, v) :: entries, rest) := by
  rw [readEntries, writeText_append, skip_of_not_isSpace (c := '"') rfl]
  simp only [readText_written, skip_of_not_isSpace (c := ':') rfl, hread,
    skip_of_not_isSpace (c := ',') rfl, hmore, Option.map_some, String.ofList_toList]

/-- One more call for the first entry of a mapping. -/
theorem readsEntries_succ (hvalue : ReadsValue dialect calls)
    (hentries : ReadsEntries dialect calls) : ReadsEntries dialect (calls + 1) := by
  intro depth limit entry entries text hplain hwrite hdepth hlength rest
  obtain ⟨key, v⟩ := entry
  obtain ⟨hv, hrest⟩ := hplain
  cases entries with
  | nil =>
      obtain ⟨first, hfirst, rfl⟩ := writeEntries?_singleton hwrite
      rw [List.length_append, List.length_cons] at hlength
      have hread := hvalue hv hfirst hdepth (by omega) (.cons (.inr (.inr rfl)) rest)
      rw [List.append_assoc, List.cons_append]
      exact readEntries_last hread
  | cons entry entries =>
      obtain ⟨first, others, hfirst, hothers, rfl⟩ := writeEntries?_cons_cons hwrite
      simp only [List.length_append, List.length_cons] at hlength
      have hread := hvalue hv hfirst hdepth (by omega)
        (.cons (.inl rfl) (others ++ '\x7d' :: rest))
      have hmore := hentries hrest hothers hdepth (by omega) rest
      rw [List.append_assoc, List.cons_append, List.append_assoc, List.cons_append]
      exact readEntries_more hread hmore

/-- The brackets of a list around items that are read. -/
theorem readValue_list {items : List Value} {body : List Char} (hitems : ReadsItems dialect calls)
    (hplain : AllPlain items) (hbody : writeItems? limit items = some body) (hdepth : limit < depth)
    (hlength : 2 * body.length ≤ calls) :
    readValue dialect (calls + 1) depth ('[' :: (body ++ ']' :: rest))
      = some (.list items, rest) := by
  have hdeep : depth ≠ 0 := Nat.ne_zero_of_lt hdepth
  rw [readValue, skip_of_not_isSpace rfl]
  simp only [if_neg hdeep]
  cases items with
  | nil =>
      obtain rfl := Option.some.inj hbody
      rfl
  | cons v vs =>
      have hread := hitems hplain hbody (Nat.le_sub_one_of_lt hdepth) hlength rest
      obtain ⟨c, tail, rfl, hspace, hbracket⟩ := starts_writeItems? hplain.1 hbody
      rw [List.cons_append] at hread ⊢
      rw [skip_of_not_isSpace hspace]
      split
      · next h => exact absurd (List.cons.inj h).1 hbracket
      · rw [hread, Option.map_some]

/-- The brackets of a mapping around entries that are read: no key is
    repeated, so all of them are kept. -/
theorem readValue_mapping {entries : List (String × Value)} {body : List Char}
    (hentries : ReadsEntries dialect calls) (hdistinct : Distinct entries)
    (hplain : EntriesPlain entries) (hbody : writeEntries? limit entries = some body)
    (hdepth : limit < depth) (hlength : 2 * body.length ≤ calls) :
    readValue dialect (calls + 1) depth ('\x7b' :: (body ++ '\x7d' :: rest))
      = some (.mapping entries, rest) := by
  have hdeep : depth ≠ 0 := Nat.ne_zero_of_lt hdepth
  rw [readValue, skip_of_not_isSpace rfl]
  simp only [if_neg hdeep]
  cases entries with
  | nil =>
      obtain rfl := Option.some.inj hbody
      rfl
  | cons entry entries =>
      have hread := hentries hplain hbody (Nat.le_sub_one_of_lt hdepth) hlength rest
      obtain ⟨tail, rfl⟩ := starts_writeEntries? hbody
      rw [List.cons_append] at hread ⊢
      rw [skip_of_not_isSpace rfl]
      split
      · next h => exact absurd (List.cons.inj h).1 (by decide)
      · rw [hread, Option.map_some, hdistinct.ofPairs_eq]

/-- One more call for a value: a scalar, or brackets around what the other
    calls read. -/
theorem readsValue_succ (hitems : ReadsItems dialect calls)
    (hentries : ReadsEntries dialect calls) : ReadsValue dialect (calls + 1) := by
  intro depth limit v text rest hplain hwrite hdepth hlength hfollows
  cases v with
  | null =>
      obtain rfl := Option.some.inj hwrite
      rfl
  | bool b =>
      obtain rfl := Option.some.inj hwrite
      cases b with
      | true => rfl
      | false => rfl
  | int n =>
      rw [writeValue?] at hwrite
      split at hwrite
      · next hrange =>
        obtain rfl := Option.some.inj hwrite
        obtain ⟨c, tail, htext, hc⟩ := Integer.exists_cons_write n
        have hread := readNumber_written dialect hrange hfollows
        rw [htext, List.cons_append] at hread ⊢
        rw [readValue_of_number hc, hread]
      · exact nomatch hwrite
  | str s =>
      obtain rfl := Option.some.inj hwrite
      rw [writeText_append, readValue, skip_of_not_isSpace rfl]
      simp only [readText_written, Option.map_some, String.ofList_toList]
  | list items =>
      rw [writeValue?] at hwrite
      split at hwrite
      · exact nomatch hwrite
      · next hlimit =>
        obtain ⟨body, hbody, rfl⟩ := Option.map_eq_some_iff.mp hwrite
        simp only [List.length_append, List.length_cons, List.length_nil] at hlength
        rw [List.cons_append, List.cons_append, List.append_assoc, List.singleton_append]
        exact readValue_list hitems hplain hbody (by omega) (by omega)
  | mapping entries =>
      rw [writeValue?] at hwrite
      split at hwrite
      · exact nomatch hwrite
      · next hlimit =>
        obtain ⟨body, hbody, rfl⟩ := Option.map_eq_some_iff.mp hwrite
        simp only [List.length_append, List.length_cons, List.length_nil] at hlength
        rw [List.cons_append, List.cons_append, List.append_assoc, List.singleton_append]
        exact readValue_mapping hentries hplain.1 hplain.2 hbody (by omega) (by omega)
  | _ => exact hplain.elim

/-! ## All calls -/

/-- **Calls do not run out**: each text is read by as many of them as it has
    characters, counted twice. -/
theorem reads_calls (dialect : Dialect) (calls : Nat) :
    ReadsValue dialect calls ∧ ReadsItems dialect calls ∧ ReadsEntries dialect calls := by
  induction calls with
  | zero =>
      -- no text is that short
      refine ⟨?_, ?_, ?_⟩
      · intro depth limit v text rest hplain hwrite hdepth hlength hfollows
        obtain ⟨c, tail, rfl, -⟩ := starts_writeValue? hplain hwrite
        rw [List.length_cons] at hlength
        omega
      · intro depth limit v vs text hplain hwrite hdepth hlength rest
        obtain ⟨c, tail, rfl, -⟩ := starts_writeItems? hplain.1 hwrite
        rw [List.length_cons] at hlength
        omega
      · intro depth limit entry entries text hplain hwrite hdepth hlength rest
        obtain ⟨tail, rfl⟩ := starts_writeEntries? hwrite
        rw [List.length_cons] at hlength
        omega
  | succ calls ih =>
      obtain ⟨hvalue, hitems, hentries⟩ := ih
      exact ⟨readsValue_succ hitems hentries, readsItems_succ hvalue hitems,
        readsEntries_succ hvalue hentries⟩

/-- **What is written reads back**, in every dialect that admits the nesting. -/
theorem read_write (hdepth : writeDepth ≤ dialect.depth) (hv : v.IsPlain)
    (h : write? v = some text) : read dialect text = some v := by
  have hnothing : Follows [] := fun _ hc => absurd hc.symm (Option.some_ne_none _)
  have hread := (reads_calls dialect (2 * text.length + 2)).1 hv h hdepth (by omega) hnothing
  rw [List.append_nil] at hread
  rw [read, hread]
  rfl

/-- **A document that is written reads back.** -/
theorem readBytes_writeBytes {bytes : List UInt8} (hv : v.IsPlain)
    (h : writeBytes? v = some bytes) : readBytes .body bytes = some v := by
  obtain ⟨text, htext, rfl⟩ := Option.map_eq_some_iff.mp h
  rw [readBytes, Utf8.decode_encode]
  exact read_write (by decide) hv htext

end Json

end HttpExchange
