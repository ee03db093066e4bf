import HttpExchange.Value.Basic
import Mathlib.Data.List.Induction
import Mathlib.Data.List.Nodup

/-! # Mappings

    What is found under a key, and which keys there are, after mappings are
    put together and after a key is set.  A mapping made from pairs has every
    key once, whatever the pairs are. -/

namespace HttpExchange

/-- The entries of a mapping: no key occurs twice. -/
def Distinct {α : Type} (entries : List (String × α)) : Prop := (entries.map (·.1)).Nodup

@[simp] theorem Value.lookup_append (k : String) (front back : List (String × Value)) :
    Value.lookup k (front ++ back) = (Value.lookup k front).or (Value.lookup k back) := by
  induction front with
  | nil => rfl
  | cons entry rest ih =>
      by_cases hk : entry.1 = k
      · simp [Value.lookup, hk]
      · simp [Value.lookup, hk, ih]

theorem Value.lookup_eq_none_iff (k : String) (entries : List (String × Value)) :
    Value.lookup k entries = none ↔ k ∉ entries.map (·.1) := by
  induction entries with
  | nil => simp [Value.lookup]
  | cons entry rest ih =>
      by_cases hk : entry.1 = k
      · simp [Value.lookup, hk]
      · simp [Value.lookup, hk, Ne.symm hk, ih]

theorem Value.lookup_assign (k key : String) (v : Value) (entries : List (String × Value)) :
    Value.lookup k (Value.assign key v entries)
      = if key = k then some v else Value.lookup k entries := by
  induction entries with
  | nil => rfl
  | cons entry rest ih =>
      obtain ⟨l, w⟩ := entry
      rw [Value.assign]
      by_cases hkey : l = key
      · rw [if_pos hkey, Value.lookup, Value.lookup, hkey]
        split <;> rfl
      · rw [if_neg hkey, Value.lookup, Value.lookup, ih]
        by_cases hl : l = k
        · have hne : key ≠ k := fun h => hkey (hl.trans h.symm)
          rw [if_pos hl, if_pos hl, if_neg hne]
        · rw [if_neg hl, if_neg hl]

theorem Value.keys_assign {α : Type} (key : String) (v : α) (entries : List (String × α)) :
    (Value.assign key v entries).map (·.1)
      = if key ∈ entries.map (·.1) then entries.map (·.1) else entries.map (·.1) ++ [key] := by
  induction entries with
  | nil => rfl
  | cons entry rest ih =>
      by_cases hkey : entry.1 = key
      · simp [Value.assign, hkey]
      · by_cases hmem : key ∈ rest.map (·.1)
        · simp [Value.assign, hkey, hmem, ih]
        · simp [Value.assign, hkey, Ne.symm hkey, hmem, ih]

theorem Value.mem_assign {α : Type} {key : String} {v : α} {entries : List (String × α)}
    {e : String × α} (h : e ∈ Value.assign key v entries) : e = (key, v) ∨ e ∈ entries := by
  induction entries with
  | nil => exact Or.inl (List.mem_singleton.mp h)
  | cons entry rest ih =>
      obtain ⟨l, w⟩ := entry
      rw [Value.assign] at h
      split at h
      · next hl =>
        rcases List.mem_cons.mp h with rfl | h
        · exact Or.inl (by rw [hl])
        · exact Or.inr (List.mem_cons_of_mem _ h)
      · rcases List.mem_cons.mp h with rfl | h
        · exact Or.inr List.mem_cons_self
        · exact (ih h).imp_right (List.mem_cons_of_mem _)

/-- Setting a key of a mapping leaves a mapping. -/
theorem Distinct.assign {α : Type} {entries : List (String × α)} (h : Distinct entries)
    (key : String) (v : α) : Distinct (Value.assign key v entries) := by
  rw [Distinct, Value.keys_assign]
  split
  · exact h
  · next hmem =>
    rw [← List.concat_eq_append]
    exact List.Nodup.concat hmem h

/-- What every setting of a key preserves, all pairs preserve. -/
theorem ofPairs_preserves {α : Type} {I : List (String × α) → Prop} {pairs : List (String × α)}
    (hnil : I [])
    (hstep : ∀ entries, ∀ pair ∈ pairs, I entries → I (Value.assign pair.1 pair.2 entries)) :
    I (Value.ofPairs pairs) := by
  have hfold : ∀ entries, I entries →
      I (pairs.foldl (fun entries pair => Value.assign pair.1 pair.2 entries) entries) := by
    induction pairs with
    | nil => exact fun _ h => h
    | cons pair rest ih =>
        intro entries h
        exact ih (fun entries p hp => hstep entries p (List.mem_cons_of_mem _ hp)) _
          (hstep entries pair List.mem_cons_self h)
  exact hfold [] hnil

/-- **Pairs make a mapping.** -/
theorem distinct_ofPairs {α : Type} (pairs : List (String × α)) :
    Distinct (Value.ofPairs pairs) :=
  ofPairs_preserves List.nodup_nil fun _ pair _ h => h.assign pair.1 pair.2

theorem mem_of_mem_ofPairs {α : Type} {pairs : List (String × α)} :
    ∀ e ∈ Value.ofPairs pairs, e ∈ pairs := by
  refine ofPairs_preserves (I := fun entries => ∀ e ∈ entries, e ∈ pairs)
    (fun _ h => absurd h List.not_mem_nil) ?_
  intro entries pair hpair h e he
  rcases Value.mem_assign he with rfl | he
  · exact hpair
  · exact h e he

/-- Setting a key that is not there adds it. -/
theorem Value.assign_of_not_mem {α : Type} {key : String} {entries : List (String × α)}
    (h : key ∉ entries.map (·.1)) (v : α) :
    Value.assign key v entries = entries ++ [(key, v)] := by
  induction entries with
  | nil => rfl
  | cons entry rest ih =>
      have hne : entry.1 ≠ key := fun e => h (e ▸ List.mem_cons_self)
      rw [Value.assign, if_neg hne, ih fun hrest => h (List.mem_cons_of_mem _ hrest)]
      rfl

/-- Set pairs in a mapping, one after the other. -/
def Value.assignAll {α : Type} (pairs entries : List (String × α)) : List (String × α) :=
  pairs.foldl (fun entries (k, v) => assign k v entries) entries

theorem Value.ofPairs_append {α : Type} (front back : List (String × α)) :
    ofPairs (front ++ back) = assignAll back (ofPairs front) := List.foldl_append

/-- **Pairs with distinct keys** are a mapping as they are. -/
theorem Distinct.ofPairs_eq {α : Type} {pairs : List (String × α)} (h : Distinct pairs) :
    Value.ofPairs pairs = pairs := by
  induction pairs using List.reverseRecOn with
  | nil => rfl
  | append_singleton pairs pair ih =>
      rw [Distinct, List.map_append, List.nodup_append] at h
      obtain ⟨hpairs, -, hdisjoint⟩ := h
      have hnew : pair.1 ∉ pairs.map (·.1) :=
        fun hmem => hdisjoint _ hmem _ (List.mem_singleton_self _) rfl
      rw [Value.ofPairs_append]
      show Value.assign pair.1 pair.2 (Value.ofPairs pairs) = _
      rw [ih hpairs, Value.assign_of_not_mem hnew]

/-! ## Pairs behind pairs -/

namespace Value

variable {α : Type} {k l : String} {entries : List (String × α)}

/-- **The keys of a mapping made from pairs** stand in the order in which they
    first occur. -/
theorem keys_ofPairs (pairs : List (String × α)) :
    (ofPairs pairs).map (·.1) = (pairs.map (·.1)).eraseDups := by
  induction pairs using List.reverseRecOn with
  | nil => rfl
  | append_singleton pairs pair ih =>
      rw [ofPairs_append, List.map_append, List.map_singleton, List.eraseDups_append]
      show (assign pair.1 pair.2 (ofPairs pairs)).map (·.1) = _
      rw [keys_assign, ih]
      by_cases hmem : pair.1 ∈ pairs.map (·.1)
      · have hremoved : [pair.1].removeAll (pairs.map (·.1)) = [] := by
          simp [List.removeAll, hmem]
        rw [if_pos (List.mem_eraseDups.mpr hmem), hremoved]
        exact (List.append_nil _).symm
      · have hremoved : [pair.1].removeAll (pairs.map (·.1)) = [pair.1] := by
          simp [List.removeAll, hmem]
        rw [if_neg (fun h => hmem (List.mem_eraseDups.mp h)), hremoved]
        rfl

/-- Setting a key changes what is found under it and nothing else. -/
theorem listLookup_assign (k l : String) (v : α) (entries : List (String × α)) :
    (assign k v entries).lookup l = if l = k then some v else entries.lookup l := by
  induction entries with
  | nil =>
      by_cases hl : l = k
      · simp [assign, hl]
      · simp [assign, List.lookup_cons, beq_eq_false_iff_ne.mpr hl, hl]
  | cons entry rest ih =>
      obtain ⟨m, w⟩ := entry
      by_cases hm : m = k
      · by_cases hl : l = k
        · simp [assign, hm, hl]
        · simp [assign, List.lookup_cons, hm, beq_eq_false_iff_ne.mpr hl, hl]
      · by_cases hl : l = m
        · simp [assign, hm, hl]
        · simp [assign, List.lookup_cons, hm, beq_eq_false_iff_ne.mpr hl, ih]

/-- **A mapping made from pairs** has the last value of every key. -/
theorem listLookup_ofPairs (pairs : List (String × α)) (k : String) :
    (ofPairs pairs).lookup k = pairs.reverse.lookup k := by
  induction pairs using List.reverseRecOn with
  | nil => rfl
  | append_singleton pairs pair ih =>
      rw [ofPairs_append, List.reverse_append]
      show (assign pair.1 pair.2 (ofPairs pairs)).lookup k = (pair :: pairs.reverse).lookup k
      rw [listLookup_assign, ih, List.lookup_cons]
      by_cases hk : k = pair.1
      · rw [if_pos hk, beq_iff_eq.mpr hk]
      · rw [if_neg hk, beq_eq_false_iff_ne.mpr hk]

/-- The last value of a key that is set twice counts. -/
theorem assign_assign (k : String) (v w : α) (entries : List (String × α)) :
    assign k v (assign k w entries) = assign k v entries := by
  induction entries with
  | nil => exact if_pos rfl
  | cons entry rest ih =>
      obtain ⟨m, x⟩ := entry
      by_cases hm : m = k
      · simp [assign, hm]
      · simp [assign, hm, ih]

/-- A key that is there may be set before or after another one. -/
theorem assign_comm (hmem : k ∈ entries.map (·.1)) (hne : k ≠ l) (v w : α) :
    assign k v (assign l w entries) = assign l w (assign k v entries) := by
  induction entries with
  | nil => exact absurd hmem List.not_mem_nil
  | cons entry rest ih =>
      obtain ⟨m, x⟩ := entry
      by_cases hm : m = k
      · have hml : ¬ m = l := fun e => hne (hm.symm.trans e)
        simp [assign, hm, hne]
      · have hrest : k ∈ rest.map (·.1) := (List.mem_cons.mp hmem).resolve_left (Ne.symm hm)
        by_cases hml : m = l
        · simp [assign, hml, Ne.symm hne]
        · simp [assign, hm, hml, ih hrest]

theorem mem_keys_assign (hmem : k ∈ entries.map (·.1)) (l : String) (v : α) :
    k ∈ (assign l v entries).map (·.1) := by
  rw [keys_assign]
  split
  · exact hmem
  · exact List.mem_append_left _ hmem

/-- A key that is there may be set before or after pairs with other keys. -/
theorem assign_assignAll {pairs : List (String × α)} (hmem : k ∈ entries.map (·.1))
    (hnot : k ∉ pairs.map (·.1)) (v : α) :
    assign k v (assignAll pairs entries) = assignAll pairs (assign k v entries) := by
  induction pairs generalizing entries with
  | nil => rfl
  | cons pair rest ih =>
      have hne : k ≠ pair.1 := fun e => hnot (e ▸ List.mem_cons_self)
      show assign k v (assignAll rest (assign pair.1 pair.2 entries))
        = assignAll rest (assign pair.1 pair.2 (assign k v entries))
      rw [ih (mem_keys_assign hmem pair.1 pair.2) fun h => hnot (List.mem_cons_of_mem _ h),
        assign_comm hmem hne]

/-- Setting a key among the pairs is setting it after them. -/
theorem assignAll_assign {pairs : List (String × α)} (h : Distinct pairs) (k : String) (v : α)
    (entries : List (String × α)) :
    assignAll (assign k v pairs) entries = assign k v (assignAll pairs entries) := by
  induction pairs generalizing entries with
  | nil => rfl
  | cons pair rest ih =>
      obtain ⟨l, w⟩ := pair
      obtain ⟨hnot, hrest⟩ := List.nodup_cons.mp h
      rw [assign]
      by_cases hl : l = k
      · rw [if_pos hl]
        show assignAll rest (assign l v entries)
          = assign k v (assignAll rest (assign l w entries))
        -- the key is there as soon as its first pair has been set
        have hmem : k ∈ (assign l w entries).map (·.1) := by
          rw [hl, keys_assign]
          split
          · assumption
          · exact List.mem_append_right _ List.mem_cons_self
        rw [assign_assignAll hmem (hl ▸ hnot), hl, assign_assign]
      · rw [if_neg hl]
        exact ih hrest (assign l w entries)

/-- **Pairs may be put together first**: their mapping sets what the pairs
    set. -/
theorem assignAll_ofPairs (pairs entries : List (String × α)) :
    assignAll (ofPairs pairs) entries = assignAll pairs entries := by
  induction pairs using List.reverseRecOn with
  | nil => rfl
  | append_singleton pairs pair ih =>
      rw [ofPairs_append]
      show assignAll (assign pair.1 pair.2 (ofPairs pairs)) entries = _
      rw [assignAll_assign (distinct_ofPairs pairs), ih, assignAll, assignAll,
        List.foldl_append]
      rfl

end Value

namespace Value

mutual

/-- Has every mapping in the value, however deep, each key once? -/
def WellKeyed : Value → Prop
  | .list items => AllWellKeyed items
  | .mapping entries => Distinct entries ∧ EntriesWellKeyed entries
  | _ => True

/-- Are all values in the list well keyed? -/
def AllWellKeyed : List Value → Prop
  | [] => True
  | v :: vs => WellKeyed v ∧ AllWellKeyed vs

/-- Are all values of the entries well keyed? -/
def EntriesWellKeyed : List (String × Value) → Prop
  | [] => True
  | (_, v) :: rest => WellKeyed v ∧ EntriesWellKeyed rest

end

theorem entriesWellKeyed_iff (entries : List (String × Value)) :
    EntriesWellKeyed entries ↔ ∀ e ∈ entries, e.2.WellKeyed := by
  induction entries with
  | nil => simp [EntriesWellKeyed]
  | cons entry rest ih => simp [EntriesWellKeyed, ih]

theorem WellKeyed.ofPairs {pairs : List (String × Value)} (h : EntriesWellKeyed pairs) :
    WellKeyed (.mapping (Value.ofPairs pairs)) := by
  rw [entriesWellKeyed_iff] at h
  refine ⟨distinct_ofPairs pairs, (entriesWellKeyed_iff _).mpr ?_⟩
  intro e he
  exact h e (mem_of_mem_ofPairs e he)

/-- The value of a key in a well-keyed mapping is well keyed. -/
theorem EntriesWellKeyed.of_lookup {key : String} {v : Value} {entries : List (String × Value)}
    (h : EntriesWellKeyed entries) (hv : lookup key entries = some v) : v.WellKeyed := by
  induction entries with
  | nil => exact nomatch hv
  | cons entry rest ih =>
      rw [lookup] at hv
      split at hv
      · exact Option.some.inj hv ▸ h.1
      · exact ih h.2 hv

end Value

end HttpExchange
