import HttpExchange.Module.Basic
import HttpExchange.Proofs.Value.Mapping

/-! # Sections over sections

    A section is loaded one setting at a time, so what a section comes to when
    it is merged over another one is decided setting by setting as well:

    * `lookup_merge` and `keys_merge` say what a merged section holds, under
      the assumption that no key occurs twice in the one above;
    * `load_toSection` says that given settings are read back from the section
      that they are written to;
    * `load_merge` says that loading a section over one that is accepted is
      loading it alone and putting the result over the settings below. -/

namespace HttpExchange

/-! ## Merged mappings -/

namespace Module

/-- A merged mapping has what the upper one has, and what the lower one has
    where the upper one has nothing. -/
theorem lookup_merge {above : List (String × Value)} (habove : Distinct above) (k : String)
    (below : List (String × Value)) :
    Value.lookup k (merge below above) = (Value.lookup k above).or (Value.lookup k below) := by
  induction above generalizing below with
  | nil => rfl
  | cons entry rest ih =>
      obtain ⟨l, w⟩ := entry
      obtain ⟨hnotin, hrest⟩ := List.nodup_cons.mp habove
      show Value.lookup k (merge (Value.assign l w below) rest) = _
      rw [ih hrest, Value.lookup_assign, Value.lookup]
      by_cases hl : l = k
      · have hnone : Value.lookup k rest = none :=
          (Value.lookup_eq_none_iff k rest).mpr (hl ▸ hnotin)
        rw [if_pos hl, if_pos hl, hnone]
        rfl
      · rw [if_neg hl, if_neg hl]

/-- The keys of a merged mapping are those of the lower one, and then the other
    ones of the upper one. -/
theorem keys_merge {above : List (String × Value)} (habove : Distinct above)
    (below : List (String × Value)) :
    (merge below above).map (·.1)
      = below.map (·.1) ++ (above.map (·.1)).filter (· ∉ below.map (·.1)) := by
  induction above generalizing below with
  | nil => simp [merge]
  | cons entry rest ih =>
      obtain ⟨l, w⟩ := entry
      obtain ⟨hnotin, hrest⟩ := List.nodup_cons.mp habove
      show (merge (Value.assign l w below) rest).map (·.1) = _
      rw [ih hrest, Value.keys_assign, List.map_cons]
      by_cases hmem : l ∈ below.map (·.1)
      · rw [if_pos hmem, List.filter_cons_of_neg (by simpa using hmem)]
      · rw [if_neg hmem, List.filter_cons_of_pos (by simpa using hmem), List.append_assoc,
          List.singleton_append]
        -- the key that has just come in does not come again
        congr 2
        refine List.filter_congr ?_
        intro k hk
        have hne : k ≠ l := fun h => hnotin (h ▸ hk)
        simp [hne]

end Module

namespace Settings

/-! ## Conversions -/

/-- Apply a function to a converted value. -/
def Conversion.map {α β : Type} (f : α → β) : Conversion α → Conversion β
  | .ok a => .ok (f a)
  | .faulty faults => .faulty faults
  | .fatal failure => .fatal failure

/-- A section is accepted if and only if all its settings are converted and it
    has no other keys. -/
theorem load_eq_ok_iff {s : Section} {g : Given} :
    load s = .ok g ↔
      field s "user_agent" textOf = .ok g.userAgent ∧
      field s "default_headers" defaultHeadersOf = .ok g.defaultHeaders ∧
      field s "timeout" timeoutOf = .ok g.timeout ∧
      field s "error_for_status" flagOf = .ok g.errorForStatus ∧
      field s "send_cookies" flagOf = .ok g.sendCookies ∧
      field s "store_cookies" flagOf = .ok g.storeCookies ∧ unknownKeys s = [] := by
  constructor
  · intro h
    simp only [load] at h
    split at h
    · exact nomatch h
    · next hagent hheaders htimeout hstatus hsend hstore hkeys =>
      cases h
      exact ⟨hagent, hheaders, htimeout, hstatus, hsend, hstore, hkeys⟩
    · exact nomatch h
  · rintro ⟨hagent, hheaders, htimeout, hstatus, hsend, hstore, hkeys⟩
    simp only [load, hagent, hheaders, htimeout, hstatus, hsend, hstore, hkeys]

/-- Settings over others: what is given above counts. -/
def Given.over (above below : Given) : Given where
  userAgent := above.userAgent.or below.userAgent
  defaultHeaders := above.defaultHeaders.or below.defaultHeaders
  timeout := above.timeout.or below.timeout
  errorForStatus := above.errorForStatus.or below.errorForStatus
  sendCookies := above.sendCookies.or below.sendCookies
  storeCookies := above.storeCookies.or below.storeCookies

/-- A section whose settings are those of another one over given ones is
    accepted or refused as that one is. -/
theorem load_of_fields {s t : Section} {below : Given}
    (hagent : field t "user_agent" textOf
      = (field s "user_agent" textOf).map (·.or below.userAgent))
    (hheaders : field t "default_headers" defaultHeadersOf
      = (field s "default_headers" defaultHeadersOf).map (·.or below.defaultHeaders))
    (htimeout : field t "timeout" timeoutOf
      = (field s "timeout" timeoutOf).map (·.or below.timeout))
    (hstatus : field t "error_for_status" flagOf
      = (field s "error_for_status" flagOf).map (·.or below.errorForStatus))
    (hsend : field t "send_cookies" flagOf
      = (field s "send_cookies" flagOf).map (·.or below.sendCookies))
    (hstore : field t "store_cookies" flagOf
      = (field s "store_cookies" flagOf).map (·.or below.storeCookies))
    (hkeys : unknownKeys t = unknownKeys s) :
    load t = (load s).map fun above => above.over below := by
  simp only [load, hagent, hheaders, htimeout, hstatus, hsend, hstore, hkeys]
  generalize field s "user_agent" textOf = agent
  generalize field s "default_headers" defaultHeadersOf = headers
  generalize field s "timeout" timeoutOf = timeout
  generalize field s "error_for_status" flagOf = status
  generalize field s "send_cookies" flagOf = send
  generalize field s "store_cookies" flagOf = store
  generalize unknownKeys s = extra
  -- a timeout that is fatal comes first, whatever the other settings come to
  cases timeout with
  | fatal failure => cases agent <;> cases headers <;> rfl
  | faulty faults =>
      cases agent <;> cases headers <;> cases status <;> cases send <;> cases store <;> rfl
  | ok timeout =>
      cases agent <;> cases headers <;> cases status <;> cases send <;> cases store <;>
        cases extra <;> rfl

/-! ## Loading mappings -/

theorem lookup_ofMapping (entries : List (String × Value)) (name : String) :
    (Section.ofMapping entries).lookup name = Value.lookup name entries := by
  induction entries with
  | nil => rfl
  | cons entry rest ih =>
      obtain ⟨k, v⟩ := entry
      rw [Value.lookup, ← ih]
      simp only [Section.ofMapping, Section.lookup, List.map_cons, List.find?_cons, Value.string?]
      by_cases hk : k = name
      · simp [hk]
      · have hne : (some k == some name) = false := by simpa using hk
        simp [hk, hne]

/-- The keys that are no settings are told by the keys alone. -/
theorem unknownKeys_ofMapping (entries : List (String × Value)) :
    unknownKeys (.ofMapping entries)
      = (entries.map (·.1)).filterMap fun k => keyFault? (.str k) := by
  rw [unknownKeys, Section.ofMapping, List.filterMap_map, List.filterMap_map]
  rfl

theorem keyFault?_str_eq_none_iff (k : String) : keyFault? (.str k) = none ↔ k ∈ keys := by
  simp [keyFault?, Value.string?]

variable {α : Type} {name : String} {convert : List Step → Value → Conversion α}
variable {above below : List (String × Value)}

/-- A setting of a merged section is the one given above, over the one given
    below. -/
theorem field_merge (habove : Distinct above) {old : Option α}
    (hold : field (.ofMapping below) name convert = .ok old) :
    field (.ofMapping (Module.merge below above)) name convert
      = (field (.ofMapping above) name convert).map (·.or old) := by
  simp only [field, lookup_ofMapping, Module.lookup_merge habove] at hold ⊢
  cases Value.lookup name above with
  | none => simpa [Conversion.map] using hold
  | some v =>
      simp only [Option.some_or]
      cases convert [.key name] v <;> rfl

/-- If all keys below are settings, the keys that are none come from above. -/
theorem unknownKeys_merge (habove : Distinct above)
    (hbelow : unknownKeys (.ofMapping below) = []) :
    unknownKeys (.ofMapping (Module.merge below above)) = unknownKeys (.ofMapping above) := by
  rw [unknownKeys_ofMapping, List.filterMap_eq_nil_iff] at hbelow
  rw [unknownKeys_ofMapping, unknownKeys_ofMapping, Module.keys_merge habove,
    List.filterMap_append, List.filterMap_eq_nil_iff.mpr hbelow, List.nil_append,
    List.filterMap_filter]
  refine List.filterMap_congr ?_
  intro k _
  by_cases hk : k ∈ below.map (·.1)
  · simp [hk, hbelow k hk]
  · simp [hk]

/-- **Loading a section over another one** that is accepted: it is accepted or
    refused as it is alone, and what it gives counts over what was given. -/
theorem load_merge (habove : Distinct above) {old : Given}
    (hold : load (.ofMapping below) = .ok old) :
    load (.ofMapping (Module.merge below above))
      = (load (.ofMapping above)).map fun new => new.over old := by
  obtain ⟨hagent, hheaders, htimeout, hstatus, hsend, hstore, hkeys⟩ := load_eq_ok_iff.mp hold
  exact load_of_fields (field_merge habove hagent) (field_merge habove hheaders)
    (field_merge habove htimeout) (field_merge habove hstatus) (field_merge habove hsend)
    (field_merge habove hstore) (unknownKeys_merge habove hkeys)

/-! ## Reading given settings back -/

namespace Given

@[simp] theorem lookup_entry {toValue : α → Value} (key : String) (given : Option α) :
    Value.lookup name (entry key toValue given)
      = if key = name then given.map toValue else .none := by
  cases given with
  | none => simp [entry, Value.lookup]
  | some a => simp [entry, Value.lookup]

theorem mem_keys_entry {toValue : α → Value} {key k : String} {given : Option α}
    (h : k ∈ (entry key toValue given).map (·.1)) : k = key := by
  cases given with
  | none => exact nomatch h
  | some a => simpa [entry] using h

end Given

/-- A setting whose written values are converted back is read back. -/
theorem field_written (toValue : α → Value) {given : Option α} {s : List (String × Value)}
    (hlookup : Value.lookup name s = given.map toValue)
    (hconvert : ∀ a, convert [.key name] (toValue a) = .ok a) :
    field (.ofMapping s) name convert = .ok given := by
  rw [field, lookup_ofMapping, hlookup]
  cases given with
  | none => rfl
  | some a => simp [hconvert]

theorem defaultHeadersOf_headersValue (place : List Step) (headers : Headers) :
    defaultHeadersOf place (Given.headersValue headers) = .ok headers := by
  rw [Given.headersValue, defaultHeadersOf]
  induction headers with
  | nil => rfl
  | cons header rest ih => simp [headersOf, ih, textOf, Value.string?]

theorem timeoutOf_timeoutValue (place : List Step) (timeout : Option Int) :
    timeoutOf place (Given.timeoutValue timeout) = .ok timeout := by
  cases timeout <;> rfl

/-- **Given settings are read back** from the section they are written to. -/
theorem load_toSection (g : Given) : load (.ofMapping g.toSection) = .ok g := by
  rw [load_eq_ok_iff]
  refine ⟨?_, ?_, ?_, ?_, ?_, ?_, ?_⟩
  · exact field_written .str (by simp [Given.toSection]) (fun _ => rfl)
  · exact field_written Given.headersValue (by simp [Given.toSection])
      (defaultHeadersOf_headersValue _)
  · exact field_written Given.timeoutValue (by simp [Given.toSection]) (timeoutOf_timeoutValue _)
  · exact field_written .bool (by simp [Given.toSection]) (fun _ => rfl)
  · exact field_written .bool (by simp [Given.toSection]) (fun _ => rfl)
  · exact field_written .bool (by simp [Given.toSection]) (fun _ => rfl)
  · rw [unknownKeys_ofMapping, List.filterMap_eq_nil_iff]
    intro k hk
    rw [keyFault?_str_eq_none_iff]
    simp only [Given.toSection, List.map_append, List.mem_append] at hk
    rcases hk with ((((hk | hk) | hk) | hk) | hk) | hk <;>
      simp [keys, Given.mem_keys_entry hk]

/-- **A section over given settings** is accepted or refused as it is alone. -/
theorem load_merge_toSection (habove : Distinct above) (old : Given) :
    load (.ofMapping (Module.merge old.toSection above))
      = (load (.ofMapping above)).map fun new => new.over old :=
  load_merge habove (load_toSection old)

/-! ## Settings over settings -/

namespace Given

/-- Putting the same settings over once more changes nothing. -/
@[simp] theorem over_over_self (above below : Given) :
    above.over (above.over below) = above.over below := by
  simp only [Given.over, ← Option.or_assoc, Option.or_self]

end Given

end Settings

end HttpExchange
