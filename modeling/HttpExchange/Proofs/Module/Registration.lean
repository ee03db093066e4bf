import HttpExchange.Module.Host
import Mathlib.Data.List.Induction

/-! # What is registered before a load

    Before its modules are loaded, a host is told of modules and callbacks.  A
    module needs a name of its own: the first registration of a name counts,
    and a call that is refused changes nothing. -/

namespace HttpExchange.Host

variable {ι φ : Type}

/-- What a host is told before a load. -/
inductive Call (φ : Type) where
  | register (name : String) (ref : Nat)
  | onLoaded (name : String) (callback : φ)
  | onAllLoaded (callback : φ)

/-- Tell a host. -/
def call (h : Host ι φ) : Call φ → Except Failure (Host ι φ)
  | .register name ref => h.register name ref
  | .onLoaded name callback => .ok (h.addOnLoaded name callback)
  | .onAllLoaded callback => .ok (h.addOnAllLoaded callback)

/-- A host that was told one thing after the other, whatever was refused. -/
def told (calls : List (Call φ)) : Host ι φ :=
  calls.foldl (fun h k => match h.call k with | .ok h => h | .error _ => h) empty

/-- The registrations that count: the name is not empty, and it is not taken
    by an earlier one. -/
def registrations (calls : List (Call φ)) : List (String × Nat) :=
  calls.foldl (fun names k =>
    match k with
    | .register name ref =>
      if name = "" ∨ name ∈ names.map (·.1) then names else names ++ [(name, ref)]
    | .onLoaded .. | .onAllLoaded _ => names) []

/-- The callbacks for modules by their names, registered or not. -/
def Call.loaded? : Call φ → Option (String × φ)
  | .onLoaded name callback => some (name, callback)
  | .register .. | .onAllLoaded _ => none

/-- The callbacks for all modules. -/
def Call.allLoaded? : Call φ → Option φ
  | .onAllLoaded callback => some callback
  | .register .. | .onLoaded .. => none

theorem registrations_concat (calls : List (Call φ)) (k : Call φ) :
    registrations (calls ++ [k]) =
      match k with
      | .register name ref =>
        if name = "" ∨ name ∈ (registrations calls).map (·.1) then registrations calls
        else registrations calls ++ [(name, ref)]
      | .onLoaded .. | .onAllLoaded _ => registrations calls := by
  rw [registrations, List.foldl_append]
  rfl

theorem told_concat (calls : List (Call φ)) (k : Call φ) :
    (told (calls ++ [k]) : Host ι φ) =
      match (told calls : Host ι φ).call k with | .ok h => h | .error _ => told calls := by
  rw [told, List.foldl_append]
  rfl

/-- A name is found if and only if it was registered. -/
theorem isSome_lookup_iff (name : String) (names : List (String × Nat)) :
    (names.lookup name).isSome = true ↔ name ∈ names.map (·.1) := by
  rw [List.lookup_isSome_iff, List.mem_map]
  constructor
  · rintro ⟨entry, hentry, hname⟩
    exact ⟨entry, hentry, (eq_of_beq hname).symm⟩
  · rintro ⟨entry, hentry, rfl⟩
    exact ⟨entry, hentry, beq_self_eq_true _⟩

/-- **A registration is refused** for an empty name and for a name that is
    taken. -/
theorem register_eq (h : Host ι φ) (name : String) (ref : Nat) :
    (name = "" ∨ name ∈ h.names.map (·.1) →
      ∃ failure, h.register name ref = .error failure ∧ failure.kind = .argument) ∧
    (¬ (name = "" ∨ name ∈ h.names.map (·.1)) →
      h.register name ref = .ok { h with names := h.names ++ [(name, ref)] }) := by
  have hempty : name.isEmpty = true ↔ name = "" := String.isEmpty_iff
  have htaken : (h.find? name).isSome = true ↔ name ∈ h.names.map (·.1) :=
    isSome_lookup_iff name h.names
  rw [register]
  by_cases hname : name = ""
  · refine ⟨fun _ => ⟨_, if_pos (hempty.mpr hname), rfl⟩, fun hnot => absurd (.inl hname) hnot⟩
  · rw [if_neg (hname ∘ hempty.mp)]
    by_cases hmem : name ∈ h.names.map (·.1)
    · exact ⟨fun _ => ⟨_, if_pos (htaken.mpr hmem), rfl⟩, fun hnot => absurd (.inr hmem) hnot⟩
    · exact ⟨fun hor => (hor.elim hname hmem).elim, fun _ => if_neg (hmem ∘ htaken.mp)⟩

/-- **What a host was told**: the registrations that count, and all callbacks
    in order. -/
theorem told_eq (calls : List (Call φ)) :
    (told calls : Host ι φ) = ⟨[], registrations calls, calls.filterMap Call.loaded?,
      calls.filterMap Call.allLoaded?, [], false⟩ := by
  induction calls using List.reverseRecOn with
  | nil => rfl
  | append_singleton calls k ih =>
      rw [told_concat, registrations_concat, List.filterMap_append, List.filterMap_append]
      cases k with
      | register name ref =>
          obtain ⟨hrefused, haccepted⟩ := register_eq (told calls : Host ι φ) name ref
          rw [ih] at hrefused haccepted ⊢
          by_cases h : name = "" ∨ name ∈ (registrations calls).map (·.1)
          · obtain ⟨failure, hfailure, -⟩ := hrefused h
            simp only [call, hfailure, if_pos h]
            simp [Call.loaded?, Call.allLoaded?]
          · simp only [call, haccepted h, if_neg h]
            simp [Call.loaded?, Call.allLoaded?]
      | onLoaded name callback => simp [ih, call, addOnLoaded, Call.loaded?, Call.allLoaded?]
      | onAllLoaded callback => simp [ih, call, addOnAllLoaded, Call.loaded?, Call.allLoaded?]

/-- The names that count are different, and none is empty. -/
theorem nodup_registrations (calls : List (Call φ)) :
    ((registrations calls).map (·.1)).Nodup := by
  induction calls using List.reverseRecOn with
  | nil => exact List.nodup_nil
  | append_singleton calls k ih =>
      rw [registrations_concat]
      cases k with
      | register name ref =>
          dsimp only
          split
          · exact ih
          · next hnew =>
            rw [List.map_append, List.nodup_append]
            refine ⟨ih, List.pairwise_singleton _ _, ?_⟩
            intro other hold last hlast hsame
            have hname : last = name := List.mem_singleton.mp hlast
            exact hnew (.inr (hname ▸ hsame ▸ hold))
      | onLoaded name callback => exact ih
      | onAllLoaded callback => exact ih

end HttpExchange.Host
