import HttpExchange.Proofs.Cookie.Normalization

/-! # Assignments to the fields of a cookie

    A field converts what it is set to, or refuses it.  Whatever is assigned to
    a cookie, in whatever order, its fields keep to their types, and one
    assignment touches one field.

    * `Field.convert` is what becomes of a value, and `get_set` says that a
      field then holds it;
    * `Field.Takes` are the values of the type of a field, and `takes_convert`
      says that there is one exception: a version may be a double;
    * `takes_assignAll` follows a cookie from the way in which it was made
      through any assignments. -/

namespace HttpExchange.Cookie

open Text

variable {c d : Cookie} {f g : Field} {v w : Value} {now : Reading}

/-! ## Conversions -/

/-- What a value is converted to by a field, unless it is refused. -/
def Field.convert : Field → Value → Except Failure Value
  | .version, v => versionOf v
  | .secure, v => .ok (.bool v.truthy)
  | .maxAge, v => (ageOf v).map .int
  | .httpOnly, v => .ok (.bool v.truthy)
  | .sameSite, v => (SameSite.ofValue v).map .sameSite
  | _, v => .ok v

/-- A conversion that is wrapped succeeds where the conversion does. -/
theorem exists_of_map_eq_ok {α β : Type} {r : Except Failure α} {make : α → β} {b : β}
    (h : r.map make = .ok b) : ∃ a, make a = b := by
  cases r with
  | error failure => exact nomatch h
  | ok a => exact ⟨a, Except.ok.inj h⟩

/-- **A field that is set** holds what the value was converted to, and it is set
    unless the conversion fails. -/
theorem get_set (c : Cookie) (f : Field) (v : Value) :
    (c.set f v).map (·.get f) = f.convert v := by
  cases f
  case version =>
    rw [set, Field.convert]
    cases versionOf v <;> rfl
  case maxAge =>
    rw [set, Field.convert]
    cases ageOf v <;> rfl
  case sameSite =>
    rw [set, Field.convert]
    cases SameSite.ofValue v <;> rfl
  all_goals rfl

/-- **The other fields** are left alone. -/
theorem get_set_ne (h : c.set f v = .ok d) (hne : g ≠ f) : d.get g = c.get g := by
  cases f
  case version | maxAge | sameSite =>
    obtain ⟨_, rfl⟩ := exists_of_map_eq_ok h
    cases g <;> first | rfl | exact absurd rfl hne
  all_goals
    obtain rfl := Except.ok.inj h
    cases g <;> first | rfl | exact absurd rfl hne

/-! ## Types -/

/-- The values of the type of a field.  A field for text takes any value. -/
def Field.Takes : Field → Value → Prop
  | .version, v => v = .int 0 ∨ v = .int 1
  | .secure, v => ∃ b, v = .bool b
  | .maxAge, v => ∃ n, v = .int n
  | .httpOnly, v => ∃ b, v = .bool b
  | .sameSite, v => ∃ s, v = .sameSite s
  | _, _ => True

/-- A double that counts as a version: it denotes zero or one. -/
def IsVersionDouble (x : Float) : Prop := Value.floatIsInt x 0 = true ∨ Value.floatIsInt x 1 = true

/-- The values that are equal to a version, truth values apart. -/
theorem equal_version_iff (hbool : ∀ b, v ≠ .bool b) :
    v.equal (.int 0) = true ∨ v.equal (.int 1) = true ↔
      Field.version.Takes v ∨ ∃ x, v = .float x ∧ IsVersionDouble x := by
  cases v with
  | bool b => exact absurd rfl (hbool b)
  | int n => simp [Value.equal, Field.Takes]
  | float x => simp [Value.equal, Field.Takes, IsVersionDouble]
  | _ => simp [Value.equal, Field.Takes]

/-- **What a version may be set to**: the two integers that a version is, and
    the doubles that denote them. -/
theorem versionOf_eq_ok_iff :
    versionOf v = .ok w ↔
      w = v ∧ (Field.version.Takes v ∨ ∃ x, v = .float x ∧ IsVersionDouble x) := by
  unfold versionOf
  split
  · next b => simp [Field.Takes]
  · next hbool =>
    rw [← equal_version_iff (fun b h => hbool b h), ← Bool.or_eq_true]
    split
    · next hequal => simp [hequal, eq_comm]
    · next hequal => simp [hequal]

/-- **What a field comes to hold** has the type of the field, unless it is a
    version and a double was assigned. -/
theorem takes_convert (h : f.convert v = .ok w) :
    f.Takes w ∨ (f = .version ∧ w = v ∧ ∃ x, v = .float x ∧ IsVersionDouble x) := by
  cases f
  case version =>
    obtain ⟨rfl, htakes | hdouble⟩ := versionOf_eq_ok_iff.mp h
    · exact .inl htakes
    · exact .inr ⟨rfl, rfl, hdouble⟩
  case secure | httpOnly => exact .inl ⟨_, (Except.ok.inj h).symm⟩
  case maxAge | sameSite =>
    obtain ⟨a, rfl⟩ := exists_of_map_eq_ok h
    exact .inl ⟨a, rfl⟩
  all_goals exact .inl trivial

/-! ## Ways in which a cookie is made -/

/-- A cookie is made of a name and a value of any kind, of a Set-Cookie header,
    of a mapping, or of a pair in a request's Cookie header. -/
inductive Made : Cookie → Prop where
  | pair (name value : Value) : Made (ofPair name value)
  | header {text : String} {now : Reading} {c : Cookie} (h : (parse text now).result = .ok c) :
      Made c
  | mapping {pairs : List (String × String)} {now : Reading} {c : Cookie}
      (h : (ofMapping pairs now).result = .ok c) : Made c
  | request {text : String} {c : Cookie} (h : c ∈ requestCookies text) : Made c

/-- An attribute that is read as a version is one. -/
theorem takes_of_read {key value : List Char} {n : Int}
    (h : Attribute.read now key value = .ok (.version n)) : Field.version.Takes (.int n) := by
  have hreads := reads_read now key value
  rw [h] at hreads
  cases hreads with
  | valid hkey hvalue =>
      obtain rfl := (Keyword.of_attribute? hvalue).1
      obtain ⟨m, hm, hmake⟩ := Option.map_eq_some_iff.mp hvalue
      cases hmake
      rcases of_readVersion hm with rfl | rfl
      · exact .inl rfl
      · exact .inr rfl

/-- Attributes keep the type of the version. -/
theorem takes_withAttributes {attributes : List (List Char × List Char)}
    (hc : Field.version.Takes c.version) (h : (c.withAttributes now attributes).result = .ok d) :
    Field.version.Takes d.version := by
  obtain ⟨e, he, rfl⟩ := withAttributes_eq_ok h
  rw [finish_eq]
  refine applyAll_preserves (I := fun e => Field.version.Takes e.cookie.version) ?_ hc he
  intro key value _ a hread e hI
  cases a with
  | version n => exact takes_of_read hread
  | _ => exact hI

/-- The other fields hold values of their types in every cookie. -/
theorem takes_get_of_ne (c : Cookie) (hne : f ≠ .version) : f.Takes (c.get f) := by
  cases f
  case version => exact absurd rfl hne
  case secure | maxAge | httpOnly | sameSite => exact ⟨_, rfl⟩
  all_goals trivial

/-- **However a cookie is made**, its version is zero or one. -/
theorem Made.takes (h : Made c) : Field.version.Takes c.version := by
  have hzero : Field.version.Takes (.int 0) := .inl rfl
  cases h with
  | pair name value => exact hzero
  | header h =>
      obtain ⟨name, value, -, hattributes⟩ := parse_eq_ok h
      exact takes_withAttributes (c := ofText name value) hzero hattributes
  | @mapping pairs _ _ h =>
      cases pairs with
      | nil => exact nomatch h
      | cons pair rest =>
          rw [ofMapping] at h
          split at h
          · exact nomatch h
          · exact takes_withAttributes (c := ofPair (.str pair.1) (.str pair.2)) hzero h
  | request h =>
      obtain ⟨⟨name, value⟩, -, rfl⟩ := List.mem_map.mp h
      exact hzero

/-! ## Assignments -/

/-- A value for a field. -/
structure Assignment where
  field : Field
  value : Value

/-- Assign a value to a field.  A value that is refused leaves the cookie as it
    was. -/
def assign (c : Cookie) (a : Assignment) : Transition Cookie Unit :=
  match c.set a.field a.value with
  | .ok d => .done d ()
  | .error failure => .fail c failure

/-- A cookie after assignments, which go on when one of them is refused. -/
def assignAll (c : Cookie) (as : List Assignment) : Cookie :=
  as.foldl (fun c a => (c.assign a).state) c

/-- What an assignment to a cookie comes to: the conversion of the value decides
    whether it is refused, the field holds what the value was converted to, and
    nothing else changes. -/
structure Assigned (c : Cookie) (a : Assignment) (t : Transition Cookie Unit) : Prop where
  result : t.result = (a.field.convert a.value).map fun _ => ()
  refused : ∀ failure, t.result = .error failure → t.state = c
  accepted : t.result = .ok () → a.field.convert a.value = .ok (t.state.get a.field)
  others : ∀ f, f ≠ a.field → t.state.get f = c.get f

/-- **Every assignment** comes to this. -/
theorem assigned_assign (c : Cookie) (a : Assignment) : Assigned c a (c.assign a) := by
  have hget := get_set c a.field a.value
  rw [assign]
  cases hset : c.set a.field a.value with
  | ok d =>
      rw [hset] at hget
      exact
        { result := congrArg (Except.map fun _ => ()) hget
          refused := fun _ h => nomatch h
          accepted := fun _ => hget.symm
          others := fun _ hne => get_set_ne hset hne }
  | error failure =>
      rw [hset] at hget
      exact
        { result := congrArg (Except.map fun _ => ()) hget
          refused := fun _ _ => rfl
          accepted := fun h => nomatch h
          others := fun _ _ => rfl }

/-- Does a field hold a value of its type, or a double that was assigned to the
    version? -/
def Keeps (as : List Assignment) (c : Cookie) (f : Field) : Prop :=
  f.Takes (c.get f) ∨
    (f = .version ∧ ∃ x, c.get f = .float x ∧ IsVersionDouble x ∧ ⟨.version, .float x⟩ ∈ as)

theorem Keeps.mono {as bs : List Assignment} (h : Keeps as c f) (hsub : as ⊆ bs)
    (hget : d.get f = c.get f) : Keeps bs d f := by
  rw [Keeps, hget]
  rcases h with htakes | ⟨hf, x, hx, hdouble, hmem⟩
  · exact .inl htakes
  · exact .inr ⟨hf, x, hx, hdouble, hsub hmem⟩

/-- One more assignment. -/
theorem Keeps.assign {as : List Assignment} (h : ∀ f, Keeps as c f) (a : Assignment) (f : Field) :
    Keeps (as ++ [a]) (c.assign a).state f := by
  have hassigned := assigned_assign c a
  have hsub : as ⊆ as ++ [a] := List.subset_append_left as [a]
  cases hresult : (c.assign a).result with
  | error failure => exact (h f).mono hsub (congrArg (·.get f) (hassigned.refused failure hresult))
  | ok _ =>
      by_cases hf : f = a.field
      · obtain ⟨field, value⟩ := a
        subst hf
        rcases takes_convert (hassigned.accepted hresult) with
          htakes | ⟨hversion, hvalue, x, hx, hdouble⟩
        · exact .inl htakes
        · subst hversion hx
          exact .inr ⟨rfl, x, hvalue, hdouble, List.mem_append_right as List.mem_cons_self⟩
      · exact (h f).mono hsub (hassigned.others f hf)

theorem keeps_assignAll (h : Made c) (as : List Assignment) (f : Field) :
    Keeps as (c.assignAll as) f := by
  induction as using List.reverseRecOn generalizing f with
  | nil =>
      by_cases hf : f = .version
      · subst hf
        exact .inl h.takes
      · exact .inl (takes_get_of_ne c hf)
  | append_singleton as a ih =>
      rw [assignAll, List.foldl_append]
      exact Keeps.assign ih a f

/-- **The fields of a cookie keep their types** through any assignments, unless
    a double that denotes zero or one is assigned to the version; and every
    assignment changes its own field or nothing at all. -/
theorem takes_assignAll (h : Made c) (as : List Assignment) (a : Assignment) :
    (∀ f, f.Takes ((c.assignAll as).get f) ∨
        (f = .version ∧ ∃ x, (c.assignAll as).get f = .float x ∧ IsVersionDouble x ∧
          ⟨.version, .float x⟩ ∈ as)) ∧
      Assigned (c.assignAll as) a ((c.assignAll as).assign a) :=
  ⟨keeps_assignAll h as, assigned_assign _ a⟩

/-- A cookie of version 1 is read, an age, a flag and a word are assigned to it,
    and a truth value is refused as its version. -/
theorem takes_assignAll_refused :
    let text := "id=7; Version=1; Max-Age=60"
    let c : Cookie := { ofText ['i', 'd'] ['7'] with version := .int 1, maxAge := 60 }
    let as : List Assignment :=
      [⟨.maxAge, .duration 90500000⟩, ⟨.secure, .list []⟩, ⟨.sameSite, .str " LAX "⟩]
    let a : Assignment := ⟨.version, .bool true⟩
    (parse text (.ok ⟨0, none⟩)).result = .ok c ∧
      ((c.assignAll as).maxAge = 90 ∧ (c.assignAll as).sameSite = .lax) ∧
      ((c.assignAll as).assign a).result = .error (.cookieVersion (.bool true)) ∧
      (∀ f, f.Takes ((c.assignAll as).get f) ∨
        (f = .version ∧ ∃ x, (c.assignAll as).get f = .float x ∧ IsVersionDouble x ∧
          ⟨.version, .float x⟩ ∈ as)) ∧
      Assigned (c.assignAll as) a ((c.assignAll as).assign a) := by
  have hparse : (parse "id=7; Version=1; Max-Age=60" (.ok ⟨0, none⟩)).result
      = .ok { ofText ['i', 'd'] ['7'] with version := .int 1, maxAge := 60 } := rfl
  exact ⟨hparse, ⟨rfl, rfl⟩, rfl, takes_assignAll (.header hparse) _ _⟩

/-- **A version may be a double**: one that denotes 1 is kept as it is. -/
theorem assignAll_double_version :
    Made (ofPair (.str "k") (.str "")) ∧
      ((ofPair (.str "k") (.str "")).assignAll [⟨.version, .float 1.0⟩]).get .version
        = .float 1.0 ∧
      ¬ Field.version.Takes
        (((ofPair (.str "k") (.str "")).assignAll [⟨.version, .float 1.0⟩]).get .version) := by
  have haccepted : versionOf (.float 1.0) = .ok (.float 1.0) :=
    versionOf_eq_ok_iff.mpr ⟨rfl, .inr ⟨1.0, rfl, .inr (by decide)⟩⟩
  have hversion :
      ((ofPair (.str "k") (.str "")).assignAll [⟨.version, .float 1.0⟩]).get .version
        = .float 1.0 := by
    show (assign _ ⟨.version, .float 1.0⟩).state.get .version = _
    rw [assign, set, haccepted]
    rfl
  refine ⟨.pair _ _, hversion, ?_⟩
  rw [hversion]
  rintro (h | h)
  · exact nomatch h
  · exact nomatch h

end HttpExchange.Cookie
