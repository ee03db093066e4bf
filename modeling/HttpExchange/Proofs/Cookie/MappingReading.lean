import HttpExchange.Proofs.Cookie.Normalization
import HttpExchange.Proofs.Cookie.PairReading

/-! # Mappings and headers

    A cookie can be given as pairs or as a header.  A header is cut and trimmed
    before its attributes are read, and segments without a key are dropped;
    pairs are read as they are.  That makes no difference to the cookie: an
    attribute is trimmed when it is read, and one without a key is passed over.

    * `effect` is what is left of an attribute when the records are forgotten;
    * `result_applyAll_attributesOf` follows pairs and segments through all
      attributes. -/

namespace HttpExchange.Cookie

open Text

variable {now : Reading} {key value : List Char} {c : Cookie}

/-! ## What an attribute does -/

/-- What reading an attribute does to a cookie: the attribute is applied, it is
    passed over, or it is the end. -/
def effect : Except Attribute.Problem Attribute → Except Failure (Option Attribute)
  | .ok a => .ok (some a)
  | .error (.fatal fault) => .error (Attribute.Problem.fatal fault).failure
  | .error _ => .ok none

/-- A draft after an attribute that may have been passed over. -/
def Draft.change (d : Draft) : Option Attribute → Draft
  | some a => d.apply a
  | none => d

/-- The result of applying attributes depends on their effects only. -/
theorem result_applyAll_cons (d : Draft) (attributes : List (List Char × List Char)) :
    (d.applyAll now ((key, value) :: attributes)).result
      = (effect (Attribute.read now key value)).bind fun a? =>
          ((d.change a?).applyAll now attributes).result := by
  rw [Draft.applyAll]
  cases Attribute.read now key value with
  | ok a => rfl
  | error problem => cases problem <;> rfl

/-- Blanks around a key and a value have no effect. -/
theorem effect_read_trim (now : Reading) (key value : List Char) :
    effect (Attribute.read now (trim key) (trim value))
      = effect (Attribute.read now key value) := by
  rw [Attribute.read, Attribute.read, trim_trim, trim_trim]
  -- the two readings differ only in the key that is reported if it is unknown
  split <;> rfl

/-- An attribute without a key is passed over. -/
theorem effect_read_of_key_blank (h : trim key = []) :
    effect (Attribute.read now key value) = .ok none := by
  rw [← effect_read_trim, h]
  rfl

/-! ## Pairs and segments -/

/-- A pair as a segment of a header. -/
def segmentOf (pair : String × String) : List Char := pair.1.toList ++ '=' :: pair.2.toList

/-- Pairs joined to a header. -/
def joined (pairs : List (String × String)) : String :=
  String.ofList ([';'].intercalate (pairs.map segmentOf))

/-- Can the pair be told from its neighbours in a header, and its key from its
    value? -/
structure IsSeparable (pair : String × String) : Prop where
  equals_not_mem_key : '=' ∉ pair.1.toList
  semicolon_not_mem_key : ';' ∉ pair.1.toList
  semicolon_not_mem_value : ';' ∉ pair.2.toList

instance : DecidablePred IsSeparable := fun pair =>
  decidable_of_iff ('=' ∉ pair.1.toList ∧ ';' ∉ pair.1.toList ∧ ';' ∉ pair.2.toList)
    ⟨fun ⟨hequals, hkey, hvalue⟩ => ⟨hequals, hkey, hvalue⟩,
      fun h => ⟨h.equals_not_mem_key, h.semicolon_not_mem_key, h.semicolon_not_mem_value⟩⟩

variable {pair : String × String} {pairs : List (String × String)}

theorem IsSeparable.semicolon_not_mem (h : IsSeparable pair) : ';' ∉ segmentOf pair := by
  intro hmem
  rcases List.mem_append.mp hmem with hkey | hmem
  · exact h.semicolon_not_mem_key hkey
  · rcases List.mem_cons.mp hmem with e | hvalue
    · exact absurd e (by decide)
    · exact h.semicolon_not_mem_value hvalue

/-- The key and the text of a segment are those of its pair, trimmed. -/
theorem IsSeparable.keyOf_segmentOf (h : IsSeparable pair) :
    keyOf (segmentOf pair) = trim pair.1.toList ∧ textOf (segmentOf pair) = trim pair.2.toList := by
  have hpartition : partition '=' (segmentOf pair) = (pair.1.toList, some pair.2.toList) :=
    partition_append h.equals_not_mem_key
  constructor
  · rw [keyOf, hpartition]
  · rw [textOf, hpartition]
    rfl

/-- **Pairs and their segments have the same result**, on every draft. -/
theorem result_applyAll_attributesOf (h : ∀ pair ∈ pairs, IsSeparable pair) (d : Draft) :
    (d.applyAll now (attributesOf (pairs.map segmentOf))).result
      = (d.applyAll now (pairs.map fun (key, value) => (key.toList, value.toList))).result := by
  induction pairs generalizing d with
  | nil => rfl
  | cons pair rest ih =>
      have hrest := ih fun other hother => h other (List.mem_cons_of_mem pair hother)
      obtain ⟨hkey, htext⟩ := (h pair List.mem_cons_self).keyOf_segmentOf
      rw [List.map_cons, List.map_cons, attributesOf_cons, hkey, htext, result_applyAll_cons]
      by_cases hblank : trim pair.1.toList = []
      · rw [if_pos hblank, effect_read_of_key_blank hblank]
        exact hrest d
      · rw [if_neg hblank, result_applyAll_cons, effect_read_trim]
        exact congrArg _ (funext fun a? => hrest (d.change a?))

/-! ## Cookies -/

theorem IsText.equal_self {v : Value} (h : IsText v) : v.equal v = true := by
  rcases h.cases with ⟨s, rfl⟩ | ⟨s, rfl⟩
  · rw [Value.equal, beq_self_eq_true]
  · cases s <;> decide

/-- A typed cookie is equal to itself. -/
theorem IsTyped.equal_self (h : c.IsTyped) : c.equal c = true := by
  have hversion : c.version.equal c.version = true := by
    rcases h.version with e | e <;> rw [e] <;> rfl
  simp only [equal, hversion, h.name.equal_self, h.value.equal_self, h.comment.equal_self,
    h.domain.equal_self, h.path.equal_self, h.priority.equal_self, beq_self_eq_true, Bool.and_self]

/-- The segments of joined pairs are those of the pairs. -/
theorem segments_joined (h : ∀ other ∈ pair :: pairs, IsSeparable other) :
    segments ';' (joined (pair :: pairs)).toList = (segmentOf pair, pairs.map segmentOf) := by
  rw [joined, String.toList_ofList, List.map_cons]
  refine segments_join _ _ (h pair List.mem_cons_self).semicolon_not_mem ?_
  intro segment hsegment
  obtain ⟨other, hother, rfl⟩ := List.mem_map.mp hsegment
  exact (h other (List.mem_cons_of_mem pair hother)).semicolon_not_mem

/-- **Pairs and the header that they are joined to give the same result.** -/
theorem result_parse_joined {name value : String} (hname : IsName name.toList)
    (hvalue : IsBare value.toList) (h : ∀ pair ∈ pairs, IsSeparable pair) (now : Reading) :
    (parse (joined ((name, value) :: pairs)) now).result
      = (ofMapping ((name, value) :: pairs) now).result := by
  have hfirst : IsSeparable (name, value) :=
    ⟨hname.equals_not_mem, hname.semicolon_not_mem, hvalue.1⟩
  have hsegments := segments_joined (List.forall_mem_cons.mpr ⟨hfirst, h⟩)
  have hpair : namedPair? (segments ';' (joined ((name, value) :: pairs)).toList).1
      = some (name.toList, value.toList) := by
    rw [hsegments]
    exact namedPair?_pair hname hvalue.2.1 hvalue.2.2
  have hnonempty : ¬ name.isEmpty = true :=
    fun hempty => hname.ne_nil (String.toList_eq_nil_iff.mpr (String.isEmpty_iff.mp hempty))
  rw [parse_eq_withAttributes hpair, hsegments, ofMapping, if_neg hnonempty, ofText,
    String.ofList_toList, String.ofList_toList, withAttributes, withAttributes, Outcome.map,
    Outcome.map, result_applyAll_attributesOf h]

/-- **A mapping and its header agree**: they give equal cookies or fail alike. -/
theorem ofMapping_agrees {name value : String} (hname : IsName name.toList)
    (hvalue : IsBare value.toList) (h : ∀ pair ∈ pairs, IsSeparable pair) (now : Reading) :
    (∃ c d, (ofMapping ((name, value) :: pairs) now).result = .ok c ∧
      (parse (joined ((name, value) :: pairs)) now).result = .ok d ∧ c.equal d = true) ∨
    ∃ failure, (ofMapping ((name, value) :: pairs) now).result = .error failure ∧
      (parse (joined ((name, value) :: pairs)) now).result = .error failure := by
  have hresult := result_parse_joined hname hvalue h now
  cases hparse : (parse (joined ((name, value) :: pairs)) now).result with
  | ok c =>
      have hmapping := hresult.symm.trans hparse
      exact Or.inl ⟨c, c, hmapping, rfl, (isTyped_of_parse hparse).1.equal_self⟩
  | error failure =>
      have hmapping := hresult.symm.trans hparse
      exact Or.inr ⟨failure, hmapping, rfl⟩

/-- A blank key, an unknown one, blanks around a keyword in upper case, and
    values with equals signs and in quotes. -/
theorem ofMapping_agrees_untidy :
    let pairs := [("  ", "x"), ("\"Path\"", "a=b"), (" SECURE\t", "no"), ("Path", " \"/a=b\" "),
      ("max-age", "+1_0")]
    let now : Reading := .ok ⟨0, none⟩
    IsName "id".toList ∧ IsBare "a=\"b".toList ∧ (∀ pair ∈ pairs, IsSeparable pair) ∧
      ∃ c d, (ofMapping (("id", "a=\"b") :: pairs) now).result = .ok c ∧
        (parse (joined (("id", "a=\"b") :: pairs)) now).result = .ok d ∧ c.equal d = true ∧
        c = { ofPair (.str "id") (.str "a=\"b") with
          path := .str "/a=b", secure := true, maxAge := 10 } := by
  intro pairs now
  have hname : IsName "id".toList := by decide
  have hvalue : IsBare "a=\"b".toList := by decide
  have hpairs : ∀ pair ∈ pairs, IsSeparable pair := by decide
  have hread : (ofMapping (("id", "a=\"b") :: pairs) now).result
      = .ok { ofPair (.str "id") (.str "a=\"b") with
          path := .str "/a=b", secure := true, maxAge := 10 } := by rfl
  refine ⟨hname, hvalue, hpairs, ?_⟩
  rcases ofMapping_agrees hname hvalue hpairs now with ⟨c, d, hc, hd, hequal⟩ | ⟨failure, hfails, -⟩
  · exact ⟨c, d, hc, hd, hequal, Except.ok.inj (hc.symm.trans hread)⟩
  · rw [hread] at hfails
    exact nomatch hfails

end HttpExchange.Cookie
