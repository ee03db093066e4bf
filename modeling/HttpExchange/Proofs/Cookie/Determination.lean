import HttpExchange.Proofs.Cookie.Segments

/-! # What the fields of a cookie are determined by

    Every field of a cookie that is read from a header is determined by the
    segments with one keyword, or two in the case of the age: by the last of
    them whose value can be used.  So segments with different keywords may
    change places, and a value that cannot be used does not hide an earlier one
    that can.

    * `Slot` is the part of a draft that one keyword sets, and
      `Slot.get_applied` says once for all of them that the last one wins;
    * `described` is the cookie that segments describe, field by field, and
      `finish_applied` finds it at the end of the reader's work;
    * `parse_described` says it of headers, with the records that are left. -/

namespace HttpExchange.Cookie

open Text

variable {now : Reading} {α β : Type} {others others' : List (List Char)}

/-! ## The last value of a keyword -/

/-- The values of the segments with a keyword, in order. -/
def valuesOf (k : Keyword) (others : List (List Char)) : List (List Char) :=
  (others.filter (keyword · = k.word.toList)).map valueOf

/-- What the last value of a keyword says, of those that can be read. -/
def last? (read : List Char → Option α) (k : Keyword) (others : List (List Char)) : Option α :=
  ((valuesOf k others).filterMap read).getLast?

/-- The last value of a keyword, empty if there is none. -/
def lastText (k : Keyword) (others : List (List Char)) : Value :=
  .str (String.ofList ((valuesOf k others).getLast?.getD []))

/-- Is there a segment with the keyword? -/
def occurs (k : Keyword) (others : List (List Char)) : Bool :=
  others.any (keyword · = k.word.toList)

/-- What is made of what was read is made of the last one. -/
theorem last?_map (f : α → β) (read : List Char → Option α) (k : Keyword)
    (others : List (List Char)) :
    last? (fun value => (read value).map f) k others = (last? read k others).map f := by
  rw [last?, last?, ← List.map_filterMap, List.getLast?_map]

theorem last?_some (f : List Char → α) (k : Keyword) (others : List (List Char)) :
    last? (fun value => some (f value)) k others = (valuesOf k others).getLast?.map f := by
  have hall : (valuesOf k others).filterMap (fun value => some (f value))
      = (valuesOf k others).map f := congrFun List.filterMap_eq_map _
  rw [last?, hall, List.getLast?_map]

/-- If every value is text, the last one is the last text. -/
theorem last?_text (k : Keyword) (others : List (List Char)) :
    (last? (fun value => some (Value.str (String.ofList value))) k others).getD (.str "")
      = lastText k others := by
  rw [last?_some, lastText]
  cases (valuesOf k others).getLast? with
  | none => rfl
  | some value => rfl

theorem occurs_eq (k : Keyword) (others : List (List Char)) :
    occurs k others = (valuesOf k others).getLast?.isSome := by
  rw [Bool.eq_iff_iff, occurs, List.any_eq_true, List.getLast?_isSome, valuesOf]
  simp only [ne_eq, List.map_eq_nil_iff, List.filter_eq_nil_iff, not_forall, not_not, exists_prop]

/-- If every value sets a flag, one of them is enough. -/
theorem last?_flag (k : Keyword) (others : List (List Char)) :
    (last? (fun _ => some true) k others).getD false = occurs k others := by
  rw [last?_some, occurs_eq]
  cases (valuesOf k others).getLast? with
  | none => rfl
  | some value => rfl

/-! ## The parts of a draft -/

/-- A part of a draft that a single keyword sets: what an attribute sets it to,
    and what a value after the keyword does. -/
structure Slot (now : Reading) (α : Type) where
  keyword : Keyword
  get : Draft → α
  set? : Attribute → Option α
  read : List Char → Option α
  get_apply : ∀ d a, get (d.apply a) = (set? a).getD (get d) := by
    intro d a
    cases a <;> rfl
  keyword_of_set? : ∀ a v, set? a = some v → a.keyword = keyword := by
    intro a v h
    cases a <;> first | rfl | exact nomatch h
  bind_attribute? : ∀ value, (keyword.attribute? now value).bind set? = read value := by
    exact fun _ => rfl

namespace Slot

/-- **The last attribute wins.** -/
theorem get_foldl (slot : Slot now α) (attributes : List Attribute) (d : Draft) :
    slot.get (attributes.foldl Draft.apply d)
      = ((attributes.filterMap slot.set?).getLast?).getD (slot.get d) := by
  induction attributes generalizing d with
  | nil => rfl
  | cons a rest ih =>
      rw [List.foldl_cons, ih, slot.get_apply]
      -- what the first attribute sets is what the others start from
      cases hset : slot.set? a with
      | none =>
          rw [List.filterMap_cons_none hset]
          rfl
      | some v =>
          rw [List.filterMap_cons_some hset, List.getLast?_cons]
          rfl

/-- An attribute with another keyword does not set the part. -/
theorem bind_attribute?_of_ne (slot : Slot now α) {k : Keyword} (hk : k ≠ slot.keyword)
    (value : List Char) : (k.attribute? now value).bind slot.set? = none := by
  rw [Option.bind_eq_none_iff]
  intro a ha
  cases hset : slot.set? a with
  | none => rfl
  | some v =>
      have hkeyword := slot.keyword_of_set? a v hset
      exact absurd ((Keyword.of_attribute? ha).1.symm.trans hkeyword) hk

/-- What a segment says matters if it has the keyword of the part. -/
theorem bind_attributeIn? (slot : Slot now α) (segment : List Char) :
    (attributeIn? now segment).bind slot.set?
      = if Cookie.keyword segment = slot.keyword.word.toList then slot.read (valueOf segment)
        else none := by
  rw [attributeIn?]
  by_cases hword : Cookie.keyword segment = slot.keyword.word.toList
  · rw [if_pos hword, Keyword.ofText?_eq_some_iff.mpr hword]
    exact slot.bind_attribute? (valueOf segment)
  · rw [if_neg hword]
    -- the keyword is unknown, or known and that of another part
    cases hknown : Keyword.ofText? (Cookie.keyword segment) with
    | none => rfl
    | some k =>
        refine slot.bind_attribute?_of_ne ?_ (valueOf segment)
        rintro rfl
        exact hword (Keyword.ofText?_eq_some_iff.mp hknown)

/-- **The last readable value wins**: segments set a part of a draft to what
    the last value of its keyword says that can be read. -/
theorem get_applied (slot : Slot now α) (others : List (List Char)) (d : Draft) :
    slot.get ((others.filterMap (attributeIn? now)).foldl Draft.apply d)
      = (last? slot.read slot.keyword others).getD (slot.get d) := by
  have hvalues : (others.filterMap (attributeIn? now)).filterMap slot.set?
      = (valuesOf slot.keyword others).filterMap slot.read := by
    rw [List.filterMap_filterMap, valuesOf, List.filterMap_map, List.filterMap_filter]
    refine congrArg (List.filterMap · others) (funext fun segment => ?_)
    rw [slot.bind_attributeIn?]
    simp only [decide_eq_true_eq, Function.comp_apply]
  rw [slot.get_foldl, hvalues, last?]

def comment : Slot now Value where
  keyword := .comment
  get d := d.cookie.comment
  set? | .comment s => some (.str s) | _ => none
  read value := some (.str (String.ofList value))

def domain : Slot now Value where
  keyword := .domain
  get d := d.cookie.domain
  set? | .domain s => some (.str s) | _ => none
  read value := some (.str (String.ofList value))

def path : Slot now Value where
  keyword := .path
  get d := d.cookie.path
  set? | .path s => some (.str s) | _ => none
  read value := some (.str (String.ofList value))

def priority : Slot now Value where
  keyword := .priority
  get d := d.cookie.priority
  set? | .priority s => some (.str s) | _ => none
  read value := some (.str (String.ofList value))

def secure : Slot now Bool where
  keyword := .secure
  get d := d.cookie.secure
  set? | .secure => some true | _ => none
  read _ := some true

def httpOnly : Slot now Bool where
  keyword := .httpOnly
  get d := d.cookie.httpOnly
  set? | .httpOnly => some true | _ => none
  read _ := some true

def version : Slot now Value where
  keyword := .version
  get d := d.cookie.version
  set? | .version n => some (.int n) | _ => none
  read value := (readVersion value).map .int
  bind_attribute? value := by
    show ((readVersion value).map _).bind _ = _
    cases readVersion value <;> rfl

def sameSite : Slot now SameSite where
  keyword := .sameSite
  get d := d.cookie.sameSite
  set? | .sameSite s => some s | _ => none
  read value := SameSite.ofWord? value
  bind_attribute? value := by
    show ((SameSite.ofWord? value).map _).bind _ = _
    cases SameSite.ofWord? value <;> rfl

/-- The age, and whether one was given. -/
def age : Slot now (Bool × Int) where
  keyword := .maxAge
  get d := (d.hasAge, d.cookie.maxAge)
  set? | .maxAge seconds => some (true, seconds) | _ => none
  read value := (readAge value).map (true, ·)
  bind_attribute? value := by
    show ((readAge value).map _).bind _ = _
    cases readAge value <;> rfl

/-- The seconds left until the last expiry date. -/
def expires : Slot now (Option Int) where
  keyword := .expires
  get d := d.expires
  set? | .expires seconds => some (some seconds) | _ => none
  read value := (secondsUntil now value).toOption.map some
  bind_attribute? value := by
    show ((secondsUntil now value).toOption.map _).bind _ = _
    cases (secondsUntil now value).toOption <;> rfl

end Slot

/-! ## The cookie that segments describe -/

/-- The cookie that segments describe, field by field. -/
def described (now : Reading) (name value : List Char) (others : List (List Char)) : Cookie where
  name := .str (String.ofList name)
  value := .str (String.ofList value)
  domain := lastText .domain others
  path := lastText .path others
  priority := lastText .priority others
  comment := lastText .comment others
  secure := occurs .secure others
  httpOnly := occurs .httpOnly others
  version := .int ((last? readVersion .version others).getD 0)
  sameSite := (last? SameSite.ofWord? .sameSite others).getD .notSpecified
  maxAge :=
    match last? (fun value => (Integer.read value).toOption) .maxAge others with
    | some n => max 0 n
    | none => (last? (fun value => (secondsUntil now value).toOption) .expires others).getD (-1)

/-- The draft of a cookie once what segments say was applied. -/
def applied (now : Reading) (name value : List Char) (others : List (List Char)) : Draft :=
  (others.filterMap (attributeIn? now)).foldl Draft.apply (Draft.ofCookie (ofText name value))

/-- Attributes do not touch the name and the value of a cookie. -/
theorem foldl_apply_pair (attributes : List Attribute) (d : Draft) :
    (attributes.foldl Draft.apply d).cookie.name = d.cookie.name ∧
      (attributes.foldl Draft.apply d).cookie.value = d.cookie.value := by
  induction attributes generalizing d with
  | nil => exact ⟨rfl, rfl⟩
  | cons a rest ih =>
      obtain ⟨hname, hvalue⟩ := ih (d.apply a)
      exact ⟨hname.trans (apply_pair d a).1, hvalue.trans (apply_pair d a).2⟩

theorem finish_maxAge (d : Draft) :
    d.finish.maxAge = if d.hasAge then d.cookie.maxAge else d.expires.getD d.cookie.maxAge := by
  rw [Draft.finish]
  cases d.expires <;> cases d.hasAge <;> rfl

/-- The age is what `Max-Age` says, or else what `Expires` says. -/
theorem maxAge_applied (now : Reading) (name value : List Char) (others : List (List Char)) :
    (applied now name value others).finish.maxAge = (described now name value others).maxAge := by
  have hage : ((applied now name value others).hasAge,
      (applied now name value others).cookie.maxAge)
      = ((last? (fun value => (Integer.read value).toOption) .maxAge others).map
          fun n => (true, max 0 n)).getD (false, -1) := by
    refine (Slot.age.get_applied others _).trans ?_
    show (last? (fun value => ((Integer.read value).toOption.map (max 0)).map (true, ·))
      .maxAge others).getD (false, -1) = _
    rw [last?_map, last?_map, Option.map_map]
    rfl
  have hexpires : (applied now name value others).expires
      = last? (fun value => (secondsUntil now value).toOption) .expires others := by
    refine (Slot.expires.get_applied others _).trans ?_
    show (last? (fun value => (secondsUntil now value).toOption.map some) .expires others).getD none
      = _
    rw [last?_map]
    cases last? (fun value => (secondsUntil now value).toOption) .expires others <;> rfl
  -- without an age the draft still has the age of a new cookie, which `Expires` replaces
  rw [finish_maxAge, hexpires, described]
  dsimp only
  cases hlast : last? (fun value => (Integer.read value).toOption) .maxAge others with
  | none =>
      rw [hlast] at hage
      obtain ⟨hgiven, hseconds⟩ := Prod.mk.inj hage
      rw [hgiven, hseconds]
      rfl
  | some n =>
      rw [hlast] at hage
      obtain ⟨hgiven, hseconds⟩ := Prod.mk.inj hage
      rw [hgiven, hseconds]
      rfl

/-- **Segments are what they describe**: applying what each of them says, in
    order, gives the cookie in which the last ones win. -/
theorem finish_applied (now : Reading) (name value : List Char) (others : List (List Char)) :
    (applied now name value others).finish = described now name value others := by
  have hpair := foldl_apply_pair (others.filterMap (attributeIn? now))
    (Draft.ofCookie (ofText name value))
  have hname : (applied now name value others).cookie.name = .str (String.ofList name) := hpair.1
  have hvalue : (applied now name value others).cookie.value = .str (String.ofList value) := hpair.2
  have hcomment : (applied now name value others).cookie.comment = lastText .comment others :=
    (Slot.comment.get_applied others _).trans (last?_text _ _)
  have hdomain : (applied now name value others).cookie.domain = lastText .domain others :=
    (Slot.domain.get_applied others _).trans (last?_text _ _)
  have hpath : (applied now name value others).cookie.path = lastText .path others :=
    (Slot.path.get_applied others _).trans (last?_text _ _)
  have hpriority : (applied now name value others).cookie.priority = lastText .priority others :=
    (Slot.priority.get_applied others _).trans (last?_text _ _)
  have hsecure : (applied now name value others).cookie.secure = occurs .secure others :=
    (Slot.secure.get_applied others _).trans (last?_flag _ _)
  have hhttpOnly : (applied now name value others).cookie.httpOnly = occurs .httpOnly others :=
    (Slot.httpOnly.get_applied others _).trans (last?_flag _ _)
  have hsameSite : (applied now name value others).cookie.sameSite
      = (last? SameSite.ofWord? .sameSite others).getD .notSpecified :=
    Slot.sameSite.get_applied others _
  have hversion : (applied now name value others).cookie.version
      = .int ((last? readVersion .version others).getD 0) := by
    refine (Slot.version.get_applied others _).trans ?_
    show (last? (fun value => (readVersion value).map Value.int) .version others).getD (.int 0) = _
    rw [last?_map]
    cases last? readVersion .version others <;> rfl
  rw [finish_eq, maxAge_applied]
  dsimp only
  rw [hname, hvalue, hcomment, hdomain, hpath, hpriority, hsecure, hhttpOnly, hsameSite, hversion]
  rfl

/-! ## The order of segments -/

/-- Are the second segments the first ones in an order in which segments with
    the same keyword stand as before? -/
def Rearranged (others others' : List (List Char)) : Prop :=
  ∀ word, others'.filter (keyword · = word) = others.filter (keyword · = word)

/-- Neighbours with different keywords may change places. -/
theorem rearranged_swap {s t : List Char} (h : keyword s ≠ keyword t)
    (front back : List (List Char)) :
    Rearranged (front ++ s :: t :: back) (front ++ t :: s :: back) := by
  intro word
  rw [List.filter_append, List.filter_append]
  refine congrArg (front.filter (keyword · = word) ++ ·) ?_
  by_cases hs : keyword s = word
  · have ht : ¬ keyword t = word := fun ht => h (hs.trans ht.symm)
    simp only [List.filter_cons, hs, ht, decide_true, decide_false, if_true, if_false,
      Bool.false_eq_true]
  · simp only [List.filter_cons, hs, decide_false, if_false, Bool.false_eq_true]

theorem Rearranged.perm (h : Rearranged others others') : others'.Perm others := by
  rw [List.perm_iff_count]
  intro segment
  have hcount : ∀ l : List (List Char),
      (l.filter (keyword · = keyword segment)).count segment = l.count segment :=
    fun l => List.count_filter (decide_eq_true rfl)
  rw [← hcount others', h (keyword segment), hcount others]

theorem Rearranged.described (h : Rearranged others others') (now : Reading)
    (name value : List Char) :
    described now name value others' = described now name value others := by
  have hvalues : ∀ k, valuesOf k others' = valuesOf k others :=
    fun k => congrArg (List.map valueOf) (h k.word.toList)
  have htext : ∀ k, lastText k others' = lastText k others := by
    intro k
    rw [lastText, hvalues, lastText]
  have hlast : ∀ {α : Type} (read : List Char → Option α) k,
      last? read k others' = last? read k others := by
    intro α read k
    rw [last?, hvalues, last?]
  have hoccurs : ∀ k, occurs k others' = occurs k others := fun k => h.perm.any_eq
  simp only [Cookie.described, htext, hlast, hoccurs]

/-! ## Headers -/

/-- Whether all attributes can be reckoned with does not depend on their
    order. -/
theorem headerBeyond_congr {header header' : String}
    (h : (segments ';' header'.toList).2.Perm (segments ';' header.toList).2) :
    HeaderBeyond now header' ↔ HeaderBeyond now header := by
  have hattributes : (attributesOf (segments ';' header'.toList).2).Perm
      (attributesOf (segments ';' header.toList).2) := (h.map keyValue).filterMap _
  simp only [HeaderBeyond, hattributes.mem_iff]

/-- A header whose first segment holds a name and a value is not malformed. -/
theorem not_malformed {header : String} {name value : List Char}
    (h : namedPair? (segments ';' header.toList).1 = some (name, value)) : ¬ Malformed header := by
  rintro (hblank | hnone)
  · -- the equals sign of the first segment is no blank
    obtain ⟨after, hafter, -⟩ := namedPair?_eq_some h
    have hmem : '=' ∈ header.toList := by
      refine (segments_fst_sublist ';' header.toList).subset ?_
      rw [eq_of_partition_some hafter]
      exact List.mem_append_right _ List.mem_cons_self
    have htrim : '=' ∈ trim header.toList := mem_trim (by decide) hmem
    rw [hblank] at htrim
    exact List.not_mem_nil htrim
  · rw [h] at hnone
    exact nomatch hnone

/-- A header that starts with a name and a value is read as a cookie with the
    attributes in its other segments. -/
theorem parse_eq_withAttributes {header : String} {name value : List Char}
    (h : namedPair? (segments ';' header.toList).1 = some (name, value)) (now : Reading) :
    parse header now
      = (ofText name value).withAttributes now (attributesOf (segments ';' header.toList).2) := by
  have hblank : ¬ (trim header.toList).isEmpty = true :=
    fun hempty => not_malformed h (Or.inl (List.isEmpty_iff.mp hempty))
  rw [parse, if_neg hblank]
  dsimp only
  rw [h]

/-- **Which headers are read**: those that start with a name and a value and can
    be reckoned with. -/
theorem parse_of_pair {header : String} {name value : List Char}
    (h : namedPair? (segments ';' header.toList).1 = some (name, value))
    (hreckonable : ¬ HeaderBeyond now header) :
    parse header now
      = ⟨((segments ';' header.toList).2.filter (isReported now)).map (report name),
          .ok (described now name value (segments ';' header.toList).2)⟩ := by
  have hattributes := applyAll_attributesOf (d := Draft.ofCookie (ofText name value)) rfl
    (fun key value hmem hbeyond => hreckonable ⟨key, value, hmem, hbeyond⟩)
  rw [parse_eq_withAttributes h, withAttributes, hattributes, ← finish_applied]
  rfl

theorem not_headerBeyond_of_parse {header : String} {c : Cookie}
    (h : (parse header now).result = .ok c) : ¬ HeaderBeyond now header := by
  intro hbeyond
  obtain ⟨name, value, hpair, -⟩ := parse_eq_ok h
  obtain ⟨failure, hfailure, -⟩ := parse_of_beyond (not_malformed hpair) hbeyond
  rw [h] at hfailure
  exact nomatch hfailure

/-- A header that is read has a pair, and gives what its segments describe. -/
theorem exists_described_of_parse {header : String} {c : Cookie}
    (h : (parse header now).result = .ok c) :
    ∃ name value, namedPair? (segments ';' header.toList).1 = some (name, value) ∧
      c = described now name value (segments ';' header.toList).2 := by
  obtain ⟨name, value, hpair, -⟩ := parse_eq_ok h
  rw [parse_of_pair hpair (not_headerBeyond_of_parse h)] at h
  exact ⟨name, value, hpair, (Except.ok.inj h).symm⟩

/-- **A cookie is what the segments describe**: its fields come from the last
    segments that can be used, one record is left for each segment that cannot,
    and any header with the segments rearranged gives the same cookie. -/
theorem parse_described {header : String} {c : Cookie} (h : (parse header now).result = .ok c) :
    ∃ name value, namedPair? (segments ';' header.toList).1 = some (name, value) ∧
      c = described now name value (segments ';' header.toList).2 ∧
      (parse header now).log
        = ((segments ';' header.toList).2.filter (isReported now)).map (report name) ∧
      ∀ header' : String, (segments ';' header'.toList).1 = (segments ';' header.toList).1 →
        Rearranged (segments ';' header.toList).2 (segments ';' header'.toList).2 →
        (parse header' now).result = .ok c := by
  obtain ⟨name, value, hpair, -⟩ := parse_eq_ok h
  have hreckonable := not_headerBeyond_of_parse h
  have hparse := parse_of_pair hpair hreckonable
  rw [hparse] at h ⊢
  have hc := Except.ok.inj h
  refine ⟨name, value, hpair, hc.symm, rfl, ?_⟩
  intro header' hfirst hothers
  rw [parse_of_pair (by rw [hfirst]; exact hpair)
    (fun hbeyond => hreckonable ((headerBeyond_congr hothers.perm).mp hbeyond)),
    hothers.described, hc]

/-- At the start of 1970: an age and a date change places, and the age still
    counts. -/
theorem parse_described_age_and_date :
    (parse "id=7; Expires=Thu, 01 Jan 1970 00:01:00 GMT; Max-Age=5; Foo"
        (.ok ⟨62135596800000000, none⟩)).result
      = .ok { ofText ['i', 'd'] ['7'] with maxAge := 5 } ∧
    (parse "id=7; Max-Age=5; Expires=Thu, 01 Jan 1970 00:01:00 GMT; Foo"
        (.ok ⟨62135596800000000, none⟩)).result
      = .ok { ofText ['i', 'd'] ['7'] with maxAge := 5 } := by
  have h : (parse "id=7; Expires=Thu, 01 Jan 1970 00:01:00 GMT; Max-Age=5; Foo"
      (.ok ⟨62135596800000000, none⟩)).result
      = .ok { ofText ['i', 'd'] ['7'] with maxAge := 5 } := rfl
  obtain ⟨-, -, -, -, -, hrearranged⟩ := parse_described h
  have hdate : segments ';' "id=7; Expires=Thu, 01 Jan 1970 00:01:00 GMT; Max-Age=5; Foo".toList
      = ("id=7".toList, [" Expires=Thu, 01 Jan 1970 00:01:00 GMT".toList, " Max-Age=5".toList,
          " Foo".toList]) := by decide
  have hage : segments ';' "id=7; Max-Age=5; Expires=Thu, 01 Jan 1970 00:01:00 GMT; Foo".toList
      = ("id=7".toList, [" Max-Age=5".toList, " Expires=Thu, 01 Jan 1970 00:01:00 GMT".toList,
          " Foo".toList]) := by decide
  refine ⟨h, hrearranged _ (by rw [hdate, hage]) ?_⟩
  rw [hdate, hage]
  exact rearranged_swap (by decide) [] [" Foo".toList]

end HttpExchange.Cookie
