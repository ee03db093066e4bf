import HttpExchange.Cookie.Read
import HttpExchange.Proofs.Text.Splitting
import HttpExchange.Proofs.Text.Trimming

/-! # How attributes are read and applied

    A value is trimmed and freed of its quotes before anything else is done
    with it, and an attribute that holds text holds exactly what is left then.
    Whatever every single attribute preserves is preserved by all of them, and
    none of them touches the name and the value of the cookie.

    * `Reckoned` lists what an expiry date may come to, and
      `reckoned_secondsUntil` says that there is nothing else;
    * `Reads` lists what reading a key and a value may come to, and
      `reads_read` is the only place where the keywords are gone through;
    * `applyAll_preserves` is the induction over all attributes. -/

namespace HttpExchange.Cookie

open Text

variable {now : Reading} {key value : List Char} {d d' : Draft}

/-! ## Quotes -/

/-- Is the text in double quotes? -/
def IsQuoted (cs : List Char) : Prop :=
  2 ≤ cs.length ∧ cs.head? = some '"' ∧ cs.getLast? = some '"'

instance : DecidablePred IsQuoted := fun cs =>
  inferInstanceAs (Decidable (2 ≤ cs.length ∧ cs.head? = some '"' ∧ cs.getLast? = some '"'))

theorem unquote_of_not_isQuoted {cs : List Char} (h : ¬ IsQuoted cs) : unquote cs = cs := if_neg h

theorem unquote_sublist (cs : List Char) : (unquote cs).Sublist cs := by
  rw [unquote]
  split
  · exact (List.dropLast_sublist _).trans (List.drop_sublist 1 cs)
  · exact List.Sublist.refl cs

/-- A text in quotes gets shorter. -/
theorem length_unquote_lt {cs : List Char} (h : IsQuoted cs) :
    (unquote cs).length < cs.length := by
  have hlen : 2 ≤ cs.length := h.1
  rw [show unquote cs = (cs.drop 1).dropLast from if_pos h, List.length_dropLast,
    List.length_drop]
  omega

/-- What is read from a text: the text without the blanks around it and then
    without quotes. -/
def bare (cs : List Char) : List Char := unquote (trim cs)

theorem bare_sublist (cs : List Char) : (bare cs).Sublist cs :=
  (unquote_sublist _).trans (trim_sublist cs)

@[simp] theorem bare_trim (cs : List Char) : bare (trim cs) = bare cs := by
  rw [bare, trim_trim, bare]

/-- **A text is read as it is** if and only if no blanks and no quotes stand
    around it: whatever is taken off makes it shorter. -/
theorem bare_eq_self_iff (cs : List Char) : bare cs = cs ↔ trim cs = cs ∧ ¬ IsQuoted cs := by
  constructor
  · intro h
    have htrim : trim cs = cs := by
      refine trim_eq_self_of_le ?_
      have hle := (unquote_sublist (trim cs)).length_le
      rw [show unquote (trim cs) = cs from h] at hle
      exact hle
    refine ⟨htrim, ?_⟩
    intro hq
    -- quotes would be taken off as well
    have hlt := length_unquote_lt hq
    rw [bare, htrim] at h
    rw [h] at hlt
    exact Nat.lt_irrefl _ hlt
  · rintro ⟨htrim, hq⟩
    rw [bare, htrim, unquote_of_not_isQuoted hq]

/-! ## Keywords -/

/-- The keywords of the attributes that are known. -/
inductive Keyword where
  | domain | path | priority | comment | secure | httpOnly | maxAge | expires | sameSite | version
  deriving DecidableEq, Repr

namespace Keyword

/-- The keyword as it is compared with keys. -/
def word : Keyword → String
  | .domain => "domain"
  | .path => "path"
  | .priority => "priority"
  | .comment => "comment"
  | .secure => "secure"
  | .httpOnly => "httponly"
  | .maxAge => "max-age"
  | .expires => "expires"
  | .sameSite => "samesite"
  | .version => "version"

/-- The keyword as it is spelled in records. -/
def label : Keyword → String
  | .domain => "Domain"
  | .path => "Path"
  | .priority => "Priority"
  | .comment => "Comment"
  | .secure => "Secure"
  | .httpOnly => "HttpOnly"
  | .maxAge => "Max-Age"
  | .expires => "Expires"
  | .sameSite => "SameSite"
  | .version => "Version"

/-- All keywords. -/
def all : List Keyword :=
  [.domain, .path, .priority, .comment, .secure, .httpOnly, .maxAge, .expires, .sameSite, .version]

/-- The keyword that a text is, if there is one. -/
def ofText? (cs : List Char) : Option Keyword := all.find? fun k => k.word.toList == cs

theorem ofText?_eq_some_iff {cs : List Char} {k : Keyword} :
    ofText? cs = some k ↔ cs = k.word.toList := by
  constructor
  · intro h
    have hfound := List.find?_some h
    exact (beq_iff_eq.mp hfound).symm
  · rintro rfl
    cases k <;> decide

/-- What a value that is free of blanks and quotes says after the keyword.  A
    text is any value, and a flag does not care for it; numbers, dates and
    words may be impossible to read. -/
def attribute? (now : Reading) (value : List Char) : Keyword → Option Attribute
  | .domain => some (.domain (String.ofList value))
  | .path => some (.path (String.ofList value))
  | .priority => some (.priority (String.ofList value))
  | .comment => some (.comment (String.ofList value))
  | .secure => some .secure
  | .httpOnly => some .httpOnly
  | .maxAge => (readAge value).map .maxAge
  | .expires => (secondsUntil now value).toOption.map .expires
  | .sameSite => (SameSite.ofWord? value).map .sameSite
  | .version => (readVersion value).map .version

end Keyword

/-- The keyword that an attribute comes from. -/
def Attribute.keyword : Attribute → Keyword
  | .domain _ => .domain
  | .path _ => .path
  | .priority _ => .priority
  | .comment _ => .comment
  | .secure => .secure
  | .httpOnly => .httpOnly
  | .maxAge _ => .maxAge
  | .expires _ => .expires
  | .sameSite _ => .sameSite
  | .version _ => .version

/-- The text that an attribute sets a field to. -/
def Attribute.text? : Attribute → Option String
  | .domain s => some s
  | .path s => some s
  | .priority s => some s
  | .comment s => some s
  | _ => none

/-- A value makes an attribute of its keyword, and text is the value itself. -/
theorem Keyword.of_attribute? {k : Keyword} {cs : List Char} {a : Attribute}
    (h : k.attribute? now cs = some a) :
    a.keyword = k ∧ ∀ s, a.text? = some s → s.toList = cs := by
  have htext : ∀ s, some (String.ofList cs) = some s → s.toList = cs := by
    intro s hs
    rw [← Option.some.inj hs, String.toList_ofList]
  have hmap : ∀ {α : Type} {make : α → Attribute} {v : Option α}, v.map make = some a →
      (∀ b, (make b).keyword = k ∧ (make b).text? = none) →
      a.keyword = k ∧ ∀ s, a.text? = some s → s.toList = cs := by
    intro α make v hv hmake
    obtain ⟨b, -, rfl⟩ := Option.map_eq_some_iff.mp hv
    refine ⟨(hmake b).1, fun s hs => ?_⟩
    rw [(hmake b).2] at hs
    exact nomatch hs
  cases k with
  | domain => exact Option.some.inj h ▸ ⟨rfl, htext⟩
  | path => exact Option.some.inj h ▸ ⟨rfl, htext⟩
  | priority => exact Option.some.inj h ▸ ⟨rfl, htext⟩
  | comment => exact Option.some.inj h ▸ ⟨rfl, htext⟩
  | secure => exact Option.some.inj h ▸ ⟨rfl, fun s hs => nomatch hs⟩
  | httpOnly => exact Option.some.inj h ▸ ⟨rfl, fun s hs => nomatch hs⟩
  | maxAge => exact hmap h (fun _ => ⟨rfl, rfl⟩)
  | expires => exact hmap h (fun _ => ⟨rfl, rfl⟩)
  | sameSite => exact hmap h (fun _ => ⟨rfl, rfl⟩)
  | version => exact hmap h (fun _ => ⟨rfl, rfl⟩)

/-! ## Reading expiry dates -/

/-- The seconds between a date that is read and a moment of the years 1 to
    9999. -/
theorem secondsUntil_of_read {date moment : Moment} {text : List Char}
    (hread : MailDate.read text = .ok date) (hspan : Moment.inSpan moment.instant = true) :
    secondsUntil (.ok moment) text
      = .ok (max 0 (Binary64.roundedQuotient (date.instant - moment.instant) 1000000)) := by
  have hstart : moment.utc? = some moment.instant := if_pos hspan
  simp only [secondsUntil, hread, hstart, Except.mapError, bind, Except.bind]

/-- What the seconds until a date come to: the date is not read, or the clock
    shows no moment, or the moment lies outside the years 1 to 9999, or they are
    found. -/
inductive Reckoned (now : Reading) (text : List Char) : Except Expiry.Fault Int → Prop where
  | unread {fault : MailDate.Fault} (hread : MailDate.read text = .error fault) :
      Reckoned now text (.error (.ofDate fault))
  | unclocked {fault : Moment.ClockFault} (hnow : now = .error fault) :
      Reckoned now text (.error (.ofClock fault))
  | outside {moment : Moment} (hnow : now = .ok moment)
      (hspan : ¬ Moment.inSpan moment.instant = true) : Reckoned now text (.error .overflow)
  | found {date moment : Moment} (hread : MailDate.read text = .ok date) (hnow : now = .ok moment)
      (hspan : Moment.inSpan moment.instant = true) :
      Reckoned now text
        (.ok (max 0 (Binary64.roundedQuotient (date.instant - moment.instant) 1000000)))

/-- **The seconds until a date** come to nothing else. -/
theorem reckoned_secondsUntil (now : Reading) (text : List Char) :
    Reckoned now text (secondsUntil now text) := by
  cases hread : MailDate.read text with
  | error fault =>
      rw [secondsUntil, hread]
      exact .unread hread
  | ok date =>
      cases now with
      | error fault =>
          rw [secondsUntil, hread]
          exact .unclocked rfl
      | ok moment =>
          by_cases hspan : Moment.inSpan moment.instant = true
          · rw [secondsUntil_of_read hread hspan]
            exact .found hread rfl hspan
          · have hstart : moment.utc? = none := if_neg hspan
            simp only [secondsUntil, hread, hstart, Except.mapError, bind, Except.bind]
            exact .outside rfl hspan

/-! ## Reading one attribute -/

/-- What reading a key and a value comes to. -/
inductive Reads (now : Reading) (key value : List Char) :
    Except Attribute.Problem Attribute → Prop
  /-- The keyword is known and the value says something. -/
  | valid {k : Keyword} {a : Attribute} (hkey : lower (trim key) = k.word.toList)
      (hvalue : k.attribute? now (bare value) = some a) : Reads now key value (.ok a)
  /-- The keyword is known and the value says nothing. -/
  | invalid {k : Keyword} (hkey : lower (trim key) = k.word.toList)
      (hvalue : k.attribute? now (bare value) = none) :
      Reads now key value (.error (.invalid k.label (String.ofList (bare value))))
  /-- The value is an expiry date that the calendar cannot reckon with. -/
  | fatal {fault : Expiry.Fault} (hkey : lower (trim key) = "expires".toList)
      (hdate : secondsUntil now (bare value) = .error fault) (hfault : fault ≠ .unreadable) :
      Reads now key value (.error (.fatal fault))
  /-- The keyword is unknown. -/
  | unknown (hkey : Keyword.ofText? (lower (trim key)) = none) :
      Reads now key value (.error (.unknown (String.ofList key)))

theorem reads_readWith {α : Type} {k : Keyword} {make : α → Attribute} {v : Option α}
    (hkey : lower (trim key) = k.word.toList)
    (hvalue : k.attribute? now (bare value) = v.map make) :
    Reads now key value (readWith make k.label (bare value) v) := by
  cases v with
  | none => exact .invalid hkey hvalue
  | some a => exact .valid hkey hvalue

/-- **There is nothing else** that reading comes to. -/
theorem reads_read (now : Reading) (key value : List Char) :
    Reads now key value (Attribute.read now key value) := by
  have hword : ∀ k : Keyword, String.ofList (lower (trim key)) = k.word →
      lower (trim key) = k.word.toList := by
    intro k h
    rw [← h, String.toList_ofList]
  rw [Attribute.read]
  -- one case for each keyword, in the order in which the reader compares them
  split
  · next h => exact .valid (hword .domain h) rfl
  · next h => exact .valid (hword .path h) rfl
  · next h => exact .valid (hword .priority h) rfl
  · next h => exact .valid (hword .comment h) rfl
  · next h => exact .valid (hword .secure h) rfl
  · next h => exact .valid (hword .httpOnly h) rfl
  · next h => exact reads_readWith (hword .maxAge h) rfl
  · next h =>
    have hvalue : Keyword.expires.attribute? now (bare value)
        = (secondsUntil now (bare value)).toOption.map .expires := rfl
    split
    · next seconds hdate =>
      exact .valid (hword .expires h) (by rw [hvalue, bare, hdate]; rfl)
    · next hdate =>
      exact .invalid (hword .expires h) (by rw [hvalue, bare, hdate]; rfl)
    · next fault hfault hdate => exact .fatal (hword .expires h) hdate hfault
  · next h => exact reads_readWith (hword .sameSite h) rfl
  · next h => exact reads_readWith (hword .version h) rfl
  · next hdomain hpath hpriority hcomment hsecure hhttpOnly hage hexpires hsameSite hversion =>
    refine .unknown ?_
    cases hknown : Keyword.ofText? (lower (trim key)) with
    | none => rfl
    | some k =>
        have hkey := congrArg String.ofList (Keyword.ofText?_eq_some_iff.mp hknown)
        rw [String.ofList_toList] at hkey
        cases k with
        | domain => exact (hdomain hkey).elim
        | path => exact (hpath hkey).elim
        | priority => exact (hpriority hkey).elim
        | comment => exact (hcomment hkey).elim
        | secure => exact (hsecure hkey).elim
        | httpOnly => exact (hhttpOnly hkey).elim
        | maxAge => exact (hage hkey).elim
        | expires => exact (hexpires hkey).elim
        | sameSite => exact (hsameSite hkey).elim
        | version => exact (hversion hkey).elim

/-- The text of an attribute is what was read from its value. -/
theorem toList_of_read {a : Attribute} (h : Attribute.read now key value = .ok a) :
    ∀ s, a.text? = some s → s.toList = bare value := by
  have hreads := reads_read now key value
  rw [h] at hreads
  cases hreads with
  | valid hkey hvalue => exact (Keyword.of_attribute? hvalue).2

/-! ## Applying all attributes -/

/-- **What every attribute preserves, all of them preserve.** -/
theorem applyAll_preserves {I : Draft → Prop} {attributes : List (List Char × List Char)}
    (hstep : ∀ key value, (key, value) ∈ attributes → ∀ a,
      Attribute.read now key value = .ok a → ∀ d, I d → I (d.apply a))
    (hd : I d) (h : (d.applyAll now attributes).result = .ok d') : I d' := by
  induction attributes generalizing d with
  | nil =>
      rw [← Except.ok.inj h]
      exact hd
  | cons pair rest ih =>
      obtain ⟨key, value⟩ := pair
      have hrest : ∀ key value, (key, value) ∈ rest → ∀ a,
          Attribute.read now key value = .ok a → ∀ d, I d → I (d.apply a) :=
        fun key value hmem => hstep key value (List.mem_cons_of_mem _ hmem)
      rw [Draft.applyAll] at h
      cases hread : Attribute.read now key value with
      | ok a =>
          rw [hread] at h
          exact ih hrest (hstep key value List.mem_cons_self a hread d hd) h
      | error problem =>
          rw [hread] at h
          dsimp only at h
          -- a problem that leaves a record is passed over, any other one is the end
          cases hrecord : problem.record? d.cookie.name with
          | some record =>
              rw [hrecord] at h
              exact ih hrest hd h
          | none =>
              rw [hrecord] at h
              exact nomatch h

/-- No attribute touches the name and the value. -/
theorem apply_pair (d : Draft) (a : Attribute) :
    (d.apply a).cookie.name = d.cookie.name ∧ (d.apply a).cookie.value = d.cookie.value := by
  cases a <;> exact ⟨rfl, rfl⟩

theorem finish_eq (d : Draft) : d.finish = { d.cookie with maxAge := d.finish.maxAge } := by
  rw [Draft.finish]
  split <;> rfl

/-- A value that is text with a property. -/
def Holds (P : List Char → Prop) (v : Value) : Prop := ∃ s, v = .str s ∧ P s.toList

/-- Do the fields that attributes set to text all hold text with a property? -/
structure TextFields (P : List Char → Prop) (c : Cookie) : Prop where
  comment : Holds P c.comment
  domain : Holds P c.domain
  path : Holds P c.path
  priority : Holds P c.priority

/-- An attribute whose text has a property leaves text with the property. -/
theorem TextFields.apply {P : List Char → Prop} {a : Attribute} (h : TextFields P d.cookie)
    (ha : ∀ s, a.text? = some s → P s.toList) : TextFields P (d.apply a).cookie := by
  obtain ⟨hcomment, hdomain, hpath, hpriority⟩ := h
  cases a with
  | domain s => exact ⟨hcomment, ⟨s, rfl, ha s rfl⟩, hpath, hpriority⟩
  | path s => exact ⟨hcomment, hdomain, ⟨s, rfl, ha s rfl⟩, hpriority⟩
  | priority s => exact ⟨hcomment, hdomain, hpath, ⟨s, rfl, ha s rfl⟩⟩
  | comment s => exact ⟨⟨s, rfl, ha s rfl⟩, hdomain, hpath, hpriority⟩
  | secure => exact ⟨hcomment, hdomain, hpath, hpriority⟩
  | httpOnly => exact ⟨hcomment, hdomain, hpath, hpriority⟩
  | maxAge n => exact ⟨hcomment, hdomain, hpath, hpriority⟩
  | expires n => exact ⟨hcomment, hdomain, hpath, hpriority⟩
  | sameSite s => exact ⟨hcomment, hdomain, hpath, hpriority⟩
  | version n => exact ⟨hcomment, hdomain, hpath, hpriority⟩

theorem TextFields.ofText {P : List Char → Prop} (hP : P []) (name value : List Char) :
    TextFields P (ofText name value) :=
  ⟨⟨"", rfl, hP⟩, ⟨"", rfl, hP⟩, ⟨"", rfl, hP⟩, ⟨"", rfl, hP⟩⟩

/-- A cookie with attributes is a finished draft. -/
theorem withAttributes_eq_ok {c e : Cookie} {attributes : List (List Char × List Char)}
    (h : (c.withAttributes now attributes).result = .ok e) :
    ∃ d, ((Draft.ofCookie c).applyAll now attributes).result = .ok d ∧ d.finish = e := by
  rw [withAttributes, Outcome.map] at h
  dsimp only at h
  cases hd : ((Draft.ofCookie c).applyAll now attributes).result with
  | error failure =>
      rw [hd] at h
      exact nomatch h
  | ok d =>
      rw [hd] at h
      exact ⟨d, rfl, Except.ok.inj h⟩

/-- A cookie with attributes has the name and the value that it had before. -/
theorem withAttributes_pair {c e : Cookie} {attributes : List (List Char × List Char)}
    (h : (c.withAttributes now attributes).result = .ok e) :
    e.name = c.name ∧ e.value = c.value := by
  obtain ⟨d, hd, rfl⟩ := withAttributes_eq_ok h
  rw [finish_eq d]
  refine applyAll_preserves (I := fun d => d.cookie.name = c.name ∧ d.cookie.value = c.value)
    ?_ ⟨rfl, rfl⟩ hd
  intro key value _ a _ d hI
  rw [(apply_pair d a).1, (apply_pair d a).2]
  exact hI

/-- The texts that attributes set have every property of what is read from
    their values. -/
theorem withAttributes_textFields {P : List Char → Prop} {c e : Cookie}
    {attributes : List (List Char × List Char)} (hc : TextFields P c)
    (hP : ∀ key value, (key, value) ∈ attributes → P (bare value))
    (h : (c.withAttributes now attributes).result = .ok e) : TextFields P e := by
  obtain ⟨d, hd, rfl⟩ := withAttributes_eq_ok h
  have hfields : TextFields P d.cookie := by
    refine applyAll_preserves (I := fun d => TextFields P d.cookie) ?_ hc hd
    intro key value hmem a hread d hI
    refine hI.apply ?_
    intro s hs
    rw [toList_of_read hread s hs]
    exact hP key value hmem
  rw [finish_eq d]
  exact ⟨hfields.comment, hfields.domain, hfields.path, hfields.priority⟩

end HttpExchange.Cookie
