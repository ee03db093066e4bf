import HttpExchange.Proofs.Json.RoundTrip
import HttpExchange.Proofs.Mock.Tally

/-! # Rules that answer with JSON

    A rule is configured call by call, and a call that fails leaves it as it
    was.  The body of its answers is the one that was set last, its headers only
    grow, and the content type of a body is declared unless a content type is
    there already.

    * `exists_history` says that every rule of a mock transport comes from such
      calls, whatever it has recorded;
    * `answer_configured` says what a call does to the answers;
    * `GivesJson` are the rules whose last body was set as the JSON text of a
      value, and `GivesJson.respond` says what they answer: a JSON response that
      reads back as the value. -/

namespace HttpExchange

namespace Headers

variable {headers : Headers} {name value : String}

/-- The first value of a header is known if all values of the header are. -/
theorem first?_eq_of_forall (hall : ∀ entry ∈ headers, sameName entry.1 name = true →
      entry.2 = value) (hsome : ∃ entry ∈ headers, sameName entry.1 name = true) :
    headers.first? name = some value := by
  have hmem : ∀ v ∈ headers.all name, v = value := by
    intro v hv
    obtain ⟨entry, hentry, rfl⟩ := List.mem_map.mp hv
    obtain ⟨hentry, hsame⟩ := List.mem_filter.mp hentry
    exact hall entry hentry hsame
  obtain ⟨entry, hentry, hsame⟩ := hsome
  have hne : headers.all name ≠ [] :=
    List.ne_nil_of_mem (List.mem_map.mpr ⟨entry, List.mem_filter.mpr ⟨hentry, hsame⟩, rfl⟩)
  obtain ⟨first, rest, hcons⟩ := List.exists_cons_of_ne_nil hne
  rw [first?, hcons, hmem first (hcons ▸ List.mem_cons_self)]
  rfl

theorem all_eq_nil (hnone : ∀ entry ∈ headers, sameName entry.1 name = false) :
    headers.all name = [] := by
  rw [all, List.map_eq_nil_iff, List.filter_eq_nil_iff]
  intro entry hentry
  exact Bool.not_eq_true _ ▸ hnone entry hentry

end Headers

namespace Mock

namespace Rule

variable {rule : Rule} {setup : Setup}

/-! ## Calls -/

/-- The body that a call sets, if it sets one. -/
def Setup.body? : Setup → Option (List UInt8)
  | .withBodyBytes body => (contentOf body).toOption
  | .withBodyText body => body.string?.map Utf8.encodeString
  | .withBodyJson v => Json.writeBytes? v
  | _ => none

/-- Does a call declare a content type other than that of JSON, or a cookie? -/
def Setup.Declares : Setup → Prop
  | .withHeader name _ => Headers.sameName name "content-type" = true ∨
      Headers.sameName name "set-cookie" = true
  | .withBodyText body => ∃ text, body.string? = some text
  | _ => False

/-- The header that declares a content type, unless one is declared. -/
def typeHeader (rule : Rule) (contentType : String) : Headers :=
  if rule.responseHeaders.has "content-type" then [] else [("Content-Type", contentType)]

/-- The headers that a call adds to those of a rule. -/
def added (rule : Rule) : Setup → Headers
  | .withHeader name value => [(name, value)]
  | .withBodyText body =>
    if body.string?.isSome then rule.typeHeader "text/plain; charset=utf-8" else []
  | .withBodyJson v =>
    if (Json.writeBytes? v).isSome then rule.typeHeader "application/json" else []
  | _ => []

theorem declareType_eq (rule : Rule) (contentType : String) :
    rule.declareType contentType
      = { rule with responseHeaders := rule.responseHeaders ++ rule.typeHeader contentType } := by
  rw [declareType, typeHeader]
  split
  · rw [List.append_nil]
  · rfl

/-- **What a call does to the answers**: the headers grow, and the body is the
    one that the call sets, if it sets one. -/
theorem answer_configured (rule : Rule) (setup : Setup) :
    (rule.configured setup).responseHeaders = rule.responseHeaders ++ rule.added setup ∧
      (rule.configured setup).responseBody = setup.body?.getD rule.responseBody := by
  have hnothing : rule.responseHeaders = rule.responseHeaders ++ [] := (List.append_nil _).symm
  cases setup with
  | withHeader name value => exact ⟨rfl, rfl⟩
  | withBodyBytes body =>
      rw [configured, configure, Setup.body?]
      cases contentOf body with
      | ok bytes => exact ⟨hnothing, rfl⟩
      | error failure => exact ⟨hnothing, rfl⟩
  | withBodyText body =>
      rw [configured, configure, added, Setup.body?]
      cases body.string? with
      | some text =>
          simp only [answerText, declareType_eq]
          exact ⟨rfl, rfl⟩
      | none => exact ⟨hnothing, rfl⟩
  | withBodyJson v =>
      rw [configured, configure, answerJson, added, Setup.body?]
      cases Json.writeBytes? v with
      | some bytes =>
          simp only [declareType_eq]
          exact ⟨rfl, rfl⟩
      | none => exact ⟨hnothing, rfl⟩
  | _ => exact ⟨hnothing, rfl⟩

/-- A call does the same to a rule that has recorded nothing. -/
theorem reset_configured (rule : Rule) (setup : Setup) :
    (rule.configured setup).reset = rule.reset.configured setup :=
  (rule.configured_recorded [] [] setup).symm

/-! ## Where rules come from -/

/-- A new rule after calls. -/
def built (method path : Option Matcher) (history : List Setup) : Rule :=
  history.foldl configured (forRequests method path)

/-- Does the rule come from calls to a new one, but for what it has recorded? -/
def FromCalls (rule : Rule) : Prop :=
  ∃ method path history, rule.reset = built method path history

theorem FromCalls.of_reset {e : Rule} (h : rule.FromCalls) (hreset : e.reset = rule.reset) :
    e.FromCalls := by
  obtain ⟨method, path, history, hhistory⟩ := h
  exact ⟨method, path, history, hreset.trans hhistory⟩

theorem FromCalls.configured (h : rule.FromCalls) (setup : Setup) :
    (rule.configured setup).FromCalls := by
  obtain ⟨method, path, history, hhistory⟩ := h
  refine ⟨method, path, history ++ [setup], ?_⟩
  rw [reset_configured, hhistory, built, built, List.foldl_append]
  rfl

end Rule

namespace Mocker

variable {m : Mocker}

/-- What holds of all rules of a list holds when one of them is changed. -/
theorem forall_mem_modify {α : Type} {P : α → Prop} {as : List α} {f : α → α}
    (h : ∀ a ∈ as, P a) (hf : ∀ a, P a → P (f a)) (place : Nat) :
    ∀ a ∈ as.modify place f, P a := by
  intro a ha
  obtain ⟨i, hi, rfl⟩ := List.mem_iff_getElem.mp ha
  rw [List.getElem_modify]
  split
  · exact hf _ (h _ (List.getElem_mem _))
  · exact h _ (List.getElem_mem _)

theorem fromCalls_perform (h : ∀ rule ∈ m.rules, rule.FromCalls) (operation : Operation) :
    ∀ rule ∈ (m.perform operation).rules, rule.FromCalls := by
  cases operation with
  | mock method path =>
      intro rule hrule
      rcases List.mem_append.mp hrule with hold | hnew
      · exact h rule hold
      · obtain rfl := List.mem_singleton.mp hnew
        exact ⟨method, path, [], rfl⟩
  | configure place setup => exact forall_mem_modify h (fun _ hrule => hrule.configured setup) place
  | send r =>
      have hanswered := answered_answer m r
      rw [perform]
      generalize place? r m.rules = place at hanswered
      generalize m.answer r = t at hanswered ⊢
      -- the rules only record the request, or do not even do that
      have hreset : t.state.rules.map Rule.reset = m.rules.map Rule.reset := by
        have htake (e : Rule) : (e.take r).reset = e.reset := rfl
        have hpassOn (e : Rule) : (e.passOn r).reset = e.reset := rfl
        cases hanswered with
        | byRule before hrules => simp [Transition.done, hrules, htake, hpassOn]
        | notFound => simp [Transition.done, hpassOn]
        | refused => simp [Transition.fail, hpassOn]
        | failed before hrules => simp [Transition.fail, hrules, hpassOn]
      intro rule hrule
      have hmem : rule.reset ∈ m.rules.map Rule.reset := hreset ▸ List.mem_map_of_mem hrule
      obtain ⟨e, he, heq⟩ := List.mem_map.mp hmem
      exact (h e he).of_reset heq.symm
  | strict enabled => exact h
  | resetRule place =>
      refine forall_mem_modify h (fun e he => ?_) place
      exact he.of_reset (e := e.reset) rfl
  | reset =>
      intro rule hrule
      obtain ⟨e, he, rfl⟩ := List.mem_map.mp hrule
      exact (h e he).of_reset rfl
  | clear => exact List.forall_mem_nil _

/-- **Every rule comes from calls**, whatever is done to a transport. -/
theorem exists_history (operations : List Operation) :
    ∀ rule ∈ (run operations).1.rules, rule.FromCalls := by
  induction operations using List.reverseRecOn with
  | nil => exact List.forall_mem_nil _
  | append_singleton operations operation ih =>
      rw [run, List.foldl_append]
      exact fromCalls_perform ih operation

end Mocker

/-! ## The last body -/

namespace Rule

variable {rule : Rule} {v : Value} {before after setups : List Setup}

/-- The header that declares JSON. -/
def jsonHeader : String × String := ("Content-Type", "application/json")

/-- Do headers declare no content type but that of JSON, and no cookie? -/
def Undeclared (headers : Headers) : Prop :=
  ∀ entry ∈ headers, entry = jsonHeader ∨
    (Headers.sameName entry.1 "content-type" = false ∧
      Headers.sameName entry.1 "set-cookie" = false)

theorem undeclared_typeHeader (rule : Rule) :
    Undeclared (rule.typeHeader "application/json") := by
  intro entry hentry
  rw [typeHeader] at hentry
  split at hentry
  · exact absurd hentry List.not_mem_nil
  · exact .inl (List.mem_singleton.mp hentry)

theorem undeclared_added (h : ¬ setup.Declares) (rule : Rule) :
    Undeclared (rule.added setup) := by
  cases setup with
  | withHeader name value =>
      intro entry hentry
      obtain rfl := List.mem_singleton.mp hentry
      obtain ⟨htype, hcookie⟩ := not_or.mp h
      exact .inr ⟨eq_false_of_ne_true htype, eq_false_of_ne_true hcookie⟩
  | withBodyText body =>
      have hnone : body.string? = none := Option.eq_none_iff_forall_ne_some.mpr (not_exists.mp h)
      rw [added, hnone]
      exact List.forall_mem_nil _
  | withBodyJson v =>
      rw [added]
      split
      · exact undeclared_typeHeader rule
      · exact List.forall_mem_nil _
  | _ => exact List.forall_mem_nil _

theorem undeclared_configured (h : ¬ setup.Declares) (hrule : Undeclared rule.responseHeaders) :
    Undeclared (rule.configured setup).responseHeaders := by
  rw [(answer_configured rule setup).1]
  exact List.forall_mem_append.mpr ⟨hrule, undeclared_added h rule⟩

theorem undeclared_foldl (h : ∀ setup ∈ setups, ¬ setup.Declares)
    (hrule : Undeclared rule.responseHeaders) :
    Undeclared (setups.foldl configured rule).responseHeaders := by
  induction setups generalizing rule with
  | nil => exact hrule
  | cons setup setups ih =>
      obtain ⟨hsetup, hrest⟩ := List.forall_mem_cons.mp h
      exact ih hrest (undeclared_configured hsetup hrule)

theorem responseHeaders_subset_foldl (rule : Rule) (setups : List Setup) :
    rule.responseHeaders ⊆ (setups.foldl configured rule).responseHeaders := by
  induction setups generalizing rule with
  | nil => exact List.Subset.refl _
  | cons setup setups ih =>
      refine List.Subset.trans ?_ (ih (rule.configured setup))
      rw [(answer_configured rule setup).1]
      exact List.subset_append_left _ _

/-- **The last body stays**: calls that set no body leave it alone. -/
theorem responseBody_foldl (h : ∀ setup ∈ setups, setup.body? = none) (rule : Rule) :
    (setups.foldl configured rule).responseBody = rule.responseBody := by
  induction setups generalizing rule with
  | nil => rfl
  | cons setup setups ih =>
      obtain ⟨hsetup, hrest⟩ := List.forall_mem_cons.mp h
      rw [List.foldl_cons, ih hrest, (answer_configured rule setup).2, hsetup, Option.getD_none]

/-- A rule that is given the JSON text of a value declares JSON, if it declares
    nothing else. -/
theorem configured_withBodyJson {bytes : List UInt8} (hbytes : Json.writeBytes? v = some bytes)
    (hrule : Undeclared rule.responseHeaders) :
    (rule.configured (.withBodyJson v)).responseBody = bytes ∧
      jsonHeader ∈ (rule.configured (.withBodyJson v)).responseHeaders := by
  obtain ⟨hheaders, hbody⟩ := answer_configured rule (.withBodyJson v)
  constructor
  · rw [hbody, Setup.body?, hbytes, Option.getD_some]
  · rw [hheaders, added, hbytes, List.mem_append]
    by_cases hhas : rule.responseHeaders.has "content-type" = true
    · obtain ⟨entry, hentry, hsame⟩ := List.any_eq_true.mp hhas
      refine .inl ?_
      rcases hrule entry hentry with rfl | ⟨htype, -⟩
      · exact hentry
      · exact absurd hsame (Bool.not_eq_true _ ▸ htype)
    · refine .inr ?_
      rw [typeHeader, if_neg hhas]
      exact List.mem_singleton_self _

/-- Was the body of a rule without a handler last set as the JSON text of a
    value, and is its content type left to that?  The rule is a new one after
    calls, but for the requests that it has recorded: any calls, the one that
    set the body, and calls that set none. -/
structure GivesJson (rule : Rule) (v : Value) (before after : List Setup) : Prop where
  handler : rule.handler = none
  history : ∃ method path, rule.reset = built method path (before ++ .withBodyJson v :: after)
  accepted : ∃ bytes, Json.writeBytes? v = some bytes
  last : ∀ setup ∈ after, setup.body? = none
  undeclared : ∀ setup ∈ before ++ after, ¬ setup.Declares

/-- The headers and the body of such a rule. -/
theorem GivesJson.response (h : rule.GivesJson v before after) :
    Undeclared rule.responseHeaders ∧ jsonHeader ∈ rule.responseHeaders ∧
      Json.writeBytes? v = some rule.responseBody := by
  obtain ⟨method, path, hhistory⟩ := h.history
  obtain ⟨bytes, hbytes⟩ := h.accepted
  obtain ⟨hbefore, hafter⟩ := List.forall_mem_append.mp h.undeclared
  -- the rule in front of the call that sets the body, and the one behind it
  let front := built method path before
  let middle := front.configured (.withBodyJson v)
  have hrule : rule.reset = after.foldl configured middle := by
    rw [hhistory, built, List.foldl_append]
    rfl
  have hheaders : rule.responseHeaders = (after.foldl configured middle).responseHeaders := by
    rw [← hrule, reset]
  have hbody : rule.responseBody = (after.foldl configured middle).responseBody := by
    rw [← hrule, reset]
  have hfront : Undeclared front.responseHeaders :=
    undeclared_foldl hbefore (List.forall_mem_nil _)
  obtain ⟨hset, hdeclared⟩ := configured_withBodyJson hbytes hfront
  have hjson : ¬ (Setup.withBodyJson v).Declares := id
  refine ⟨?_, ?_, ?_⟩
  · rw [hheaders]
    exact undeclared_foldl hafter (undeclared_configured hjson hfront)
  · rw [hheaders]
    exact responseHeaders_subset_foldl middle after hdeclared
  · rw [hbody, responseBody_foldl h.last, hset, hbytes]

/-- A response of the type `application/json` is JSON. -/
theorem isJson_of_header {response : Response}
    (h : response.header? "content-type" = some "application/json") : response.isJson = true := by
  rw [Response.isJson, Response.contentType?, Response.contentText, h]
  decide

/-- **What such a rule answers**: JSON that reads back as the value, without
    cookies. -/
theorem GivesJson.respond (h : rule.GivesJson v before after) (hv : v.IsPlain) (r : Request) :
    ∃ response, rule.respond r = .ok (some response) ∧ response.isJson = true ∧
      Json.readBytes .body response.body = some v ∧ response.headerAll "set-cookie" = [] := by
  obtain ⟨hundeclared, hdeclared, hbody⟩ := h.response
  have hsame : Headers.sameName jsonHeader.1 "content-type" = true := by decide
  have hcookie : Headers.sameName jsonHeader.1 "set-cookie" = false := by decide
  have htype : Headers.first? rule.responseHeaders "content-type" = some "application/json" := by
    refine Headers.first?_eq_of_forall ?_ ⟨jsonHeader, hdeclared, hsame⟩
    intro entry hentry hname
    rcases hundeclared entry hentry with rfl | ⟨hnot, -⟩
    · rfl
    · exact absurd hname (Bool.not_eq_true _ ▸ hnot)
  have hnone : Headers.all rule.responseHeaders "set-cookie" = [] := by
    refine Headers.all_eq_nil ?_
    intro entry hentry
    rcases hundeclared entry hentry with rfl | ⟨-, hnot⟩
    · exact hcookie
    · exact hnot
  refine ⟨⟨rule.status, rule.responseHeaders, rule.responseBody⟩, ?_, isJson_of_header htype,
    Json.readBytes_writeBytes hv hbody, hnone⟩
  rw [Rule.respond, h.handler]

end Rule

end Mock

end HttpExchange
