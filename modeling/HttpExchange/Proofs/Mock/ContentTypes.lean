import HttpExchange.Proofs.Mock.JsonAnswers

/-! # The content types of a rule

    A body that is set as text or as JSON brings its content type along, and a
    rule takes that over unless its answers have a content type already.  So
    the first of these bodies decides, and the ones that replace it do not.

    * `declares_iff` ties a content type to what a response says that it is;
    * `typed_configured` is what one call does to the content types of a rule,
      and `typed_foldl` what any number of them does;
    * `declares_last_body` compares the content type with the body that is
      served. -/

namespace HttpExchange

/-! ## Kinds of bodies -/

/-- The kinds of bodies that bring a content type along. -/
inductive BodyKind where
  | text
  | json
  deriving DecidableEq

/-- The media type of a body. -/
def BodyKind.mediaType : BodyKind → String
  | .text => "text/plain"
  | .json => "application/json"

/-- The content type that a body brings along. -/
def BodyKind.contentType : BodyKind → String
  | .text => "text/plain; charset=utf-8"
  | .json => "application/json"

namespace Response

variable {response : Response} {kind first : BodyKind}

/-- Does a response say that its body is of a kind? -/
def Declares (response : Response) : BodyKind → Prop
  | .text => response.contentType? = some "text/plain"
  | .json => response.isJson = true

theorem contentType?_of_kind (h : response.headerAll "content-type" = [first.contentType]) :
    response.contentType? = some first.mediaType := by
  have hfirst : response.header? "content-type" = some first.contentType := congrArg List.head? h
  rw [contentType?, contentText, hfirst]
  cases first with
  | text => decide
  | json => decide

/-- **A content type says one thing**: a response that has the one of a kind
    declares this kind and no other. -/
theorem declares_iff (h : response.headerAll "content-type" = [first.contentType]) :
    response.Declares kind ↔ first = kind := by
  have htype := contentType?_of_kind h
  cases kind with
  | text =>
      show response.contentType? = some BodyKind.text.mediaType ↔ first = .text
      rw [htype]
      cases first with
      | text => decide
      | json => decide
  | json =>
      rw [Declares, isJson, htype]
      cases first with
      | text => decide
      | json => decide

end Response

namespace Headers

variable {headers : Headers} {name : String}

theorem all_append (front back : Headers) (name : String) :
    all (front ++ back) name = all front name ++ all back name := by
  rw [all, List.filter_append, List.map_append]
  rfl

theorem has_eq_false_iff : headers.has name = false ↔ headers.all name = [] := by
  rw [has, all, List.any_eq_false, List.map_eq_nil_iff, List.filter_eq_nil_iff]

end Headers

namespace Mock

namespace Rule

variable {rule : Rule} {setup last : Setup} {method path : Option Matcher}
variable {kind : BodyKind} {declared : Option BodyKind} {before after setups : List Setup}

/-! ## One call -/

/-- The kind of the body that a call sets, if it sets one that has a kind. -/
def Setup.kind? : Setup → Option BodyKind
  | .withBodyText body => body.string?.map fun _ => .text
  | .withBodyJson v => (Json.writeBytes? v).map fun _ => .json
  | _ => none

/-- Does a call leave the content type to the bodies?  It sets no header of that
    name, and the rule makes its answers itself. -/
def Setup.LeavesType : Setup → Prop
  | .withHeader name _ => Headers.sameName name "content-type" = false
  | .respondWith _ => False
  | _ => True

/-- A rule that makes its answers itself, with the content type of a kind, or
    with none. -/
structure Typed (rule : Rule) (declared : Option BodyKind) : Prop where
  handler : rule.handler = none
  types : Headers.all rule.responseHeaders "content-type"
    = (declared.map BodyKind.contentType).toList

theorem typed_forRequests : (forRequests method path).Typed none := ⟨rfl, rfl⟩

/-- The content type that a rule has counts for more than the one of a body. -/
theorem all_typeHeader (h : rule.Typed declared) (next : BodyKind) :
    Headers.all (rule.responseHeaders ++ rule.typeHeader next.contentType) "content-type"
      = ((declared.or (some next)).map BodyKind.contentType).toList := by
  have hown : Headers.all [("Content-Type", next.contentType)] "content-type"
      = [next.contentType] := by
    have hsame : Headers.sameName "Content-Type" "content-type" = true := by decide
    simp [Headers.all, hsame]
  rw [Headers.all_append, h.types, typeHeader]
  cases declared with
  | none =>
      have hnone : rule.responseHeaders.has "content-type" = false :=
        Headers.has_eq_false_iff.mpr h.types
      rw [if_neg (Bool.eq_false_iff.mp hnone), hown]
      rfl
  | some first =>
      have hhas : rule.responseHeaders.has "content-type" = true := by
        rw [← Bool.not_eq_false, Headers.has_eq_false_iff, h.types]
        exact List.cons_ne_nil _ _
      rw [if_pos hhas]
      rfl

/-- The content types behind a call: a call that sets no typed body leaves them
    alone. -/
theorem all_added (hsetup : setup.LeavesType) (h : rule.Typed declared) :
    Headers.all (rule.responseHeaders ++ rule.added setup) "content-type"
      = ((declared.or setup.kind?).map BodyKind.contentType).toList := by
  have hnothing : Headers.all (rule.responseHeaders ++ []) "content-type"
      = ((declared.or none).map BodyKind.contentType).toList := by
    rw [List.append_nil, Option.or_none]
    exact h.types
  cases setup with
  | withHeader name value =>
      have hother : Headers.all [(name, value)] "content-type" = [] :=
        Headers.all_eq_nil (List.forall_mem_singleton.mpr hsetup)
      have hkind : (Setup.withHeader name value).kind? = none := rfl
      rw [added, Headers.all_append, hother, List.append_nil, h.types, hkind, Option.or_none]
  | withBodyText body =>
      rw [added, Setup.kind?]
      cases body.string? with
      | some text => exact all_typeHeader h .text
      | none => exact hnothing
  | withBodyJson v =>
      rw [added, Setup.kind?]
      cases Json.writeBytes? v with
      | some bytes => exact all_typeHeader h .json
      | none => exact hnothing
  | _ => exact hnothing

theorem handler_configured (hsetup : setup.LeavesType) :
    (rule.configured setup).handler = rule.handler := by
  cases setup with
  | respondWith handler => exact hsetup.elim
  | withBodyBytes body =>
      rw [configured, configure]
      cases contentOf body with
      | ok bytes => rfl
      | error failure => rfl
  | withBodyText body =>
      rw [configured, configure]
      cases body.string? with
      | some text => simp only [answerText, declareType_eq]
      | none => rfl
  | withBodyJson v =>
      rw [configured, configure, answerJson]
      cases Json.writeBytes? v with
      | some bytes => simp only [declareType_eq]
      | none => rfl
  | _ => rfl

/-- **What one call does to the content types**: the kind that was there first
    stays. -/
theorem typed_configured (hsetup : setup.LeavesType) (h : rule.Typed declared) :
    (rule.configured setup).Typed (declared.or setup.kind?) := by
  refine ⟨(handler_configured hsetup).trans h.handler, ?_⟩
  rw [(answer_configured rule setup).1]
  exact all_added hsetup h

/-! ## All calls -/

/-- **The first kind stays**, however many calls come behind it. -/
theorem typed_foldl (hsetups : ∀ setup ∈ setups, setup.LeavesType) (h : rule.Typed declared) :
    (setups.foldl configured rule).Typed (declared.or (setups.findSome? Setup.kind?)) := by
  induction setups generalizing rule declared with
  | nil =>
      rw [List.findSome?_nil, Option.or_none]
      exact h
  | cons setup setups ih =>
      obtain ⟨hsetup, hrest⟩ := List.forall_mem_cons.mp hsetups
      have hstep := ih hrest (typed_configured hsetup h)
      have hfirst : (setup :: setups).findSome? Setup.kind?
          = setup.kind?.or (setups.findSome? Setup.kind?) := by
        rw [List.findSome?_cons]
        cases setup.kind? with
        | none => rfl
        | some first => rfl
      rw [hfirst, ← Option.or_assoc]
      exact hstep

/-- A body that has a kind is one that is set. -/
theorem body?_of_kind? (h : last.kind? = some kind) :
    ∃ bytes, last.body? = some bytes := by
  cases last with
  | withBodyText body =>
      obtain ⟨text, htext, -⟩ := Option.map_eq_some_iff.mp h
      exact ⟨Utf8.encodeString text, by rw [Setup.body?, htext, Option.map_some]⟩
  | withBodyJson v =>
      obtain ⟨bytes, hbytes, -⟩ := Option.map_eq_some_iff.mp h
      exact ⟨bytes, hbytes⟩
  | _ => cases h

/-- **The content type and the body that is served.**  After any calls that
    leave the content type to the bodies, of which some may have failed, a rule
    answers with the text or the JSON that was set last, and with exactly one
    content type, which is that of the first text or JSON.  So it belongs to
    the body that is served if the two are of one kind, and only then. -/
theorem declares_last_body
    (hrule : rule.reset = built method path (before ++ last :: after))
    (hcalls : ∀ setup ∈ before ++ last :: after, setup.LeavesType)
    (hlast : last.kind? = some kind) (hafter : ∀ setup ∈ after, setup.body? = none)
    (r : Request) :
    ∃ response, rule.respond r = .ok (some response) ∧ last.body? = some response.body ∧
      response.headerAll "content-type"
        = [((before.findSome? Setup.kind?).getD kind).contentType] ∧
      (response.Declares kind ↔
        ∀ first, before.findSome? Setup.kind? = some first → first = kind) := by
  obtain ⟨bytes, hbytes⟩ := body?_of_kind? hlast
  -- what the rule has recorded has nothing to do with its answers
  have htyped : rule.reset.Typed ((before ++ last :: after).findSome? Setup.kind?) := by
    rw [hrule, built]
    exact typed_foldl hcalls typed_forRequests
  have hbody : rule.reset.responseBody = bytes := by
    rw [hrule, built, List.foldl_append, List.foldl_cons, responseBody_foldl hafter,
      (answer_configured _ last).2, hbytes, Option.getD_some]
  have hfirst : (before ++ last :: after).findSome? Setup.kind?
      = some ((before.findSome? Setup.kind?).getD kind) := by
    rw [List.findSome?_append, List.findSome?_cons, hlast]
    cases before.findSome? Setup.kind? with
    | none => rfl
    | some first => rfl
  rw [hfirst] at htyped
  let response : Response := ⟨rule.status, rule.responseHeaders, rule.responseBody⟩
  have htype : response.headerAll "content-type"
      = [((before.findSome? Setup.kind?).getD kind).contentType] := htyped.types
  refine ⟨response, ?_, ?_, htype, ?_⟩
  · have hhandler : rule.handler = none := htyped.handler
    rw [respond, hhandler]
  · rw [hbytes]
    exact congrArg some hbody.symm
  · rw [Response.declares_iff htype]
    cases before.findSome? Setup.kind? with
    | none => simp
    | some first => simp

/-- JSON that replaces a text and bytes, which have replaced JSON: the content
    type is that of the JSON, and a call that is refused does not matter. -/
theorem declares_last_body_replaced :
    let before : List Setup := [.withBodyJson .null, .withHeader "X-Part" "1",
      .withBodyText (.str "x"), .withBodyBytes (.bytes [0xFF])]
    let rule := built none none (before ++ .withBodyJson (.int 1)
      :: [.withStatus 201, .withBodyText .null])
    let r : Request := ⟨"GET", "http://h/", [], none, none⟩
    ∃ response, rule.respond r = .ok (some response) ∧ response.body = [0x31] ∧
      response.headerAll "content-type" = ["application/json"] ∧ response.isJson = true := by
  intro before rule r
  have hrule : rule.reset = built none none (before ++ .withBodyJson (.int 1)
      :: [.withStatus 201, .withBodyText .null]) := rfl
  have hname : Headers.sameName "X-Part" "content-type" = false := by decide
  have hcalls : ∀ setup ∈ before ++ .withBodyJson (.int 1)
      :: [.withStatus 201, .withBodyText .null], setup.LeavesType := by
    simp [before, Setup.LeavesType, hname]
  have hlast : (Setup.withBodyJson (.int 1)).kind? = some .json := rfl
  have hafter : ∀ setup ∈ [Setup.withStatus 201, .withBodyText .null], setup.body? = none := by
    simp [Setup.body?, Value.string?]
  obtain ⟨response, hresponse, hbody, htype, hdeclares⟩ :=
    declares_last_body hrule hcalls hlast hafter r
  have hfirst : before.findSome? Setup.kind? = some .json := rfl
  refine ⟨response, hresponse, ?_, htype, hdeclares.mpr ?_⟩
  · exact (Option.some.inj hbody).symm
  · intro first h
    exact (Option.some.inj (hfirst.symm.trans h)).symm

/-- **The content type of a body that was replaced.**  JSON is set behind a text
    and is served, and what the answer declares is the text. -/
theorem declares_replaced_text :
    let calls : List Setup := [.withBodyText (.str "x"), .withBodyJson (.int 1)]
    let rule := built none none calls
    (∀ setup ∈ calls, setup.LeavesType) ∧
      ∃ response, rule.respond ⟨"GET", "http://h/", [], none, none⟩ = .ok (some response) ∧
        Json.writeBytes? (.int 1) = some response.body ∧
        response.headerAll "content-type" = ["text/plain; charset=utf-8"] ∧
        response.isJson = false := by
  intro calls rule
  refine ⟨by simp [calls, Setup.LeavesType], ⟨200, _, _⟩, rfl, rfl, ?_, ?_⟩
  · decide
  · decide

end Rule

end Mock

end HttpExchange
