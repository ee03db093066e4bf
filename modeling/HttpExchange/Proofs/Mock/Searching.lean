import HttpExchange.Proofs.Mock.Offering
import Mathlib

/-! # Searching the rules

    A rule that only compares parts of a request, without a condition or a
    handler of its own, either fits a request, or it does not.  There is one
    exception: a body that is compared as text and is no UTF-8 is a failure.

    * `Rule.Fits` says what a rule asks of a request, and `Rule.Trips` is the
      exception;
    * `Rule.judged_accepts` says that the conditions of a rule come to nothing
      else;
    * `answer_of_declarative` is what a whole list of rules comes to. -/

namespace HttpExchange.Mock

variable {r : Request} {u : Url} {rule : Rule} {m : Mocker} {body : List UInt8}

/-! ## Bodies -/

/-- A matcher that does not fail. -/
def Matcher.Decides (expected : Matcher) : Prop := ∀ v, ∃ b, expected.holds v = .ok b

/-- Can a value be compared with others?  All of them can but patterns that
    are not read. -/
def Comparable : Value → Prop
  | .pattern source => (Text.Pattern.read source.toList).isSome = true
  | _ => True

theorem search_of_read {source : String} (h : (Text.Pattern.read source.toList).isSome = true)
    (text : String) : ∃ found, search source text = .ok found := by
  obtain ⟨p, hp⟩ := Option.isSome_iff_exists.mp h
  refine ⟨p.isFound text.toList, ?_⟩
  rw [search, Text.isFound?, hp]
  rfl

/-- Such a comparison does not fail. -/
theorem decides_value {expected : Value} (h : Comparable expected) :
    (Matcher.value expected).Decides := by
  intro v
  cases expected
  case pattern source =>
    rw [Matcher.holds, meets]
    cases v.string? with
    | none => exact ⟨false, rfl⟩
    | some text => exact search_of_read h text
  all_goals exact ⟨_, rfl⟩

namespace BodyExpectation

variable {e : BodyExpectation}

/-- The matcher of an expectation. -/
def matcher : BodyExpectation → Matcher
  | .content expected => expected
  | .json expected => expected

/-- Is the body compared as text? -/
def IsText : BodyExpectation → Prop
  | .json _ => False
  | .content (.value (.bytes _)) => False
  | .content _ => True

/-- A body that is compared as text cannot be read as text. -/
def Unreadable (body : List UInt8) (misfit : Charset.Misfit) (e : BodyExpectation) : Prop :=
  e.IsText ∧ Charset.decodeUtf8 body = .error misfit

/-- What is expected of a body: to be the JSON text of a value that is met, to
    be the bytes, or to be the UTF-8 form of a text that is met. -/
def Met (body : List UInt8) : BodyExpectation → Prop
  | .json expected => ∃ v, Json.readBytes .body body = some v ∧ expected.holds v = .ok true
  | .content (.value (.bytes expected)) => expected = body
  | .content expected =>
    ∃ cs, Charset.decodeUtf8 body = .ok cs ∧ expected.holds (.str (String.ofList cs)) = .ok true

/-- There are three ways to compare a body. -/
theorem kinds (e : BodyExpectation) :
    (∃ expected, e = .json expected) ∨ (∃ bytes, e = .content (.value (.bytes bytes))) ∨
      e.IsText := by
  cases e with
  | json expected => exact .inl ⟨expected, rfl⟩
  | content expected =>
      cases expected with
      | test shown holds => exact .inr (.inr trivial)
      | value v =>
          cases v
          case bytes bytes => exact .inr (.inl ⟨bytes, rfl⟩)
          all_goals exact .inr (.inr trivial)

theorem met_text_iff (h : e.IsText) (body : List UInt8) :
    e.Met body ↔ ∃ cs, Charset.decodeUtf8 body = .ok cs ∧
      e.matcher.holds (.str (String.ofList cs)) = .ok true := by
  cases e with
  | json expected => exact h.elim
  | content expected =>
      cases expected with
      | test shown holds => rfl
      | value v =>
          cases v
          case bytes bytes => exact h.elim
          all_goals rfl

theorem bodyMeets_text (h : e.IsText) (body : List UInt8) :
    Rule.bodyMeets body e = match Charset.decodeUtf8 body with
      | .ok cs => e.matcher.holds (.str (String.ofList cs))
      | .error misfit => .error (.notUtf8 misfit) := by
  cases e with
  | json expected => exact h.elim
  | content expected =>
      cases expected with
      | test shown holds => rfl
      | value v =>
          cases v
          case bytes bytes => exact h.elim
          all_goals rfl

end BodyExpectation

/-- What a comparison with a body comes to: an answer, or the failure that the
    body is no text. -/
inductive Compared (body : List UInt8) (e : BodyExpectation) : Except Failure Bool → Prop where
  | met (h : e.Met body) : Compared body e (.ok true)
  | missed (h : ¬ e.Met body) (hread : ∀ misfit, ¬ e.Unreadable body misfit) :
      Compared body e (.ok false)
  | unreadable {misfit : Charset.Misfit} (h : e.Unreadable body misfit) :
      Compared body e (.error (.notUtf8 misfit))

/-- A matcher that does not fail gives the answer. -/
theorem compared_of_holds {e : BodyExpectation} {v : Value} (h : e.matcher.Decides)
    (hread : ∀ misfit, ¬ e.Unreadable body misfit)
    (hmet : e.Met body ↔ e.matcher.holds v = .ok true) :
    Compared body e (e.matcher.holds v) := by
  obtain ⟨b, hb⟩ := h v
  rw [hb] at hmet ⊢
  cases b with
  | true => exact .met (hmet.mpr rfl)
  | false => exact .missed (fun hb => nomatch hmet.mp hb) hread

/-- **Every comparison with a body** comes to this. -/
theorem compared_bodyMeets {e : BodyExpectation} (h : e.matcher.Decides) (body : List UInt8) :
    Compared body e (Rule.bodyMeets body e) := by
  rcases e.kinds with ⟨expected, rfl⟩ | ⟨bytes, rfl⟩ | htext
  · have hread : ∀ misfit, ¬ (BodyExpectation.json expected).Unreadable body misfit :=
      fun _ h => h.1
    rw [Rule.bodyMeets]
    cases hjson : Json.readBytes .body body with
    | none =>
        refine .missed ?_ hread
        rintro ⟨v, hv, -⟩
        cases hjson.symm.trans hv
    | some v =>
        refine compared_of_holds (e := .json expected) h hread ?_
        simp [BodyExpectation.Met, BodyExpectation.matcher, hjson]
  · rw [Rule.bodyMeets]
    by_cases hbytes : bytes = body
    · rw [beq_iff_eq.mpr hbytes]
      exact .met hbytes
    · rw [beq_eq_false_iff_ne.mpr hbytes]
      exact .missed hbytes (fun _ h => h.1)
  · rw [BodyExpectation.bodyMeets_text htext]
    have hmet := BodyExpectation.met_text_iff htext body
    cases hdecode : Charset.decodeUtf8 body with
    | error misfit => exact .unreadable ⟨htext, hdecode⟩
    | ok cs =>
        refine compared_of_holds h ?_ ?_
        · rintro misfit ⟨-, hmisfit⟩
          cases hdecode.symm.trans hmisfit
        · simp [hmet, hdecode]

/-! ## One rule -/

namespace Rule

/-- A rule that only compares: it has no condition on the whole request and no
    handler, and its matchers do not fail. -/
structure Declarative (rule : Rule) : Prop where
  method : ∀ expected, rule.method = some expected → expected.Decides
  path : ∀ expected, rule.path = some expected → expected.Decides
  headers : ∀ entry ∈ rule.headers, entry.2.Decides
  body : ∀ e, rule.body = some e → e.matcher.Decides
  condition : rule.condition = none
  handler : rule.handler = none

/-- What the rule expects in front of the body is met: the method, the path and
    the headers. -/
structure FrontMet (rule : Rule) (r : Request) (u : Url) : Prop where
  method : ∀ expected, rule.method = some expected → expected.holds (.str r.method) = .ok true
  path : ∀ expected, rule.path = some expected → expected.holds (.str u.path) = .ok true
  headers : ∀ entry ∈ rule.headers, ∃ actual, r.header? entry.1 = some actual ∧
    entry.2.holds (.str actual) = .ok true

/-- A rule fits a request: everything that it expects is met. -/
def Fits (rule : Rule) (r : Request) (u : Url) : Prop :=
  rule.FrontMet r u ∧ ∀ e, rule.body = some e → ∃ body, r.body = some body ∧ e.Met body

/-- A rule trips over a request: it compares the body as text, and the body is
    no UTF-8. -/
def Trips (rule : Rule) (r : Request) (u : Url) (misfit : Charset.Misfit) : Prop :=
  rule.FrontMet r u ∧ ∃ e body, rule.body = some e ∧ r.body = some body ∧
    e.Unreadable body misfit

/-- The conditions in front of the body. -/
def front (rule : Rule) (r : Request) : List (Except Failure Bool) :=
  rule.matchesMethod r :: rule.matchesPath r ::
    rule.headers.map fun entry => headerMeets r entry.1 entry.2

theorem headerMeets_iff {name : String} {expected : Matcher} :
    headerMeets r name expected = .ok true ↔
      ∃ actual, r.header? name = some actual ∧ expected.holds (.str actual) = .ok true := by
  rw [headerMeets]
  cases r.header? name with
  | none => simp
  | some actual => simp

/-- **The conditions in front of the body** say what is expected there. -/
theorem front_iff (hsplit : Url.split r.url = .ok u) :
    (∀ k ∈ rule.front r, k = .ok true) ↔ rule.FrontMet r u := by
  have hmethod : rule.matchesMethod r = .ok true ↔
      ∀ expected, rule.method = some expected → expected.holds (.str r.method) = .ok true := by
    rw [matchesMethod]
    cases rule.method with
    | none => simp
    | some expected => simp
  have hpath : rule.matchesPath r = .ok true ↔
      ∀ expected, rule.path = some expected → expected.holds (.str u.path) = .ok true := by
    rw [matchesPath]
    cases rule.path with
    | none => simp
    | some expected => simp [hsplit]
  rw [front, List.forall_mem_cons, List.forall_mem_cons, List.forall_mem_map, hmethod, hpath]
  simp only [headerMeets_iff]
  exact ⟨fun ⟨h, h', h''⟩ => ⟨h, h', h''⟩, fun h => ⟨h.method, h.path, h.headers⟩⟩

/-- The conditions in front of the body do not fail. -/
theorem front_decides (h : rule.Declarative) (hsplit : Url.split r.url = .ok u) :
    ∀ k ∈ rule.front r, ∃ b, k = .ok b := by
  rw [front, List.forall_mem_cons, List.forall_mem_cons, List.forall_mem_map]
  refine ⟨?_, ?_, ?_⟩
  · rw [matchesMethod]
    cases hmethod : rule.method with
    | none => exact ⟨true, rfl⟩
    | some expected => exact h.method expected hmethod _
  · rw [matchesPath]
    cases hpath : rule.path with
    | none => exact ⟨true, rfl⟩
    | some expected =>
        rw [hsplit]
        exact h.path expected hpath _
  · intro entry hentry
    rw [headerMeets]
    cases r.header? entry.1 with
    | none => exact ⟨false, rfl⟩
    | some actual => exact h.headers entry hentry _

/-- What the conditions of a rule come to: the rule fits, or it does not, or it
    trips. -/
inductive Judged (rule : Rule) (r : Request) (u : Url) : Except Failure Bool → Prop where
  | fits (h : rule.Fits r u) : Judged rule r u (.ok true)
  | differs (h : ¬ rule.Fits r u) (htrips : ∀ misfit, ¬ rule.Trips r u misfit) :
      Judged rule r u (.ok false)
  | trips {misfit : Charset.Misfit} (h : rule.Trips r u misfit) :
      Judged rule r u (.error (.notUtf8 misfit))

/-- Behind conditions that hold, the body decides. -/
theorem judged_matchesBody (h : rule.Declarative) (hfront : rule.FrontMet r u) :
    Judged rule r u (rule.matchesBody r) := by
  rw [matchesBody]
  cases hrule : rule.body with
  | none => exact .fits ⟨hfront, fun e he => nomatch hrule.symm.trans he⟩
  | some e =>
      cases hr : r.body with
      | none => exact .differs (by simp [Fits, hrule, hr]) (by simp [Trips, hr])
      | some body =>
          have hfits : rule.Fits r u ↔ e.Met body := by simp [Fits, hfront, hrule, hr]
          have htrips (misfit : Charset.Misfit) :
              rule.Trips r u misfit ↔ e.Unreadable body misfit := by
            simp [Trips, hfront, hrule, hr]
          dsimp only
          have hcompared := compared_bodyMeets (h.body e hrule) body
          generalize bodyMeets body e = result at hcompared ⊢
          cases hcompared with
          | met hmet => exact .fits (hfits.mpr hmet)
          | missed hmet hread =>
              refine .differs (fun h => hmet (hfits.mp h)) ?_
              intro misfit h
              exact hread misfit ((htrips misfit).mp h)
          | unreadable hmisfit => exact .trips ((htrips _).mpr hmisfit)

/-- **The conditions of a rule that only compares** come to nothing else. -/
theorem judged_accepts (h : rule.Declarative) (hsplit : Url.split r.url = .ok u) :
    Judged rule r u (rule.accepts r) := by
  have hconditions : rule.conditions r = rule.front r ++ [rule.matchesBody r, .ok true] := by
    rw [conditions, matchesRequest, h.condition]
    rfl
  rw [accepts, hconditions]
  rcases allHold_cases (rule.front r) with
    ⟨hfront, -⟩ | ⟨before, k, after, hcut, hbefore, hne, -⟩
  · have hlast : allHold [rule.matchesBody r, .ok true] = rule.matchesBody r := by
      rcases hbody : rule.matchesBody r with failure | b
      · rfl
      · cases b <;> rfl
    rw [allHold_append hfront, hlast]
    exact judged_matchesBody h ((front_iff hsplit).mp hfront)
  · -- one of the conditions in front does not hold, and it does not fail
    have hk : k ∈ rule.front r := hcut ▸ List.mem_append_right before List.mem_cons_self
    have hnot : ¬ rule.FrontMet r u := fun hmet => hne ((front_iff hsplit).mpr hmet k hk)
    obtain ⟨b, rfl⟩ := front_decides h hsplit k hk
    cases b with
    | true => exact absurd rfl hne
    | false =>
        rw [hcut, List.append_assoc, allHold_append hbefore]
        exact .differs (fun h => hnot h.1) (fun _ h => hnot h.1)

/-- The response that is configured for a rule. -/
def response (rule : Rule) : Response := ⟨rule.status, rule.responseHeaders, rule.responseBody⟩

theorem respond_of_declarative (h : rule.Declarative) (r : Request) :
    rule.respond r = .ok (some rule.response) := by
  rw [respond, h.handler]
  rfl

/-- A rule skips a request: it neither fits nor trips. -/
def Skips (rule : Rule) (r : Request) (u : Url) : Prop :=
  ¬ rule.Fits r u ∧ ∀ misfit, ¬ rule.Trips r u misfit

theorem skips_of_passes (h : rule.Declarative) (hsplit : Url.split r.url = .ok u)
    (hpasses : rule.Passes r) : rule.Skips r u := by
  have hanswer := answer?_of_passes hpasses
  have hjudged := judged_accepts h hsplit
  rw [answer?] at hanswer
  generalize rule.accepts r = result at hjudged hanswer
  cases hjudged with
  | fits hfits => cases (respond_of_declarative h r).symm.trans hanswer
  | differs hfits htrips => exact ⟨hfits, htrips⟩
  | trips htrips => cases hanswer

theorem fits_of_answers {response : Response} (h : rule.Declarative)
    (hsplit : Url.split r.url = .ok u) (hanswers : rule.Answers r response) :
    rule.Fits r u ∧ response = rule.response := by
  obtain ⟨hmet, hrespond⟩ := hanswers
  have hjudged := judged_accepts h hsplit
  rw [accepts_of_met hmet] at hjudged
  rw [respond_of_declarative h] at hrespond
  cases hjudged with
  | fits hfits => exact ⟨hfits, (Option.some.inj (Except.ok.inj hrespond)).symm⟩

theorem trips_of_fails {failure : Failure} (h : rule.Declarative)
    (hsplit : Url.split r.url = .ok u) (hfails : rule.Fails r failure) :
    ∃ misfit, failure = .notUtf8 misfit ∧ rule.Trips r u misfit := by
  have hjudged := judged_accepts h hsplit
  rcases hfails with ⟨before, after, hcut, hbefore⟩ | ⟨-, hrespond⟩
  · rw [accepts, hcut, allHold_append hbefore] at hjudged
    change Judged rule r u (.error failure) at hjudged
    cases hjudged with
    | trips htrips => exact ⟨_, rfl, htrips⟩
  · rw [respond_of_declarative h] at hrespond
    cases hrespond

end Rule

/-! ## All rules -/

namespace Mocker

/-- The response to a request: the first rule that fits gives it, and there is
    nothing to be found if none of them does. -/
inductive Chosen (rules : List Rule) (r : Request) (u : Url) : Response → Prop where
  | rule (before : List Rule) {rule : Rule} {after : List Rule}
      (hrules : rules = before ++ rule :: after) (hbefore : ∀ e ∈ before, ¬ e.Fits r u)
      (hrule : rule.Fits r u) : Chosen rules r u rule.response
  | nothing (hall : ∀ e ∈ rules, ¬ e.Fits r u) : Chosen rules r u ⟨404, [], []⟩

/-- The first rule that does not skip a request trips over it. -/
def TripsAt (rules : List Rule) (r : Request) (u : Url) (misfit : Charset.Misfit) : Prop :=
  ∃ before rule after, rules = before ++ rule :: after ∧ (∀ e ∈ before, e.Skips r u) ∧
    rule.Trips r u misfit

/-- **Rules that only compare give a response** to every request: that of the
    first one that fits.  A body that is not JSON, or that is no UTF-8, fits no
    rule that expects it to be; but the search fails at a rule that compares it
    as text, if it gets there and the body is no UTF-8. -/
theorem answer_of_declarative (hlax : m.strict = false)
    (hrules : ∀ rule ∈ m.rules, rule.Declarative) (hsplit : Url.split r.url = .ok u) :
    (∃ response, (m.answer r).result = .ok response ∧ Chosen m.rules r u response) ∨
      ∃ misfit, (m.answer r).result = .error (.notUtf8 misfit) ∧ TripsAt m.rules r u misfit := by
  have hskips {before : List Rule} (hsub : ∀ e ∈ before, e ∈ m.rules)
      (hpasses : ∀ e ∈ before, e.Passes r) : ∀ e ∈ before, e.Skips r u :=
    fun e he => Rule.skips_of_passes (hrules e (hsub e he)) hsplit (hpasses e he)
  have hanswered := answered_answer m r
  generalize place? r m.rules = place at hanswered
  generalize m.answer r = t at hanswered ⊢
  cases hanswered with
  | byRule before hcut hbefore hrule =>
      have hsub : ∀ e ∈ before, e ∈ m.rules := fun e he => hcut ▸ List.mem_append_left _ he
      have hmem : _ ∈ m.rules := hcut ▸ List.mem_append_right before List.mem_cons_self
      obtain ⟨hfits, rfl⟩ := Rule.fits_of_answers (hrules _ hmem) hsplit hrule
      refine .inl ⟨_, rfl, .rule before hcut ?_ hfits⟩
      exact fun e he => (hskips hsub hbefore e he).1
  | notFound hall hlax =>
      refine .inl ⟨_, rfl, .nothing ?_⟩
      exact fun e he => (hskips (fun _ h => h) hall e he).1
  | refused hall hstrict hfailure => exact nomatch hlax.symm.trans hstrict
  | failed before hcut hbefore hrule =>
      have hsub : ∀ e ∈ before, e ∈ m.rules := fun e he => hcut ▸ List.mem_append_left _ he
      have hmem : _ ∈ m.rules := hcut ▸ List.mem_append_right before List.mem_cons_self
      obtain ⟨misfit, rfl, htrips⟩ := Rule.trips_of_fails (hrules _ hmem) hsplit hrule
      exact .inr ⟨misfit, rfl, before, _, _, hcut, hskips hsub hbefore, htrips⟩

/-- A rule for the method, the path and the body, and an answer. -/
def comparing (method path : Option Value) (body : Option BodyExpectation) (status : Int) : Rule :=
  { Rule.forRequests (method.map .value) (path.map .value) with body, status }

theorem declarative_comparing {method path : Option Value} {body : Option BodyExpectation}
    (hmethod : ∀ v, method = some v → Comparable v) (hpath : ∀ v, path = some v → Comparable v)
    (hbody : ∀ e, body = some e → e.matcher.Decides) (status : Int) :
    (comparing method path body status).Declarative where
  method expected h := by
    obtain ⟨v, hv, rfl⟩ := Option.map_eq_some_iff.mp h
    exact decides_value (hmethod v hv)
  path expected h := by
    obtain ⟨v, hv, rfl⟩ := Option.map_eq_some_iff.mp h
    exact decides_value (hpath v hv)
  headers entry h := absurd h List.not_mem_nil
  body := hbody
  condition := rfl
  handler := rfl

/-- A body that is neither UTF-8 nor JSON passes a rule for text and another
    method and a rule for JSON, and the rule behind them answers. -/
theorem answer_of_declarative_behind :
    let m : Mocker := ⟨[
      comparing (some (.str "GET")) none (some (.content (.value (.str "x")))) 200,
      comparing (some (.str "POST")) none (some (.json (.value (.int 1)))) 201,
      comparing none none none 204], false⟩
    let r : Request := ⟨"POST", "http://h/x", [], some [0xFF], none⟩
    let u : Url := ⟨"http", "h", "/x"⟩
    m.strict = false ∧ (∀ rule ∈ m.rules, rule.Declarative) ∧ Url.split r.url = .ok u ∧
      (m.answer r).result = .ok ⟨204, [], []⟩ ∧
      ((∃ response, (m.answer r).result = .ok response ∧ Chosen m.rules r u response) ∨
        ∃ misfit, (m.answer r).result = .error (.notUtf8 misfit) ∧
          TripsAt m.rules r u misfit) := by
  intro m r u
  have hword (word : String) : ∀ v, some (Value.str word) = some v → Comparable v := by
    rintro _ ⟨⟩
    trivial
  have hany : ∀ v, none = some v → Comparable v := fun _ h => nomatch h
  have hrules : ∀ rule ∈ m.rules, rule.Declarative := by
    refine List.forall_mem_cons.mpr ⟨declarative_comparing (hword "GET") hany ?_ _,
      List.forall_mem_cons.mpr ⟨declarative_comparing (hword "POST") hany ?_ _,
        List.forall_mem_singleton.mpr (declarative_comparing hany hany ?_ _)⟩⟩
    · rintro _ ⟨⟩
      exact decides_value trivial
    · rintro _ ⟨⟩
      exact decides_value trivial
    · rintro _ ⟨⟩
  have hsplit : Url.split r.url = .ok u := by cbv
  exact ⟨rfl, hrules, hsplit, by cbv, answer_of_declarative rfl hrules hsplit⟩

/-- **A body that is no UTF-8 ends the search** at a rule for text, though the
    rule behind it would answer. -/
theorem answer_fails_on_text :
    let m : Mocker := ⟨[comparing none none (some (.content (.value (.str "x")))) 200,
      comparing none none none 204], false⟩
    let r : Request := ⟨"POST", "http://h/", [], some [0xFF], none⟩
    m.strict = false ∧ (∀ rule ∈ m.rules, rule.Declarative) ∧
      Url.split r.url = .ok ⟨"http", "h", "/"⟩ ∧
      ¬ ∃ response, (m.answer r).result = .ok response := by
  intro m r
  have hany : ∀ v, none = some v → Comparable v := fun _ h => nomatch h
  have hrules : ∀ rule ∈ m.rules, rule.Declarative := by
    refine List.forall_mem_cons.mpr ⟨declarative_comparing hany hany ?_ _,
      List.forall_mem_singleton.mpr (declarative_comparing hany hany ?_ _)⟩
    · rintro _ ⟨⟩
      exact decides_value trivial
    · rintro _ ⟨⟩
  have hfails : (m.answer r).result
      = .error (.notUtf8 ⟨"utf-8", 0xFF, 0, 1, "invalid start byte"⟩) := by cbv
  refine ⟨rfl, hrules, by cbv, ?_⟩
  rintro ⟨response, hresponse⟩
  cases hfails.symm.trans hresponse

end Mocker

end HttpExchange.Mock
