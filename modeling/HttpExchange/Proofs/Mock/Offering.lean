import HttpExchange.Mock.Mocker

/-! # Which rule answers a request

    A mock transport offers a request to its rules in order, and stops at the
    first one that answers.

    * `Rule.Answers`, `Rule.Passes` and `Rule.Fails` are what can become of a
      request that a rule is offered, and every offer is one of them;
    * `Offered` says what becomes of the rules;
    * `Answered` says what becomes of the whole transport, and
      `answered_answer` that every request goes this way. -/

namespace HttpExchange.Mock

variable {r : Request}

/-! ## One rule -/

/-- Conditions all hold, or they are looked at up to one that does not. -/
theorem allHold_cases (ks : List (Except Failure Bool)) :
    ((∀ k ∈ ks, k = .ok true) ∧ Rule.allHold ks = .ok true) ∨
      ∃ before k after, ks = before ++ k :: after ∧ (∀ x ∈ before, x = .ok true) ∧
        k ≠ .ok true ∧ Rule.allHold ks = k := by
  induction ks with
  | nil => exact Or.inl ⟨(fun _ h => nomatch h), rfl⟩
  | cons k ks ih =>
      by_cases hk : k = .ok true
      · subst hk
        rcases ih with ⟨hall, hhold⟩ | ⟨before, k, after, rfl, hbefore, hne, hhold⟩
        · exact Or.inl ⟨List.forall_mem_cons.mpr ⟨rfl, hall⟩, hhold⟩
        · exact Or.inr ⟨.ok true :: before, k, after, rfl,
            List.forall_mem_cons.mpr ⟨rfl, hbefore⟩, hne, hhold⟩
      · have hstops : Rule.allHold (k :: ks) = k := by
          rw [Rule.allHold]
          exact hk
        exact Or.inr ⟨[], k, ks, rfl, (fun _ h => nomatch h), hk, hstops⟩

namespace Rule

variable {rule : Rule}

/-- All conditions of the rule hold for the request. -/
def Met (rule : Rule) (r : Request) : Prop := ∀ k ∈ rule.conditions r, k = .ok true

/-- A condition of the rule comes to something else, and those before it
    hold. -/
def StopsAt (rule : Rule) (r : Request) (k : Except Failure Bool) : Prop :=
  ∃ before after, rule.conditions r = before ++ k :: after ∧ ∀ x ∈ before, x = .ok true

/-- The conditions of the rule hold, and its handler gives a response. -/
def Answers (rule : Rule) (r : Request) (response : Response) : Prop :=
  rule.Met r ∧ rule.respond r = .ok (some response)

/-- A condition of the rule does not hold, or its handler declines. -/
def Passes (rule : Rule) (r : Request) : Prop :=
  rule.StopsAt r (.ok false) ∨ (rule.Met r ∧ rule.respond r = .ok none)

/-- A condition of the rule fails, or its handler does. -/
def Fails (rule : Rule) (r : Request) (failure : Failure) : Prop :=
  rule.StopsAt r (.error failure) ∨ (rule.Met r ∧ rule.respond r = .error failure)

/-- **What becomes of a request that a rule is offered.** -/
theorem answer?_cases (rule : Rule) (r : Request) :
    (∃ response, rule.Answers r response ∧ rule.answer? r = .ok (some response)) ∨
      (rule.Passes r ∧ rule.answer? r = .ok none) ∨
      ∃ failure, rule.Fails r failure ∧ rule.answer? r = .error failure := by
  rw [answer?, accepts]
  rcases allHold_cases (rule.conditions r) with
    ⟨hmet, hhold⟩ | ⟨before, k, after, hcut, hbefore, hne, hhold⟩
  · rw [hhold]
    dsimp only
    cases hrespond : rule.respond r with
    | ok response =>
        cases response with
        | some response => exact Or.inl ⟨response, ⟨hmet, hrespond⟩, rfl⟩
        | none => exact Or.inr (Or.inl ⟨Or.inr ⟨hmet, hrespond⟩, rfl⟩)
    | error failure => exact Or.inr (Or.inr ⟨failure, Or.inr ⟨hmet, hrespond⟩, rfl⟩)
  · have hstops : rule.StopsAt r k := ⟨before, after, hcut, hbefore⟩
    rw [hhold]
    cases k with
    | ok b =>
        cases b with
        | true => exact absurd rfl hne
        | false => exact Or.inr (Or.inl ⟨Or.inl hstops, rfl⟩)
    | error failure => exact Or.inr (Or.inr ⟨failure, Or.inl hstops, rfl⟩)

/-- Conditions that hold leave the others to decide. -/
theorem allHold_append {before : List (Except Failure Bool)}
    (h : ∀ k ∈ before, k = .ok true) (ks : List (Except Failure Bool)) :
    allHold (before ++ ks) = allHold ks := by
  induction before with
  | nil => rfl
  | cons k before ih =>
      obtain ⟨rfl, hrest⟩ := List.forall_mem_cons.mp h
      exact ih hrest

theorem accepts_of_met (h : rule.Met r) : rule.accepts r = .ok true := by
  have hhold := allHold_append h []
  rw [List.append_nil] at hhold
  exact hhold

theorem answer?_of_answers {response : Response} (h : rule.Answers r response) :
    rule.answer? r = .ok (some response) := by
  rw [answer?, accepts_of_met h.1]
  exact h.2

theorem answer?_of_passes (h : rule.Passes r) : rule.answer? r = .ok none := by
  rcases h with ⟨before, after, hcut, hbefore⟩ | ⟨hmet, hrespond⟩
  · rw [answer?, accepts, hcut, allHold_append hbefore]
    rfl
  · rw [answer?, accepts_of_met hmet]
    exact hrespond

/-- Record a request that the rule answered. -/
def take (rule : Rule) (r : Request) : Rule := { rule with matched := rule.matched ++ [r] }

/-- Record a request that the rule passed on. -/
def passOn (rule : Rule) (r : Request) : Rule := { rule with unmatched := rule.unmatched ++ [r] }

@[simp] theorem matched_take (rule : Rule) (r : Request) :
    (rule.take r).matched = rule.matched ++ [r] := rfl

@[simp] theorem matched_passOn (rule : Rule) (r : Request) :
    (rule.passOn r).matched = rule.matched := rfl

end Rule

/-! ## All rules -/

namespace Mocker

variable {rules : List Rule}

/-- The place of the rule that answers a request. -/
def place? (r : Request) : List Rule → Option Nat
  | [] => none
  | rule :: rest =>
    match rule.answer? r with
    | .ok (some _) => some 0
    | .ok none => (place? r rest).map (· + 1)
    | .error _ => none

/-- What becomes of rules that are offered a request: which of them answers,
    what all of them have recorded then, and the answer.  The rules before the
    one that answers or fails have passed the request on, and those behind it
    have not seen it. -/
inductive Offered (r : Request) (rules : List Rule) :
    Option Nat → List Rule → Except Failure (Option Response) → Prop where
  | answered (before : List Rule) {rule : Rule} {after : List Rule} {response : Response}
      (hrules : rules = before ++ rule :: after) (hbefore : ∀ e ∈ before, e.Passes r)
      (hrule : rule.Answers r response) :
      Offered r rules (some before.length) (before.map (·.passOn r) ++ rule.take r :: after)
        (.ok (some response))
  | passed (hall : ∀ e ∈ rules, e.Passes r) :
      Offered r rules none (rules.map (·.passOn r)) (.ok none)
  | failed (before : List Rule) {rule : Rule} {after : List Rule} {failure : Failure}
      (hrules : rules = before ++ rule :: after) (hbefore : ∀ e ∈ before, e.Passes r)
      (hrule : rule.Fails r failure) :
      Offered r rules none (before.map (·.passOn r) ++ rule :: after) (.error failure)

/-- One more rule in front that passes the request on. -/
theorem Offered.cons {place : Option Nat} {state : List Rule}
    {result : Except Failure (Option Response)} (h : Offered r rules place state result)
    {rule : Rule} (hpasses : rule.Passes r) :
    Offered r (rule :: rules) (place.map (· + 1)) (rule.passOn r :: state) result := by
  cases h with
  | answered before hrules hbefore hrule =>
      exact .answered (rule :: before) (congrArg _ hrules)
        (List.forall_mem_cons.mpr ⟨hpasses, hbefore⟩) hrule
  | passed hall => exact .passed (List.forall_mem_cons.mpr ⟨hpasses, hall⟩)
  | failed before hrules hbefore hrule =>
      exact .failed (rule :: before) (congrArg _ hrules)
        (List.forall_mem_cons.mpr ⟨hpasses, hbefore⟩) hrule

theorem offered_offer (r : Request) (rules : List Rule) :
    Offered r rules (place? r rules) (offer r rules).state (offer r rules).result := by
  induction rules with
  | nil => exact .passed (fun _ h => nomatch h)
  | cons rule rest ih =>
      rcases rule.answer?_cases r with
        ⟨response, hanswers, h⟩ | ⟨hpasses, h⟩ | ⟨failure, hfails, h⟩
      · simp only [place?, offer, Rule.handle, h, Transition.done]
        exact .answered [] rfl (fun _ hmem => nomatch hmem) hanswers
      · simp only [place?, offer, Rule.handle, h, Transition.done]
        exact ih.cons hpasses
      · simp only [place?, offer, Rule.handle, h, Transition.fail]
        exact .failed [] rfl (fun _ hmem => nomatch hmem) hfails

/-- Rules that pass a request on leave it to the others. -/
theorem offer_append {before : List Rule} (h : ∀ e ∈ before, e.Passes r) (rest : List Rule) :
    (offer r (before ++ rest)).result = (offer r rest).result := by
  induction before with
  | nil => rfl
  | cons rule before ih =>
      obtain ⟨hrule, hbefore⟩ := List.forall_mem_cons.mp h
      rw [List.cons_append, offer, Rule.handle, Rule.answer?_of_passes hrule]
      exact ih hbefore

/-- **The first rule that answers** gives the response. -/
theorem answer_of_answers {m : Mocker} {before : List Rule} {rule : Rule} {after : List Rule}
    {response : Response} (hrules : m.rules = before ++ rule :: after)
    (hbefore : ∀ e ∈ before, e.Passes r) (hrule : rule.Answers r response) :
    (m.answer r).result = .ok response := by
  have hoffer : (offer r m.rules).result = .ok (some response) := by
    rw [hrules, offer_append hbefore, offer, Rule.handle, Rule.answer?_of_answers hrule]
    rfl
  rw [answer, hoffer]
  rfl

/-- What becomes of a request that is sent through a mock transport: which rule
    answers it, the transport afterwards and the answer. -/
inductive Answered (m : Mocker) (r : Request) :
    Option Nat → Transition Mocker Response → Prop where
  /-- The first rule that does not pass the request on answers it. -/
  | byRule (before : List Rule) {rule : Rule} {after : List Rule} {response : Response}
      (hrules : m.rules = before ++ rule :: after) (hbefore : ∀ e ∈ before, e.Passes r)
      (hrule : rule.Answers r response) :
      Answered m r (some before.length)
        (.done { m with rules := before.map (·.passOn r) ++ rule.take r :: after } response)
  /-- All rules pass it on. -/
  | notFound (hall : ∀ e ∈ m.rules, e.Passes r) (hlax : m.strict = false) :
      Answered m r none (.done { m with rules := m.rules.map (·.passOn r) } ⟨404, [], []⟩)
  /-- All rules of a strict transport pass it on. -/
  | refused (hall : ∀ e ∈ m.rules, e.Passes r) (hstrict : m.strict = true) {failure : Failure}
      (hfailure : failure = .unmatched r.method r.url) (hkind : failure.kind = .assertion) :
      Answered m r none (.fail { m with rules := m.rules.map (·.passOn r) } failure)
  /-- The first rule that does not pass it on fails. -/
  | failed (before : List Rule) {rule : Rule} {after : List Rule} {failure : Failure}
      (hrules : m.rules = before ++ rule :: after) (hbefore : ∀ e ∈ before, e.Passes r)
      (hrule : rule.Fails r failure) :
      Answered m r none
        (.fail { m with rules := before.map (·.passOn r) ++ rule :: after } failure)

/-- **Every request** is answered by the first rule that does not pass it on,
    or by none. -/
theorem answered_answer (m : Mocker) (r : Request) :
    Answered m r (place? r m.rules) (m.answer r) := by
  have hoffered := offered_offer r m.rules
  rw [answer]
  generalize place? r m.rules = place at hoffered ⊢
  generalize (offer r m.rules).state = state at hoffered ⊢
  generalize (offer r m.rules).result = result at hoffered ⊢
  cases hoffered with
  | answered before hrules hbefore hrule => exact .byRule before hrules hbefore hrule
  | passed hall =>
      cases hstrict : m.strict with
      | false =>
          have h := Answered.notFound hall hstrict
          rw [hstrict] at h
          exact h
      | true =>
          have h := Answered.refused hall hstrict rfl rfl
          rw [hstrict] at h
          exact h
  | failed before hrules hbefore hrule => exact .failed before hrules hbefore hrule

end Mocker

end HttpExchange.Mock
