import Mathlib.Data.List.Induction
import HttpExchange.Proofs.Mock.Offering

/-! # What the rules of a mock transport have recorded

    A ledger notes, for everything that is done to a mock transport, which rule
    answered which request.  Every rule holds exactly the requests that the
    ledger has for its place, so together they hold those of the ledger. -/

namespace HttpExchange.Mock

/-- Configure a rule.  It stays as it is if that fails. -/
def Rule.configured (rule : Rule) (setup : Rule.Setup) : Rule :=
  match rule.configure setup with
  | .ok rule => rule
  | .error _ => rule

namespace Rule

/-- The rule with other recorded requests. -/
def recorded (rule : Rule) (matched unmatched : List Request) : Rule :=
  { rule with matched, unmatched }

variable (rule : Rule) (matched unmatched : List Request)

theorem declareType_recorded (contentType : String) :
    (rule.recorded matched unmatched).declareType contentType
      = (rule.declareType contentType).recorded matched unmatched := by
  have hheaders : (rule.recorded matched unmatched).responseHeaders = rule.responseHeaders := rfl
  rw [declareType, declareType, hheaders]
  split
  · rfl
  · rfl

/-- **What a rule has recorded** means nothing to a configuration, and stays. -/
theorem configured_recorded (setup : Setup) :
    (rule.recorded matched unmatched).configured setup
      = (rule.configured setup).recorded matched unmatched := by
  cases setup with
  | withBodyBytes body =>
      rw [configured, configured, configure, configure]
      cases contentOf body with
      | ok bytes => rfl
      | error failure => rfl
  | withBodyText body =>
      rw [configured, configured, configure, configure]
      cases body.string? with
      | some text =>
          exact declareType_recorded { rule with responseBody := Utf8.encodeString text } _ _ _
      | none => rfl
  | withBodyJson v =>
      rw [configured, configured, configure, configure, answerJson, answerJson]
      cases Json.writeBytes? v with
      | some bytes => exact declareType_recorded { rule with responseBody := bytes } _ _ _
      | none => rfl
  | _ => rfl

theorem matched_configured (setup : Setup) :
    (rule.configured setup).matched = rule.matched := by
  have hrule : rule = rule.recorded rule.matched rule.unmatched := rfl
  rw [hrule, configured_recorded]
  rfl

end Rule

namespace Mocker

/-! ## Operations -/

/-- What is done to a mock transport.  Rules are named by their places. -/
inductive Operation where
  | mock (method path : Option Matcher)
  | configure (place : Nat) (setup : Rule.Setup)
  | send (r : Request)
  | strict (enabled : Bool)
  | resetRule (place : Nat)
  | reset
  | clear

/-- Do an operation. -/
def perform (m : Mocker) : Operation → Mocker
  | .mock method path => m.add (.forRequests method path)
  | .configure place setup => { m with rules := m.rules.modify place (·.configured setup) }
  | .send r => (m.answer r).state
  | .strict enabled => { m with strict := enabled }
  | .resetRule place => { m with rules := m.rules.modify place Rule.reset }
  | .reset => m.reset
  | .clear => m.clear

/-- The answered requests since they were last forgotten, each with the place
    of the rule that answered it, in the order of the answers. -/
abbrev Ledger := List (Nat × Request)

/-- The requests that a ledger has for a place. -/
def Ledger.at (ledger : Ledger) (place : Nat) : List Request :=
  (ledger.filter (·.1 == place)).map (·.2)

/-- Note in a ledger what an operation does to a transport. -/
def note (m : Mocker) (ledger : Ledger) : Operation → Ledger
  | .send r =>
    match place? r m.rules with
    | some place => ledger ++ [(place, r)]
    | none => ledger
  | .resetRule place => ledger.filter (·.1 != place)
  | .reset | .clear => []
  | .mock .. | .configure .. | .strict _ => ledger

/-- A mock transport after a sequence of operations that starts without rules,
    and the ledger of it. -/
def run (operations : List Operation) : Mocker × Ledger :=
  operations.foldl (fun (m, ledger) operation =>
    (m.perform operation, m.note ledger operation)) (.empty, [])

/-! ## The ledger of a run -/

/-- A change in the place behind a list. -/
theorem modify_length {α : Type} (before : List α) (a : α) (after : List α) (f : α → α) :
    (before ++ a :: after).modify before.length f = before ++ f a :: after := by
  induction before with
  | nil => rfl
  | cons b before ih => exact congrArg (b :: ·) ih

/-- The rules of a transport hold the requests that a ledger has for them. -/
structure Tallied (m : Mocker) (ledger : Ledger) : Prop where
  held : m.rules.map Rule.matched = (List.range m.rules.length).map ledger.at
  placed : ∀ entry ∈ ledger, entry.1 < m.rules.length

theorem tallied_empty : Tallied .empty [] := ⟨rfl, (fun _ h => nomatch h)⟩

namespace Tallied

variable {m m' : Mocker} {ledger ledger' : Ledger}

/-- Rules that hold what they held. -/
theorem keep (h : Tallied m ledger)
    (hrules : m'.rules.map Rule.matched = m.rules.map Rule.matched) : Tallied m' ledger := by
  have hlength : m'.rules.length = m.rules.length := by
    simpa only [List.length_map] using congrArg List.length hrules
  refine ⟨?_, fun entry hentry => ?_⟩
  · rw [hrules, hlength]
    exact h.held
  · rw [hlength]
    exact h.placed entry hentry

/-- The rule in one place changes what it holds as the ledger does for that
    place. -/
theorem modify (h : Tallied m ledger) (place : Nat) (change : List Request → List Request)
    (hrules : m'.rules.map Rule.matched = (m.rules.map Rule.matched).modify place change)
    (hat : ∀ p, ledger'.at p = if place = p then change (ledger.at p) else ledger.at p)
    (hplaced : ∀ entry ∈ ledger', entry.1 < m.rules.length) : Tallied m' ledger' := by
  have hlength : m'.rules.length = m.rules.length := by
    simpa only [List.length_map, List.length_modify] using congrArg List.length hrules
  refine ⟨?_, fun entry hentry => ?_⟩
  · rw [hrules, hlength, h.held]
    refine List.ext_getElem (by simp) fun p hp hp' => ?_
    rw [List.getElem_modify, List.getElem_map, List.getElem_map, List.getElem_range, hat]
  · rw [hlength]
    exact hplaced entry hentry

/-- A rule that is added holds nothing, and the ledger has nothing for it. -/
theorem add (h : Tallied m ledger) (method path : Option Matcher) :
    Tallied (m.add (.forRequests method path)) ledger := by
  have hlength : (m.add (.forRequests method path)).rules.length = m.rules.length + 1 :=
    List.length_append
  have hnone : ledger.at m.rules.length = [] := by
    rw [Ledger.at, List.map_eq_nil_iff, List.filter_eq_nil_iff]
    intro entry hentry hplace
    exact absurd (eq_of_beq hplace) (Nat.ne_of_lt (h.placed entry hentry))
  refine ⟨?_, fun entry hentry => ?_⟩
  · rw [hlength, List.range_succ, List.map_append, ← h.held, Mocker.add, List.map_append,
      List.map_singleton, List.map_singleton, hnone]
    rfl
  · rw [hlength]
    exact Nat.lt_succ_of_lt (h.placed entry hentry)

/-- The rule that answers a request takes it, and no other does. -/
theorem send (h : Tallied m ledger) (r : Request) :
    Tallied (m.perform (.send r)) (m.note ledger (.send r)) := by
  have hanswered := answered_answer m r
  rw [perform, note]
  generalize place? r m.rules = place at hanswered ⊢
  generalize m.answer r = t at hanswered ⊢
  cases hanswered with
  | byRule before hrules hbefore hrule =>
      refine h.modify before.length (· ++ [r]) ?_ (fun p => ?_) fun entry hentry => ?_
      · rw [hrules]
        have hmodify := modify_length (before.map Rule.matched)
        rw [List.length_map] at hmodify
        simp [Transition.done, hmodify, Function.comp_def]
      · by_cases hp : before.length = p <;> simp [Ledger.at, hp]
      · rcases List.mem_append.mp hentry with hold | hnew
        · exact h.placed entry hold
        · rw [List.mem_singleton.mp hnew, hrules]
          simp
  | notFound hall hlax => exact h.keep (by simp [Transition.done])
  | refused hall hstrict => exact h.keep (by simp [Transition.fail])
  | failed before hrules hbefore hrule =>
      exact h.keep (by simp [Transition.fail, hrules])

/-- **What is noted stays true**: one operation. -/
theorem perform (h : Tallied m ledger) (operation : Operation) :
    Tallied (m.perform operation) (m.note ledger operation) := by
  cases operation with
  | mock method path => exact h.add method path
  | configure place setup =>
      refine h.keep ?_
      rw [Mocker.perform]
      refine List.ext_getElem (by simp) fun p hp hp' => ?_
      rw [List.getElem_map, List.getElem_map, List.getElem_modify]
      split
      · exact Rule.matched_configured _ _
      · rfl
  | send r => exact h.send r
  | strict enabled => exact h.keep rfl
  | resetRule place =>
      refine h.modify place (fun _ => []) ?_ (fun p => ?_) fun entry hentry => ?_
      · rw [Mocker.perform]
        refine List.ext_getElem (by simp) fun p hp hp' => ?_
        simp only [List.getElem_map, List.getElem_modify]
        split
        · rfl
        · rfl
      · by_cases hp : place = p
        · subst hp
          simp [Ledger.at, note]
        · rw [if_neg hp, Ledger.at, note, List.filter_filter, Ledger.at]
          congr 1
          refine List.filter_congr fun entry _ => ?_
          by_cases hentry : entry.1 = p
          · simp [hentry, Ne.symm hp]
          · simp [hentry]
      · exact h.placed entry (List.mem_filter.mp hentry).1
  | reset =>
      refine ⟨?_, (fun _ h => nomatch h)⟩
      refine List.ext_getElem (by simp [Mocker.perform, Mocker.reset, note]) fun p hp hp' => ?_
      simp [Mocker.perform, Mocker.reset, note, Ledger.at, Rule.reset]
  | clear => exact ⟨rfl, (fun _ h => nomatch h)⟩

end Tallied

/-- **What is noted is true** after any sequence of operations. -/
theorem tallied_run (operations : List Operation) :
    Tallied (run operations).1 (run operations).2 := by
  induction operations using List.reverseRecOn with
  | nil => exact tallied_empty
  | append_singleton operations operation ih =>
      rw [run, List.foldl_append]
      exact ih.perform operation

/-! ## Counts -/

/-- A ledger has its entries below a bound for one of the places below it. -/
theorem Ledger.perm_filter (ledger : Ledger) (n : Nat) :
    ((List.range n).flatMap ledger.at).Perm ((ledger.filter (·.1 < n)).map (·.2)) := by
  induction n with
  | zero => simp
  | succ n ih =>
      have hcut := (List.filter_append_perm (·.1 < n) (ledger.filter (·.1 < n + 1))).map (·.2)
      have hbelow :
          (ledger.filter (·.1 < n + 1)).filter (·.1 < n) = ledger.filter (·.1 < n) := by
        rw [List.filter_filter]
        refine List.filter_congr fun entry _ => ?_
        rw [← Bool.decide_and, decide_eq_decide]
        omega
      have hat : (ledger.filter (·.1 < n + 1)).filter (fun entry => !decide (entry.1 < n)) =
          ledger.filter (·.1 == n) := by
        rw [List.filter_filter]
        refine List.filter_congr fun entry _ => ?_
        rw [Bool.eq_iff_iff]
        simp only [Bool.and_eq_true, Bool.not_eq_true', decide_eq_true_eq, decide_eq_false_iff_not,
          beq_iff_eq]
        omega
      rw [hbelow, hat, List.map_append] at hcut
      rw [List.range_succ, List.flatMap_append, List.flatMap_singleton]
      exact (ih.append_right _).trans hcut

theorem count_eq_length_requests (m : Mocker) : m.count = m.requests.length := by
  rw [count, requests]
  generalize m.rules = rules
  induction rules with
  | nil => rfl
  | cons rule rules ih =>
      rw [List.foldr_cons, ih, List.flatMap_cons, List.length_append]
      rfl

/-- The rules hold the requests of the ledger together, each as often as the
    ledger does. -/
theorem Tallied.requests {m : Mocker} {ledger : Ledger} (h : Tallied m ledger) :
    m.requests.Perm (ledger.map (·.2)) := by
  have hall : ledger.filter (·.1 < m.rules.length) = ledger :=
    List.filter_eq_self.mpr fun entry hentry => decide_eq_true (h.placed entry hentry)
  have hperm := ledger.perm_filter m.rules.length
  rw [hall] at hperm
  rw [Mocker.requests, List.flatMap_def, h.held, ← List.flatMap_def]
  exact hperm

/-- **Which rule answers, and what is recorded.**  Every request is answered by
    the first rule that does not pass it on, or by none, and only the rules up
    to that one record it.  So at any time every rule holds the requests that
    it answered since they were last forgotten, in the order of the answers,
    and the transport holds each answered request exactly once. -/
theorem requests_run :
    (∀ m r, Answered m r (place? r m.rules) (m.answer r)) ∧
      ∀ operations : List Operation,
        let m := (run operations).1
        let ledger := (run operations).2
        m.rules.map Rule.matched = (List.range m.rules.length).map ledger.at ∧
          m.requests.Perm (ledger.map (·.2)) ∧ m.count = ledger.length := by
  refine ⟨answered_answer, fun operations => ?_⟩
  have htallied := tallied_run operations
  refine ⟨htallied.held, htallied.requests, ?_⟩
  rw [count_eq_length_requests, htallied.requests.length_eq, List.length_map]

end Mocker

end HttpExchange.Mock
