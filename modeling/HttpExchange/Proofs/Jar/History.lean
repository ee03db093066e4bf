import HttpExchange.Jar.Match
import HttpExchange.Proofs.Cookie.HeaderReading
import HttpExchange.Proofs.Jar.Arrival

/-! # The history of a store

    Whatever is done to a store comes down to events: a cookie arrives, a
    cookie is removed, or all of them are.  An event either puts one entry in
    or takes entries out by their keys, and which of the two it does is known
    without the store. -/

namespace HttpExchange.Jar

variable {j : Jar} {now : Reading} {clock : Float}

/-! ## Operations -/

/-- What a store can be asked. -/
inductive Lookup where
  | contains (k : Key)
  | containsAny (k : Key)
  | get (k : Key)
  | getAny (k : Key)
  | cookiesFor (url : String)
  | header (url : String)
  | unexpired
  | all
  | size

/-- What is done to a store.  The moment at which headers are read is no
    reading of the store's clock. -/
inductive Operation where
  | insert (c : Cookie) (url : String)
  | insertHeader (now : Reading) (header url : String)
  | setCookies (now : Reading) (headers : List String) (url : String)
  | remove (k : Key)
  | clear
  | ask (q : Lookup)

/-- What an operation gives back. -/
inductive Answer where
  | nothing
  | truth (b : Bool)
  | cookie (c : Option Cookie)
  | cookies (cs : List Cookie)
  | text (t : Option String)
  | count (n : Nat)

/-- The answer to a question. -/
def answer (j : Jar) (clock : Float) : Lookup → Except Failure Answer
  | .contains k => .ok (.truth (j.contains clock k))
  | .containsAny k => .ok (.truth (j.containsAny k))
  | .get k => .ok (.cookie (j.get? clock k))
  | .getAny k => .ok (.cookie (j.getAny? k))
  | .cookiesFor url => (j.cookiesFor clock url).map .cookies
  | .header url => (j.header? clock url).map .text
  | .unexpired => .ok (.cookies (j.unexpired clock))
  | .all => .ok (.cookies j.all)
  | .size => .ok (.count j.size)

/-- Do an operation, at a reading of the clock. -/
def perform (j : Jar) (clock : Float) : Operation → Transition Jar Answer
  | .insert c url => silently (j.insert clock c url)
  | .insertHeader now header url => silently (j.insertHeader now clock header url)
  | .setCookies now headers url => silently (j.setCookies now clock url headers)
  | .remove k => .done (j.remove k).1 (.cookie (j.remove k).2)
  | .clear => .done empty .nothing
  | .ask q => ⟨j, [], j.answer clock q⟩
where
  silently (t : Transition Jar Unit) : Transition Jar Answer :=
    ⟨t.state, t.log, t.result.map fun _ => .nothing⟩

/-- A store after a sequence of operations, each at a reading of the clock of
    its own, that starts without cookies and goes on when one of them fails. -/
def run (history : List (Float × Operation)) : Jar :=
  history.foldl (fun j step => (j.perform step.1 step.2).state) empty

/-! ## Events -/

/-- What may change a store. -/
inductive Event where
  | arrival (clock : Float) (c : Cookie) (url : String)
  | removal (k : Key)
  | clearing

/-- Carry an event out. -/
def carryOut (j : Jar) : Event → Jar
  | .arrival clock c url => (j.insert clock c url).state
  | .removal k => (j.remove k).1
  | .clearing => empty

/-- A store after a sequence of events. -/
def replay (events : List Event) : Jar := events.foldl carryOut empty

/-- Does a cookie that arrives keep those behind it from arriving? -/
def blocks (clock : Float) (c : Cookie) (url : String) : Bool :=
  match arrival clock c url with
  | .ok _ => false
  | .error failure => !failure.isRejection

/-- The arrivals of the cookies in the headers of a response: malformed
    headers are left out, and any other failure ends them. -/
def arrivals (now : Reading) (clock : Float) (url : String) : List String → List Event
  | [] => []
  | header :: rest =>
    match (Cookie.parse header now).result with
    | .ok c =>
      .arrival clock c url :: if blocks clock c url then [] else arrivals now clock url rest
    | .error failure => if failure.isRejection then arrivals now clock url rest else []

/-- The events of an operation. -/
def Operation.events (clock : Float) : Operation → List Event
  | .insert c url => [.arrival clock c url]
  | .insertHeader now header url =>
    match (Cookie.parse header now).result with
    | .ok c => [.arrival clock c url]
    | .error _ => []
  | .setCookies now headers url => arrivals now clock url headers
  | .remove k => [.removal k]
  | .clear => [.clearing]
  | .ask _ => []

/-- The events of a sequence of operations. -/
def trace (history : List (Float × Operation)) : List Event :=
  history.flatMap fun step => step.2.events step.1

/-- The cookie of a header has a name that can be looked up, so it fails to be
    inserted only if its arrival fails. -/
theorem insert_result_of_parse {header url : String} {c : Cookie}
    (hparse : (Cookie.parse header now).result = .ok c) (j : Jar) (clock : Float) :
    (j.insert clock c url).result = (arrival clock c url).map fun _ => () := by
  obtain ⟨name, hname, -⟩ := Cookie.name_of_parse hparse
  rw [insert]
  cases ha : arrival clock c url with
  | error failure => rfl
  | ok a =>
      rcases settled_of_arrival ha with ⟨_, _, rfl⟩ | ⟨p, -, hsettled⟩
      · rfl
      · rw [settled] at hsettled
        split at hsettled
        · rw [← Except.ok.inj hsettled]
          show (j.receive (.removal p.domain p.path c.name)).result = _
          rw [receive, hname]
          rfl
        · cases ht : expiry clock c.maxAge with
          | error failure =>
              rw [ht] at hsettled
              cases hsettled
          | ok t =>
              rw [ht] at hsettled
              rw [← Except.ok.inj hsettled]
              show (j.receive (.storage p.domain p.path p.hostOnly t c)).result = _
              rw [receive, hname]
              rfl

/-- **The headers of a response** have the events of their cookies. -/
theorem setCookies_state (now : Reading) (clock : Float) (url : String) (headers : List String)
    (j : Jar) : (j.setCookies now clock url headers).state
      = (arrivals now clock url headers).foldl carryOut j := by
  induction headers generalizing j with
  | nil => rfl
  | cons header rest ih =>
      rw [setCookies, arrivals]
      cases hparse : (Cookie.parse header now).result with
      | error failure =>
          -- a malformed header has no event, and ends the others if it is no rejection
          rw [insertHeader, hparse]
          dsimp only
          split
          · exact ih j
          · rfl
      | ok c =>
          obtain ⟨hstate, hresult⟩ := insertHeader_state hparse j clock url
          rw [insert_result_of_parse hparse] at hresult
          dsimp only
          rw [hresult]
          cases ha : arrival clock c url with
          | ok a =>
              have hblocks : blocks clock c url = false := by
                rw [blocks, ha]
              rw [hblocks]
              show (setCookies _ now clock url rest).state = _
              rw [ih, hstate]
              rfl
          | error failure =>
              -- the arrival fails in every store, so its event changes nothing
              have hblocks : blocks clock c url = !failure.isRejection := by
                rw [blocks, ha]
              rw [hblocks]
              dsimp only [Except.map]
              by_cases hrejection : failure.isRejection = true
              · rw [if_pos hrejection, hrejection]
                show (setCookies _ now clock url rest).state = _
                rw [ih, hstate]
                rfl
              · rw [if_neg hrejection, Bool.eq_false_iff.mpr hrejection]
                exact hstate

/-- **An operation carries its events out.** -/
theorem perform_state (j : Jar) (clock : Float) (o : Operation) :
    (j.perform clock o).state = (o.events clock).foldl carryOut j := by
  cases o with
  | insert c url => rfl
  | insertHeader now header url =>
      show (j.insertHeader now clock header url).state = _
      rw [Operation.events]
      cases hparse : (Cookie.parse header now).result with
      | error failure =>
          rw [insertHeader, hparse]
          rfl
      | ok c => exact (insertHeader_state hparse j clock url).1
  | setCookies now headers url => exact setCookies_state now clock url headers j
  | remove k => rfl
  | clear => rfl
  | ask q => rfl

/-- **A store is what the events of its history make of it.** -/
theorem run_eq_replay (history : List (Float × Operation)) :
    run history = replay (trace history) := by
  rw [run, replay, trace]
  generalize empty = j
  induction history generalizing j with
  | nil => rfl
  | cons step rest ih =>
      rw [List.foldl_cons, ih, perform_state, List.flatMap_cons, List.foldl_append]

theorem replay_concat (events : List Event) (ev : Event) :
    replay (events ++ [ev]) = (replay events).carryOut ev := List.foldl_concat ..

/-- A history leads to the store. -/
def Reachable (j : Jar) : Prop := ∃ history, run history = j

theorem reachable_empty : empty.Reachable := ⟨[], rfl⟩

/-- An operation on a store to which a history leads makes the history
    longer. -/
theorem Reachable.perform (h : j.Reachable) (clock : Float) (o : Operation) :
    (j.perform clock o).state.Reachable := by
  obtain ⟨history, rfl⟩ := h
  exact ⟨history ++ [(clock, o)], List.foldl_concat ..⟩

end HttpExchange.Jar
