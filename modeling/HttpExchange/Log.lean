import HttpExchange.Failure

/-! # The log

    Operations report what they do in records, in order.  An outcome is the
    result of an operation with the records that it left, whether or not it
    failed. -/

namespace HttpExchange

namespace Log

/-- How important a record is. -/
inductive Level where
  | debug
  | warning
  deriving DecidableEq, Repr

/-- The part of the library that a record comes from. -/
inductive Channel where
  | cookie
  | connection
  | module
  deriving DecidableEq, Repr

/-- The written form of a level. -/
def Level.name : Level → String
  | .debug => "DEBUG"
  | .warning => "WARNING"

/-- The name of a channel. -/
def Channel.name : Channel → String
  | .cookie => "pyhttpmod.cookie"
  | .connection => "pyhttpmod.connection"
  | .module => "pyhttpmod.module"

/-- One record. -/
structure Record where
  level : Level
  channel : Channel
  text : String
  deriving DecidableEq, Repr

end Log

/-- A log is a list of records in order. -/
abbrev Log := List Log.Record

/-- What an operation leaves: records and a result. -/
structure Outcome (α : Type) where
  log : Log
  result : Except Failure α

namespace Outcome

variable {α β : Type}

/-- Put records before those of an outcome. -/
def after (log : Log) (o : Outcome α) : Outcome α := ⟨log ++ o.log, o.result⟩

/-- Apply a function to the result. -/
def map (f : α → β) (o : Outcome α) : Outcome β := ⟨o.log, o.result.map f⟩

end Outcome

/-- What an operation on a state leaves: the state, records and a result. -/
structure Transition (σ α : Type) where
  state : σ
  log : Log
  result : Except Failure α

namespace Transition

variable {σ α β : Type}

/-- An operation that fails without a change. -/
def fail (state : σ) (failure : Failure) : Transition σ α := ⟨state, [], .error failure⟩

/-- An operation that gives a result without records. -/
def done (state : σ) (a : α) : Transition σ α := ⟨state, [], .ok a⟩

/-- Put records before those of an operation. -/
def after (log : Log) (t : Transition σ α) : Transition σ α := ⟨t.state, log ++ t.log, t.result⟩

@[simp] theorem after_state (log : Log) (t : Transition σ α) : (t.after log).state = t.state := rfl

@[simp] theorem after_result (log : Log) (t : Transition σ α) :
    (t.after log).result = t.result := rfl

/-- Go on from the state and the result of an operation, unless it failed. -/
def andThen (t : Transition σ α) (f : σ → α → Transition σ β) : Transition σ β :=
  match t.result with
  | .ok a => (f t.state a).after t.log
  | .error failure => ⟨t.state, t.log, .error failure⟩

end Transition

end HttpExchange
