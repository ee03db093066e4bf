import HttpExchange.Settings.Load

/-! # How sections are refused

    A section that is not accepted is refused with the faults of its settings,
    with one exception: a timeout that denotes a duration below the least one
    ends the load before any fault is reported. -/

namespace HttpExchange.Settings

variable {s : Section} {failure : Failure}

/-- The duration that the value of a timeout denotes. -/
def timeoutDuration? : Value → Option Duration.Signed
  | .str s => Duration.read ((Utf8.encodeString s).map Charset.sameNumber)
  | .sameSite s => Duration.read ((Utf8.encodeString s.word).map Charset.sameNumber)
  | .bytes bs => Duration.read (bs.map Charset.sameNumber)
  | .bool b => Duration.ofSeconds (Value.ofBool b)
  | .int n => if isWord n then Duration.ofSeconds n else (Binary64.ofInt? n).bind Duration.ofFloat
  | .float x => Duration.ofFloat x
  | _ => none

/-- Taken as negative, the parts make a duration below the least one. -/
def Duration.Parts.BelowLeast (p : Duration.Parts) : Prop := -(p.total : Int) < Duration.least

/-- The timeout of a section denotes a duration below the least one. -/
def TimeoutBelowLeast (s : Section) : Prop :=
  ∃ v p, s.lookup "timeout" = some v ∧ timeoutDuration? v = some (true, p) ∧ p.BelowLeast

theorem total?_eq_none_iff (negative : Bool) (p : Duration.Parts) :
    Duration.total? (negative, p) = none ↔ negative = true ∧ p.BelowLeast := by
  rw [Duration.Parts.BelowLeast]
  cases negative with
  | true => simp [Duration.total?]
  | false =>
      have hpos : ¬ (p.total : Int) < Duration.least := by
        have hleast : Duration.least < 0 := by decide
        omega
      simp [Duration.total?, hpos]

theorem durationOr_eq_fatal_iff {place : List Step} {d : Option Duration.Signed} :
    durationOr place d = .fatal failure ↔
      failure = .overflow ∧ ∃ p, d = some (true, p) ∧ p.BelowLeast := by
  cases d with
  | none => simp [durationOr]
  | some d =>
      obtain ⟨negative, p⟩ := d
      have htotal : durationOr place (some (negative, p)) = .fatal failure ↔
          failure = .overflow ∧ Duration.total? (negative, p) = none := by
        simp only [durationOr]
        cases Duration.total? (negative, p) <;> simp [eq_comm]
      rw [htotal, total?_eq_none_iff]
      constructor
      · rintro ⟨rfl, rfl, hleast⟩
        exact ⟨rfl, p, rfl, hleast⟩
      · rintro ⟨rfl, _, hd, hleast⟩
        cases hd
        exact ⟨rfl, rfl, hleast⟩

/-- **A timeout ends the load** if and only if it denotes a duration below the
    least one. -/
theorem timeoutOf_eq_fatal_iff {place : List Step} {v : Value} :
    timeoutOf place v = .fatal failure ↔
      failure = .overflow ∧ ∃ p, timeoutDuration? v = some (true, p) ∧ p.BelowLeast := by
  cases v with
  | str s => exact durationOr_eq_fatal_iff
  | sameSite s => exact durationOr_eq_fatal_iff
  | bytes bs => exact durationOr_eq_fatal_iff
  | bool b => exact durationOr_eq_fatal_iff
  | float x => exact durationOr_eq_fatal_iff
  | int n =>
      simp only [timeoutOf, timeoutDuration?]
      split
      · exact durationOr_eq_fatal_iff
      · cases Binary64.ofInt? n with
        | none => simp
        | some x => exact durationOr_eq_fatal_iff
  | _ => simp [timeoutOf, timeoutDuration?]

theorem field_timeout_eq_fatal_iff :
    field s "timeout" timeoutOf = .fatal failure ↔ failure = .overflow ∧ TimeoutBelowLeast s := by
  rw [field, TimeoutBelowLeast]
  cases s.lookup "timeout" with
  | none => simp
  | some v =>
      have hfatal : timeoutOf [.key "timeout"] v = .fatal failure ↔ _ := timeoutOf_eq_fatal_iff
      cases hv : timeoutOf [.key "timeout"] v <;> simp_all

/-- **How a section is refused**: with the faults of its settings, unless its
    timeout is below the least duration. -/
theorem load_eq_error (h : load s = .error failure) :
    (TimeoutBelowLeast s ∧ failure = .overflow) ∨
      (¬ TimeoutBelowLeast s ∧ ∃ faults, failure = .settings faults) := by
  simp only [load] at h
  split at h
  · next fatal htimeout =>
    obtain ⟨hoverflow, hleast⟩ := field_timeout_eq_fatal_iff.mp htimeout
    rw [← Except.error.inj h]
    exact Or.inl ⟨hleast, hoverflow⟩
  · exact nomatch h
  · next hnotFatal _ =>
    refine Or.inr ⟨?_, _, (Except.error.inj h).symm⟩
    intro hleast
    exact hnotFatal .overflow (field_timeout_eq_fatal_iff.mpr ⟨rfl, hleast⟩)

end HttpExchange.Settings
