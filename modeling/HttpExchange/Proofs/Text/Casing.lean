import HttpExchange.Proofs.Utf8.Decoding
import HttpExchange.Text.Case

/-! # Text that is in lower case

    No character that lower case produces is one that it replaces.  So text
    that is in lower case, and every part of it, stays as it is.

    The characters are checked against each other as bits of two numbers, which
    is much quicker than to look every one of them up in the table. -/

namespace HttpExchange.Text

/-! ## Characters -/

/-- The code points of a run. -/
def runPoints (first last step : Nat) : List Nat :=
  (List.range ((last - first) / step + 1)).map fun k => first + step * k

/-- The code points that lower case replaces: the capital letters of ASCII, the
    dotted capital I, and those of the table. -/
def upperPoints : List Nat :=
  List.range' 65 26 ++ 304 ::
    lowerRuns.flatMap fun (first, last, step, _) => runPoints first last step

/-- The code points that lower case produces: a null character for a number that
    is no code point, the parts of the dotted I, the two sigmas, the small
    letters of ASCII, and those of the table. -/
def lowerPoints : List Nat :=
  [0, 105, 775, 962, 963] ++ List.range' 97 26 ++
    lowerRuns.flatMap fun (first, last, step, shift) =>
      (runPoints first last step).map fun (n : Nat) => ((n : Int) + shift).toNat

/-- A set of numbers as the bits of one number. -/
def bits (ns : List Nat) : Nat := ns.foldr (fun n acc => acc ||| 1 <<< n) 0

theorem testBit_bits (ns : List Nat) (m : Nat) : (bits ns).testBit m = decide (m ∈ ns) := by
  induction ns with
  | nil => simp [bits]
  | cons n ns ih =>
      have hbit : (1 <<< n).testBit m = true ↔ m = n := by
        rw [Nat.one_shiftLeft, Nat.testBit_two_pow, decide_eq_true_iff, eq_comm]
      rw [bits, List.foldr_cons, ← bits, Nat.testBit_or, ih, Bool.eq_iff_iff, Bool.or_eq_true,
        decide_eq_true_iff, hbit, decide_eq_true_iff, List.mem_cons, or_comm]

/-- Two sets with no bit in common are disjoint. -/
theorem not_mem_of_bits_and {ms ns : List Nat} {n : Nat} (h : bits ms &&& bits ns = 0)
    (hn : n ∈ ms) : n ∉ ns := by
  have hbit := congrArg (Nat.testBit · n) h
  simpa [testBit_bits, hn] using hbit

/-- **No code point is both.** -/
theorem not_mem_upperPoints {n : Nat} (h : n ∈ lowerPoints) : n ∉ upperPoints := by
  have hbits : bits lowerPoints &&& bits upperPoints = 0 := by decide +kernel
  exact not_mem_of_bits_and hbits h

theorem mem_runPoints_iff {first last step n : Nat} (h : first ≤ last) :
    n ∈ runPoints first last step ↔ first ≤ n ∧ n ≤ last ∧ (n - first) % step = 0 := by
  rw [runPoints, List.mem_map]
  constructor
  · rintro ⟨k, hk, rfl⟩
    have hbound : step * k ≤ last - first := calc
      step * k ≤ step * ((last - first) / step) :=
        Nat.mul_le_mul_left step (Nat.lt_succ_iff.mp (List.mem_range.mp hk))
      _ ≤ last - first := Nat.mul_div_le _ _
    refine ⟨Nat.le_add_right _ _, by omega, ?_⟩
    rw [Nat.add_sub_cancel_left, Nat.mul_mod_right]
  · rintro ⟨hfirst, hlast, hstep⟩
    refine ⟨(n - first) / step, ?_, ?_⟩
    · rw [List.mem_range, Nat.lt_succ_iff]
      exact Nat.div_le_div_right (Nat.sub_le_sub_right hlast first)
    · have hdiv := Nat.div_add_mod (n - first) step
      omega

/-- The runs of the table go upwards, and lie outside ASCII. -/
theorem lowerRuns_bounds {run : Nat × Nat × Nat × Int} (h : run ∈ lowerRuns) :
    0x80 ≤ run.1 ∧ run.1 ≤ run.2.1 := by
  revert run
  decide +kernel

/-- Is the code point in the run? -/
def inLowerRun (n : Nat) : Nat × Nat × Nat × Int → Bool
  | (first, last, step, _) => first ≤ n && n ≤ last && (n - first) % step == 0

theorem inLowerRun_iff {run : Nat × Nat × Nat × Int} (h : run ∈ lowerRuns) (n : Nat) :
    inLowerRun n run = true ↔ n ∈ runPoints run.1 run.2.1 run.2.2.1 := by
  rw [mem_runPoints_iff (lowerRuns_bounds h).2, inLowerRun, Bool.and_eq_true, Bool.and_eq_true,
    decide_eq_true_iff, decide_eq_true_iff, beq_iff_eq, and_assoc]

theorem mem_upperPoints_iff (n : Nat) :
    n ∈ upperPoints ↔
      (65 ≤ n ∧ n ≤ 90) ∨ n = 304 ∨ ∃ run ∈ lowerRuns, inLowerRun n run = true := by
  rw [upperPoints, List.mem_append, List.mem_range'_1, List.mem_cons, List.mem_flatMap]
  have hruns : (∃ run ∈ lowerRuns, n ∈ runPoints run.1 run.2.1 run.2.2.1) ↔
      ∃ run ∈ lowerRuns, inLowerRun n run = true :=
    exists_congr fun run => and_congr_right fun hrun => (inLowerRun_iff hrun n).symm
  exact or_congr (and_congr_right' Nat.lt_succ_iff) (or_congr Iff.rfl hruns)

/-- The simple mapping replaces a capital letter of ASCII, or moves a character
    along its run of the table, or keeps the character. -/
theorem lowerChar_eq (c : Char) :
    lowerChar c =
      if c.toNat < 0x80 then (if 65 ≤ c.toNat ∧ c.toNat ≤ 90 then Char.ofNat (c.toNat + 32) else c)
      else match lowerRuns.find? (inLowerRun c.toNat) with
        | some run => Char.ofNat ((c.toNat : Int) + run.2.2.2).toNat
        | none => c := by
  have htest : inLowerRun c.toNat = fun (first, last, step, _) =>
      first ≤ c.toNat && c.toNat ≤ last && (c.toNat - first) % step == 0 := rfl
  rw [lowerChar, htest]
  congr 1
  cases lowerRuns.find? _ with
  | none => rfl
  | some run => rfl

/-- A character that lower case does not replace stays. -/
theorem lowerChar_of_not_upper {c : Char} (h : c.toNat ∉ upperPoints) : lowerChar c = c := by
  rw [mem_upperPoints_iff] at h
  rw [lowerChar_eq]
  split
  · rw [if_neg fun hcapital => h (.inl hcapital)]
  · split
    · next run hrun =>
      exact absurd (.inr (.inr ⟨run, List.mem_of_find?_eq_some hrun, List.find?_some hrun⟩)) h
    · rfl

theorem toNat_ofNat_eq_or (n : Nat) : (Char.ofNat n).toNat = n ∨ (Char.ofNat n).toNat = 0 := by
  by_cases h : n.isValidChar
  · exact .inl (Utf8.toNat_ofNat h)
  · rw [Char.ofNat, dif_neg h]
    exact .inr rfl

/-- The character of a code point that lower case produces is none that it
    replaces. -/
theorem not_upper_ofNat {n : Nat} (h : n ∈ lowerPoints) : (Char.ofNat n).toNat ∉ upperPoints := by
  apply not_mem_upperPoints
  rcases toNat_ofNat_eq_or n with hn | hn
  · rw [hn]
    exact h
  · rw [hn]
    exact List.mem_cons_self

/-- **The simple mapping** never gives a character that lower case replaces,
    but for the dotted capital I, which it does not map. -/
theorem not_upper_lowerChar {c : Char} (hc : c ≠ 'İ') : (lowerChar c).toNat ∉ upperPoints := by
  have hdotted : c.toNat ≠ 304 := fun h => hc (Char.toNat_inj.mp h)
  rw [lowerChar_eq]
  split
  · next hascii =>
    split
    · next hcapital =>
      apply not_upper_ofNat
      refine List.mem_append_left _ (List.mem_append_right _ (List.mem_range'_1.mpr ?_))
      omega
    · next hcapital =>
      -- the table has nothing to say about ASCII
      rw [mem_upperPoints_iff]
      rintro (h | h | ⟨run, hrun, hin⟩)
      · exact hcapital h
      · exact hdotted h
      · have hfirst := (lowerRuns_bounds hrun).1
        have hle := ((mem_runPoints_iff (lowerRuns_bounds hrun).2).mp
          ((inLowerRun_iff hrun _).mp hin)).1
        omega
  · next hascii =>
    split
    · next run hfound =>
      have hrun := List.mem_of_find?_eq_some hfound
      have hin := (inLowerRun_iff hrun _).mp (List.find?_some hfound)
      apply not_upper_ofNat
      exact List.mem_append_right _ (List.mem_flatMap.mpr ⟨run, hrun, List.mem_map_of_mem hin⟩)
    · next hfound =>
      rw [mem_upperPoints_iff]
      rintro (h | h | ⟨run, hrun, hin⟩)
      · omega
      · exact hdotted h
      · exact List.find?_eq_none.mp hfound run hrun hin

/-! ## Texts -/

/-- Lower case replaces no character of the text. -/
def IsLower (cs : List Char) : Prop := ∀ c ∈ cs, c.toNat ∉ upperPoints

theorem isLower_lowerAfter (cased : Bool) (cs : List Char) : IsLower (lowerAfter cased cs) := by
  induction cs generalizing cased with
  | nil => exact fun c hc => absurd hc List.not_mem_nil
  | cons c cs ih =>
      have hsmall {d : Char} (h : d.toNat ∈ lowerPoints) := not_mem_upperPoints h
      rw [lowerAfter]
      split
      · split
        · exact List.forall_mem_cons.mpr ⟨hsmall (by decide), ih _⟩
        · exact List.forall_mem_cons.mpr ⟨hsmall (by decide), ih _⟩
      · split
        · exact List.forall_mem_cons.mpr ⟨hsmall (by decide),
            List.forall_mem_cons.mpr ⟨hsmall (by decide), ih _⟩⟩
        · next hdotted =>
          exact List.forall_mem_cons.mpr ⟨not_upper_lowerChar hdotted, ih _⟩

/-- **Lower case** replaces nothing that it produced. -/
theorem isLower_lower (cs : List Char) : IsLower (lower cs) := isLower_lowerAfter false cs

/-- **A text in lower case** stays as it is. -/
theorem lowerAfter_of_isLower {cs : List Char} (h : IsLower cs) (cased : Bool) :
    lowerAfter cased cs = cs := by
  induction cs generalizing cased with
  | nil => rfl
  | cons c cs ih =>
      obtain ⟨hc, hcs⟩ := List.forall_mem_cons.mp h
      have hsigma : c ≠ 'Σ' := by
        rintro rfl
        exact hc (by decide)
      have hdotted : c ≠ 'İ' := by
        rintro rfl
        exact hc (by decide)
      rw [lowerAfter, if_neg hsigma, if_neg hdotted, ih hcs, lowerChar_of_not_upper hc]

theorem lower_of_isLower {cs : List Char} (h : IsLower cs) : lower cs = cs :=
  lowerAfter_of_isLower h false

end HttpExchange.Text
