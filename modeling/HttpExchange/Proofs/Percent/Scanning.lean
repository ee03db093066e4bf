import HttpExchange.Failure
import HttpExchange.Proofs.Percent.RoundTrip

/-! # What a text with escapes stands for

    A text is scanned from the left.  A percent sign with two hexadecimal
    digits spells one byte, any other character spells its own bytes, and a
    percent sign without its digits ends the scan.  Undoing the escapes of a
    text follows this scan exactly: it gives the text whose bytes are spelled,
    or it fails and says where the scan ended, or, if the scan did not end
    early, how far the bytes are valid.

    * `Spells` is the grammar of the texts whose scan does not end early, and
      `StopsAt` says where any other scan ends;
    * `spells_or_stops` shows that there is nothing between the two;
    * `unescape_scan` is what undoing the escapes comes to in each case. -/

namespace HttpExchange.Percent

open Text

/-! ## Hexadecimal digits -/

/-- Is the character a hexadecimal digit, of either case? -/
def IsHexDigit (c : Char) : Prop := c ∈ "0123456789abcdefABCDEF".toList

instance : DecidablePred IsHexDigit :=
  fun c => inferInstanceAs (Decidable (c ∈ "0123456789abcdefABCDEF".toList))

/-- The value of a hexadecimal digit: the decimal digits stand in front of the
    capital letters, and these in front of the small ones. -/
def digitValue (c : Char) : Nat :=
  if c.toNat ≤ '9'.toNat then c.toNat - '0'.toNat
  else if c.toNat ≤ 'F'.toNat then c.toNat - 'A'.toNat + 10
  else c.toNat - 'a'.toNat + 10

theorem hexValue?_of_isHexDigit {c : Char} (h : IsHexDigit c) :
    hexValue? c = some (digitValue c) := by
  have hall : "0123456789abcdefABCDEF".toList.all
      (fun d => hexValue? d = some (digitValue d)) = true := by decide
  exact of_decide_eq_true (List.all_eq_true.mp hall c h)

theorem isHexDigit_of_range (first count : Nat) {c : Char}
    (hall : ∀ n < count, IsHexDigit (Char.ofNat (first + n)))
    (h : first ≤ c.toNat ∧ c.toNat < first + count) : IsHexDigit c := by
  have hdigit := hall (c.toNat - first) (by omega)
  rw [Nat.add_sub_cancel' h.1, Char.ofNat_toNat] at hdigit
  exact hdigit

theorem hexValue?_of_not_isHexDigit {c : Char} (h : ¬ IsHexDigit c) : hexValue? c = none := by
  rw [hexValue?, if_neg, if_neg, if_neg]
  · intro hsmall
    exact h (isHexDigit_of_range 97 6 (by decide) (by omega))
  · intro hcapital
    exact h (isHexDigit_of_range 65 6 (by decide) (by omega))
  · intro hdecimal
    exact h (isHexDigit_of_range 48 10 (by decide) (by omega))

/-! ## The scan -/

/-- The text spells the bytes. -/
inductive Spells : List Char → List UInt8 → Prop
  | nil : Spells [] []
  /-- A percent sign with two digits spells one byte. -/
  | pair {high low : Char} {rest : List Char} {bytes : List UInt8} (hhigh : IsHexDigit high)
      (hlow : IsHexDigit low) (hrest : Spells rest bytes) :
      Spells ('%' :: high :: low :: rest)
        (UInt8.ofNat (16 * digitValue high + digitValue low) :: bytes)
  /-- Any other character spells its own bytes. -/
  | plain {c : Char} {rest : List Char} {bytes : List UInt8} (hc : c ≠ '%')
      (hrest : Spells rest bytes) : Spells (c :: rest) (Utf8.encodeChar c ++ bytes)

/-- Does the text start with two hexadecimal digits? -/
def StartsWithDigits (cs : List Char) : Prop :=
  ∃ high low rest, cs = high :: low :: rest ∧ IsHexDigit high ∧ IsHexDigit low

/-- The scan of the text ends at the position, at a percent sign without its
    digits, with at most two characters behind it in the sequence. -/
def StopsAt (cs : List Char) (position : Nat) (sequence : List Char) : Prop :=
  ∃ front bytes after, cs = front ++ '%' :: after ∧ Spells front bytes ∧
    ¬ StartsWithDigits after ∧ position = front.length ∧ sequence = '%' :: after.take 2

theorem Spells.append {front rest : List Char} {bytes others : List UInt8}
    (h : Spells front bytes) (hrest : Spells rest others) :
    Spells (front ++ rest) (bytes ++ others) := by
  induction h with
  | nil => exact hrest
  | pair hhigh hlow _ ih => exact .pair hhigh hlow ih
  | plain hc _ ih =>
      rw [List.append_assoc]
      exact .plain hc ih

theorem StopsAt.behind {front rest sequence : List Char} {bytes : List UInt8} {position : Nat}
    (hfront : Spells front bytes) (h : StopsAt rest position sequence) :
    StopsAt (front ++ rest) (front.length + position) sequence := by
  obtain ⟨between, others, after, rfl, hbetween, hdigits, rfl, rfl⟩ := h
  refine ⟨front ++ between, bytes ++ others, after, ?_, hfront.append hbetween, hdigits, ?_, rfl⟩
  · rw [List.append_assoc]
  · rw [List.length_append]

/-- What spells bytes in front of a text decides nothing about the text. -/
theorem spells_or_stops_behind {front rest : List Char} {bytes : List UInt8}
    (hfront : Spells front bytes)
    (h : (∃ others, Spells rest others) ∨ ∃ position sequence, StopsAt rest position sequence) :
    (∃ others, Spells (front ++ rest) others) ∨
      ∃ position sequence, StopsAt (front ++ rest) position sequence := by
  rcases h with ⟨others, hrest⟩ | ⟨position, sequence, hstops⟩
  · exact .inl ⟨_, hfront.append hrest⟩
  · exact .inr ⟨_, sequence, hstops.behind hfront⟩

/-- **A scan goes through the whole text**, or it stops at some percent sign. -/
theorem spells_or_stops (cs : List Char) :
    (∃ bytes, Spells cs bytes) ∨ ∃ position sequence, StopsAt cs position sequence := by
  -- by the length of the text, since a percent sign takes two characters with it
  induction h : cs.length using Nat.strongRecOn generalizing cs with
  | ind n ih =>
      cases cs with
      | nil => exact .inl ⟨[], .nil⟩
      | cons c rest =>
          rw [List.length_cons] at h
          by_cases hc : c = '%'
          · by_cases hdigits : StartsWithDigits rest
            · obtain ⟨high, low, tail, rfl, hhigh, hlow⟩ := hdigits
              rw [List.length_cons, List.length_cons] at h
              rw [hc]
              exact spells_or_stops_behind (.pair hhigh hlow .nil)
                (ih tail.length (by omega) tail rfl)
            · exact .inr ⟨0, _, [], [], rest, by rw [hc]; rfl, .nil, hdigits, rfl, rfl⟩
          · exact spells_or_stops_behind (.plain hc .nil) (ih rest.length (by omega) rest rfl)

/-! ## The reader follows the scan -/

/-- What spells bytes is read as them, and reading goes on behind it. -/
theorem bytesFrom_append {front : List Char} {bytes : List UInt8} (h : Spells front bytes)
    (pos : Nat) (rest : List Char) :
    bytesFrom pos (front ++ rest) = (bytes ++ ·) <$> bytesFrom (pos + front.length) rest := by
  induction h generalizing pos with
  | nil => exact (id_map (bytesFrom pos rest)).symm
  | @pair high low front bytes hhigh hlow _ ih =>
      show bytesFrom pos ('%' :: high :: low :: (front ++ rest)) = _
      rw [bytesFrom_pair (hexValue?_of_isHexDigit hhigh) (hexValue?_of_isHexDigit hlow), ih,
        List.length_cons, List.length_cons, List.length_cons,
        show pos + 3 + front.length = pos + (front.length + 1 + 1 + 1) by omega]
      cases bytesFrom (pos + (front.length + 1 + 1 + 1)) rest <;> rfl
  | @plain c front bytes hc _ ih =>
      show bytesFrom pos (c :: (front ++ rest)) = _
      rw [bytesFrom_cons hc, ih, List.length_cons,
        show pos + 1 + front.length = pos + (front.length + 1) by omega]
      cases bytesFrom (pos + (front.length + 1)) rest with
      | error fault => rfl
      | ok others => exact congrArg Except.ok (List.append_assoc ..).symm

/-- The bytes that a text spells are read from it. -/
theorem bytesFrom_of_spells {cs : List Char} {bytes : List UInt8} (h : Spells cs bytes) :
    bytesFrom 0 cs = .ok bytes := by
  have hread := bytesFrom_append h 0 []
  rw [List.append_nil, bytesFrom] at hread
  rw [hread]
  exact congrArg Except.ok (List.append_nil bytes)

/-- A percent sign without its digits is reported where it stands. -/
theorem bytesFrom_percent {after : List Char} (h : ¬ StartsWithDigits after) (pos : Nat) :
    bytesFrom pos ('%' :: after) = .error (.malformed pos ('%' :: after.take 2)) := by
  rw [bytesFrom.eq_def]
  dsimp only
  rw [if_pos rfl]
  rcases after with _ | ⟨high, _ | ⟨low, rest⟩⟩
  · rfl
  · rfl
  · dsimp only
    by_cases hhigh : IsHexDigit high
    · by_cases hlow : IsHexDigit low
      · exact absurd ⟨high, low, rest, rfl, hhigh, hlow⟩ h
      · rw [hexValue?_of_isHexDigit hhigh, hexValue?_of_not_isHexDigit hlow]
        rfl
    · rw [hexValue?_of_not_isHexDigit hhigh]
      rfl

/-- **A scan that stops** is reported with the position and the sequence. -/
theorem bytesFrom_of_stopsAt {cs sequence : List Char} {position : Nat}
    (h : StopsAt cs position sequence) :
    bytesFrom 0 cs = .error (.malformed position sequence) := by
  obtain ⟨front, bytes, after, rfl, hfront, hdigits, rfl, rfl⟩ := h
  rw [bytesFrom_append hfront, bytesFrom_percent hdigits, Nat.zero_add]
  rfl

/-! ## Undoing the escapes -/

theorem unescape_eq (t : String) :
    unescape t = String.ofList <$> (bytesFrom 0 t.toList).bind fun bytes =>
      (Utf8.decode bytes).mapError .notUtf8 := by
  rw [unescape, unescapeChars_eq]

/-- The text whose bytes are spelled is the result. -/
theorem unescape_of_spells {t s : String} (h : Spells t.toList (Utf8.encode s.toList)) :
    unescape t = .ok s := by
  rw [unescape_eq, bytesFrom_of_spells h]
  show String.ofList <$> (Utf8.decode (Utf8.encode s.toList)).mapError Fault.notUtf8 = _
  rw [Utf8.decode_encode]
  show Except.ok (String.ofList s.toList) = _
  rw [String.ofList_toList]

theorem unescape_of_stopsAt {t : String} {position : Nat} {sequence : List Char}
    (h : StopsAt t.toList position sequence) :
    unescape t = .error (.malformed position sequence) := by
  rw [unescape_eq, bytesFrom_of_stopsAt h]
  rfl

/-- Bytes that are not valid are reported with the length of what is. -/
theorem unescape_of_not_valid {t : String} {bytes : List UInt8} (h : Spells t.toList bytes)
    (hvalid : ¬ Utf8.Valid bytes) :
    ∃ fault, unescape t = .error (.notUtf8 fault) ∧ Utf8.IsLongestValid bytes fault.start := by
  obtain ⟨fault, hfault⟩ := Utf8.exists_fault_of_not_valid hvalid
  refine ⟨fault, ?_, Utf8.isLongestValid_of_decode hfault⟩
  rw [unescape_eq, bytesFrom_of_spells h]
  show String.ofList <$> (Utf8.decode bytes).mapError Fault.notUtf8 = _
  rw [hfault]
  rfl

/-- Every result is a text whose bytes are spelled. -/
theorem spells_of_unescape {t s : String} (h : unescape t = .ok s) :
    Spells t.toList (Utf8.encode s.toList) := by
  rcases spells_or_stops t.toList with ⟨bytes, hbytes⟩ | ⟨position, sequence, hstops⟩
  · by_cases hvalid : Utf8.Valid bytes
    · obtain ⟨cs, rfl⟩ := hvalid
      have hread : unescape t = .ok (String.ofList cs) := by
        refine unescape_of_spells ?_
        rw [String.toList_ofList]
        exact hbytes
      rw [Except.ok.inj (h.symm.trans hread), String.toList_ofList]
      exact hbytes
    · obtain ⟨fault, hfault, -⟩ := unescape_of_not_valid hbytes hvalid
      exact nomatch h.symm.trans hfault
  · exact nomatch h.symm.trans (unescape_of_stopsAt hstops)

/-- **What undoing the escapes of a text comes to**: a text is the result if
    and only if its bytes are spelled.  Otherwise the scan stops, which is
    reported whatever is spelled before, or it does not and the bytes are not
    valid, which is reported with the length of their longest valid part. -/
theorem unescape_scan (t : String) :
    (∀ s, unescape t = .ok s ↔ ∃ bytes, Spells t.toList bytes ∧ Utf8.encode s.toList = bytes) ∧
      ((∃ bytes, Spells t.toList bytes) ∨
        ∃ position sequence, StopsAt t.toList position sequence) ∧
      (∀ position sequence, StopsAt t.toList position sequence →
        ∃ fault, unescape t = .error fault ∧ (Failure.escape fault).kind = .escape ∧
          (Failure.escape fault).details
            = [("position", .int position), ("sequence", .str (String.ofList sequence))]) ∧
      ∀ bytes, Spells t.toList bytes → ¬ Utf8.Valid bytes →
        ∃ fault n, unescape t = .error fault ∧ (Failure.escape fault).kind = .escape ∧
          (Failure.escape fault).details = [("byte_offset", .int (n : Nat))] ∧
          Utf8.IsLongestValid bytes n := by
  refine ⟨?_, spells_or_stops t.toList, ?_, ?_⟩
  · intro s
    constructor
    · intro h
      exact ⟨_, spells_of_unescape h, rfl⟩
    · rintro ⟨bytes, hbytes, rfl⟩
      exact unescape_of_spells hbytes
  · intro position sequence h
    exact ⟨_, unescape_of_stopsAt h, rfl, rfl⟩
  · intro bytes h hvalid
    obtain ⟨fault, hfault, hlongest⟩ := unescape_of_not_valid h hvalid
    exact ⟨_, fault.start, hfault, rfl, rfl, hlongest⟩

/-- Digits of both cases, signs that overlap, and a first byte without the
    second one. -/
example : unescape "%c3%A4b" = .ok "äb" ∧
    unescape "a%%41" = .error (.malformed 1 ['%', '%', '4']) ∧
    unescape "ab%C3b" = .error (.notUtf8 ⟨.invalidContinuation, 2, 1⟩) :=
  ⟨by cbv, by cbv, by cbv⟩

end HttpExchange.Percent
