import HttpExchange.Json.Reader
import HttpExchange.Proofs.Value.Mapping

/-! # The keys of read documents

    Whatever document is read, every mapping in it has each key once: a
    repeated key keeps its first place and takes its last value. -/

namespace HttpExchange.Json

open Value

variable {dialect : Dialect} {calls depth : Nat} {cs rest : List Char} {v : Value}

theorem wellKeyed_integerValue? {negative : Bool} {digits : List Char}
    (h : integerValue? dialect negative digits = some v) : v.WellKeyed := by
  unfold integerValue? at h
  extract_lets n m at h
  split at h
  · exact Option.some.inj h ▸ trivial
  · obtain ⟨x, -, rfl⟩ := Option.map_eq_some_iff.mp h
    trivial

theorem wellKeyed_readNumber (h : readNumber dialect cs = some (v, rest)) : v.WellKeyed := by
  unfold readNumber at h
  split at h
  -- the sign, and then the digits
  split at h
  split at h
  · exact nomatch h
  · split at h
    · exact nomatch h
    · split at h
      · exact nomatch h
      · split at h
        · obtain ⟨n, hn, hpair⟩ := Option.map_eq_some_iff.mp h
          rw [← (Prod.mk.inj hpair).1]
          exact wellKeyed_integerValue? hn
        · obtain ⟨x, -, hpair⟩ := Option.map_eq_some_iff.mp h
          rw [← (Prod.mk.inj hpair).1]
          trivial

/-- One more call for a value: a list and a mapping are well keyed if what the
    other calls read is. -/
theorem wellKeyed_readValue_succ
    (hitems : ∀ {depth cs vs rest}, readItems dialect calls depth cs = some (vs, rest) →
      AllWellKeyed vs)
    (hentries : ∀ {depth cs entries rest}, readEntries dialect calls depth cs
      = some (entries, rest) → EntriesWellKeyed entries)
    (h : readValue dialect (calls + 1) depth cs = some (v, rest)) : v.WellKeyed := by
  rw [readValue] at h
  split at h
  · obtain ⟨text, -, hpair⟩ := Option.map_eq_some_iff.mp h
    rw [← (Prod.mk.inj hpair).1]
    trivial
  · split at h
    · exact nomatch h
    · split at h
      · rw [← (Prod.mk.inj (Option.some.inj h)).1]
        trivial
      · obtain ⟨⟨items, after⟩, hread, hpair⟩ := Option.map_eq_some_iff.mp h
        rw [← (Prod.mk.inj hpair).1]
        exact hitems hread
  · split at h
    · exact nomatch h
    · split at h
      · rw [← (Prod.mk.inj (Option.some.inj h)).1]
        exact ⟨List.nodup_nil, trivial⟩
      · obtain ⟨⟨entries, after⟩, hread, hpair⟩ := Option.map_eq_some_iff.mp h
        rw [← (Prod.mk.inj hpair).1]
        exact WellKeyed.ofPairs (hentries hread)
  · exact (Prod.mk.inj (Option.some.inj h)).1 ▸ trivial
  · exact (Prod.mk.inj (Option.some.inj h)).1 ▸ trivial
  · exact (Prod.mk.inj (Option.some.inj h)).1 ▸ trivial
  · exact wellKeyed_readNumber h

/-- What so many calls read is well keyed. -/
theorem wellKeyed_calls (dialect : Dialect) (calls : Nat) :
    (∀ {depth cs v rest}, readValue dialect calls depth cs = some (v, rest) → v.WellKeyed) ∧
    (∀ {depth cs vs rest}, readItems dialect calls depth cs = some (vs, rest) →
      AllWellKeyed vs) ∧
    (∀ {depth cs entries rest}, readEntries dialect calls depth cs = some (entries, rest) →
      EntriesWellKeyed entries) := by
  induction calls with
  | zero =>
      refine ⟨?_, ?_, ?_⟩
      · intro depth cs v rest h
        rw [readValue] at h
        exact nomatch h
      · intro depth cs vs rest h
        rw [readItems] at h
        exact nomatch h
      · intro depth cs entries rest h
        rw [readEntries] at h
        exact nomatch h
  | succ calls ih =>
      obtain ⟨hvalue, hitems, hentries⟩ := ih
      refine ⟨wellKeyed_readValue_succ hitems hentries, ?_, ?_⟩
      · intro depth cs vs rest h
        rw [readItems] at h
        split at h
        · exact nomatch h
        · next v after hread =>
          split at h
          · obtain ⟨⟨items, last⟩, hitem, hpair⟩ := Option.map_eq_some_iff.mp h
            rw [← (Prod.mk.inj hpair).1]
            exact ⟨hvalue hread, hitems hitem⟩
          · rw [← (Prod.mk.inj (Option.some.inj h)).1]
            exact ⟨hvalue hread, trivial⟩
          · exact nomatch h
      · intro depth cs entries rest h
        rw [readEntries] at h
        split at h
        · split at h
          · exact nomatch h
          · split at h
            · split at h
              · exact nomatch h
              · next v after hread =>
                split at h
                · obtain ⟨⟨more, last⟩, hmore, hpair⟩ := Option.map_eq_some_iff.mp h
                  rw [← (Prod.mk.inj hpair).1]
                  exact ⟨hvalue hread, hentries hmore⟩
                · rw [← (Prod.mk.inj (Option.some.inj h)).1]
                  exact ⟨hvalue hread, trivial⟩
                · exact nomatch h
            · exact nomatch h
        · exact nomatch h

/-- **A document that is read is well keyed.** -/
theorem wellKeyed_read (h : read dialect cs = some v) : v.WellKeyed := by
  rw [read] at h
  split at h
  · next w rest hread =>
    split at h
    · exact Option.some.inj h ▸ (wellKeyed_calls dialect _).1 hread
    · exact nomatch h
  · exact nomatch h

theorem wellKeyed_readBytes {bytes : List UInt8} (h : readBytes dialect bytes = some v) :
    v.WellKeyed := by
  rw [readBytes] at h
  split at h
  · exact wellKeyed_read h
  · exact nomatch h

end HttpExchange.Json
