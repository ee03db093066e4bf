import HttpExchange.Proofs.Jar.Step
import Mathlib.Data.List.Induction

/-! # The store as a replay of its history

    What a store holds under a key is what the last event that touches the key
    left there.  The entries stand in the order in which their keys came to be
    held: an entry that replaces another one takes its place, and one that is
    stored after a removal goes to the end. -/

namespace HttpExchange.Jar

variable {j : Jar} {clock : Float} {events : List Event} {ev : Event} {k : Key} {e : Entry}

/-! ## Looking entries up -/

/-- The keys of a store in order. -/
def keys (j : Jar) : List Key := j.entries.map Entry.key

/-- Putting an entry in changes what is found under its key and nothing
    else. -/
theorem find?_put (e : Entry) (entries : List Entry) (k : Key) :
    find? ⟨put e entries⟩ k = if e.key = k then some e else find? ⟨entries⟩ k := by
  induction entries with
  | nil =>
      rw [put, find?, List.find?_cons, find?, List.find?_nil]
      by_cases h : e.key = k
      · simp only [h, decide_true, if_true]
      · simp only [h, decide_false, if_false]
  | cons d rest ih =>
      rw [put]
      by_cases hd : d.key = e.key
      · rw [if_pos hd]
        by_cases h : e.key = k
        · simp only [find?, List.find?_cons, h, decide_true, if_true]
        · simp only [find?, List.find?_cons, hd, h, decide_false, if_false]
      · rw [if_neg hd]
        by_cases h : d.key = k
        · have hne : e.key ≠ k := fun he => hd (h.trans he.symm)
          simp only [find?, List.find?_cons, h, decide_true, if_neg hne]
        · simp only [find?, List.find?_cons, h, decide_false]
          exact ih

theorem mem_put (e : Entry) (entries : List Entry) : e ∈ put e entries := by
  have hfound := find?_put e entries e.key
  rw [if_pos rfl] at hfound
  exact List.mem_of_find?_eq_some hfound

/-- Nothing is found under a key that is gone, and the same as before under
    any other. -/
theorem find?_without (j : Jar) (gone : Key → Bool) (k : Key) :
    (j.without gone).find? k = if gone k then none else j.find? k := by
  rw [find?, without, List.find?_filter, find?]
  by_cases h : gone k = true
  · rw [if_pos h, List.find?_eq_none]
    intro e _ hfound
    rw [decide_eq_true_iff, decide_eq_true_iff] at hfound
    rw [hfound.2, h] at hfound
    exact nomatch hfound.1
  · rw [if_neg h]
    congr 1
    funext e
    by_cases he : e.key = k
    · rw [he, Bool.eq_false_iff.mpr h, decide_eq_true rfl]
      rfl
    · rw [decide_eq_false he]
      exact decide_eq_false (fun hfound => nomatch hfound.2)

theorem mem_keys_iff (j : Jar) (k : Key) : k ∈ j.keys ↔ ∃ e, j.find? k = some e := by
  rw [← Option.isSome_iff_exists, find?, List.find?_isSome, keys, List.mem_map]
  simp only [decide_eq_true_eq]

/-- If no key is held twice, every entry is found under its key. -/
theorem find?_key (hnodup : j.keys.Nodup) (he : e ∈ j.entries) : j.find? e.key = some e := by
  obtain ⟨entries⟩ := j
  induction entries with
  | nil => exact absurd he List.not_mem_nil
  | cons d rest ih =>
      obtain ⟨hnotin, hrest⟩ := List.nodup_cons.mp hnodup
      rw [find?, List.find?_cons]
      rcases List.mem_cons.mp he with rfl | hmem
      · rw [decide_eq_true rfl]
      · have hne : d.key ≠ e.key := by
          intro h
          exact hnotin (h ▸ List.mem_map_of_mem hmem)
        rw [decide_eq_false hne]
        exact ih hrest hmem

/-! ## Finding entries after an event -/

/-- An event that stores an entry touches its key alone. -/
theorem touches_of_stores (hstores : ∀ d, ev.Stores d ↔ d = e) (hdrops : ∀ k, ¬ ev.Drops k) :
    ev.Touches k ↔ e.key = k := by
  constructor
  · rintro (h | ⟨d, hd, hkey⟩)
    · exact absurd h (hdrops k)
    · rw [(hstores d).mp hd] at hkey
      exact hkey
  · intro h
    exact Or.inr ⟨e, (hstores e).mpr rfl, h⟩

theorem touches_of_drops {gone : Key → Bool} (hstores : ∀ e, ¬ ev.Stores e)
    (hdrops : ∀ k, gone k = true ↔ ev.Drops k) : ev.Touches k ↔ gone k = true := by
  constructor
  · rintro (h | ⟨d, hd, -⟩)
    · exact (hdrops k).mpr h
    · exact absurd hd (hstores d)
  · intro h
    exact Or.inl ((hdrops k).mp h)

/-- **What is found under a key after an event** is what the event stores, or
    what was found before if it does not touch the key. -/
theorem find?_carryOut_iff (j : Jar) (ev : Event) (k : Key) (e : Entry) :
    (j.carryOut ev).find? k = some e ↔
      (ev.Stores e ∧ e.key = k) ∨ (¬ ev.Touches k ∧ j.find? k = some e) := by
  have hstep := step_carryOut j ev
  generalize j.carryOut ev = after at hstep ⊢
  cases hstep with
  | store d hstores hdrops =>
      rw [find?_put, touches_of_stores hstores hdrops, hstores]
      by_cases hkey : d.key = k
      · rw [if_pos hkey, Option.some.injEq]
        constructor
        · rintro rfl
          exact Or.inl ⟨rfl, hkey⟩
        · rintro (⟨rfl, -⟩ | ⟨hne, -⟩)
          · rfl
          · exact absurd hkey hne
      · rw [if_neg hkey]
        constructor
        · intro h
          exact Or.inr ⟨hkey, h⟩
        · rintro (⟨rfl, h⟩ | ⟨-, h⟩)
          · exact absurd h hkey
          · exact h
  | drop gone hstores hdrops =>
      rw [find?_without, touches_of_drops hstores hdrops]
      by_cases hgone : gone k = true
      · rw [if_pos hgone]
        refine iff_of_false (fun h => nomatch h) ?_
        rintro (⟨h, -⟩ | ⟨h, -⟩)
        · exact hstores e h
        · exact h hgone
      · rw [if_neg hgone]
        constructor
        · intro h
          exact Or.inr ⟨hgone, h⟩
        · rintro (⟨h, -⟩ | ⟨-, h⟩)
          · exact absurd h (hstores e)
          · exact h

theorem find?_carryOut_of_not_touches (j : Jar) (h : ¬ ev.Touches k) :
    (j.carryOut ev).find? k = j.find? k := by
  ext e
  rw [find?_carryOut_iff]
  constructor
  · rintro (⟨hstores, hkey⟩ | ⟨-, hfound⟩)
    · exact absurd (Or.inr ⟨e, hstores, hkey⟩) h
    · exact hfound
  · intro hfound
    exact Or.inr ⟨h, hfound⟩

/-! ## The last event that touches a key -/

/-- The last event of the history that touches the key stores the entry. -/
def LastStored (events : List Event) (k : Key) (e : Entry) : Prop :=
  ∃ earlier ev later, events = earlier ++ ev :: later ∧ ev.Stores e ∧ e.key = k ∧
    ∀ x ∈ later, ¬ x.Touches k

/-- A list with an element at its end is cut there or before. -/
theorem concat_eq_append_cons_iff {α : Type} {xs front back : List α} {x y : α} :
    xs ++ [x] = front ++ y :: back ↔
      (xs = front ∧ x = y ∧ back = []) ∨ ∃ rest, back = rest ++ [x] ∧ xs = front ++ y :: rest := by
  constructor
  · intro h
    rcases List.eq_nil_or_concat back with rfl | ⟨rest, z, rfl⟩
    · obtain ⟨hxs, hx⟩ := List.append_inj' h rfl
      exact Or.inl ⟨hxs, (List.cons.inj hx).1, rfl⟩
    · rw [List.concat_eq_append, ← List.cons_append, ← List.append_assoc] at h
      obtain ⟨hxs, hx⟩ := List.append_inj' h rfl
      rw [List.concat_eq_append, ← (List.cons.inj hx).1]
      exact Or.inr ⟨rest, rfl, hxs⟩
  · rintro (⟨rfl, rfl, rfl⟩ | ⟨rest, rfl, rfl⟩)
    · rfl
    · rw [List.append_assoc, List.cons_append]

/-- One more event stores the entry itself, or leaves the key alone. -/
theorem lastStored_concat_iff :
    LastStored (events ++ [ev]) k e ↔
      (ev.Stores e ∧ e.key = k) ∨ (¬ ev.Touches k ∧ LastStored events k e) := by
  constructor
  · rintro ⟨earlier, x, later, hcut, hstores, hkey, hlater⟩
    rcases concat_eq_append_cons_iff.mp hcut with ⟨-, rfl, -⟩ | ⟨rest, rfl, rfl⟩
    · exact Or.inl ⟨hstores, hkey⟩
    · refine Or.inr ⟨hlater ev (List.mem_append_right _ List.mem_cons_self), ?_⟩
      exact ⟨earlier, x, rest, rfl, hstores, hkey,
        fun y hy => hlater y (List.mem_append_left _ hy)⟩
  · rintro (⟨hstores, hkey⟩ | ⟨htouches, earlier, x, later, rfl, hstores, hkey, hlater⟩)
    · exact ⟨events, ev, [], rfl, hstores, hkey, fun _ h => absurd h List.not_mem_nil⟩
    · refine ⟨earlier, x, later ++ [ev], ?_, hstores, hkey, ?_⟩
      · rw [List.append_assoc, List.cons_append]
      · intro y hy
        rcases List.mem_append.mp hy with hy | hy
        · exact hlater y hy
        · rw [List.mem_singleton.mp hy]
          exact htouches

/-- **What a store holds under a key** is what the last event that touches the
    key stored. -/
theorem find?_replay_iff (events : List Event) (k : Key) (e : Entry) :
    (replay events).find? k = some e ↔ LastStored events k e := by
  induction events using List.reverseRecOn with
  | nil =>
      refine iff_of_false (fun h => nomatch h) ?_
      rintro ⟨earlier, ev, later, hcut, -⟩
      exact List.append_ne_nil_of_right_ne_nil _ (List.cons_ne_nil _ _) hcut.symm
  | append_singleton events ev ih =>
      rw [replay_concat, find?_carryOut_iff, lastStored_concat_iff, ih]

/-! ## The order of the entries -/

/-- The key came to be held by the event at the index: nothing was held under
    it before, and no event has dropped it since. -/
def CreatedAt (events : List Event) (k : Key) (i : Nat) : Prop :=
  ∃ earlier ev later e, events = earlier ++ ev :: later ∧ earlier.length = i ∧ ev.Stores e ∧
    e.key = k ∧ (∀ d, ¬ LastStored earlier k d) ∧ ∀ x ∈ later, ¬ x.Drops k

/-- The one key came to be held before the other. -/
def Sooner (events : List Event) (k l : Key) : Prop :=
  ∃ i i', i < i' ∧ CreatedAt events k i ∧ CreatedAt events l i'

/-- What is stored under a key is held as long as nothing drops the key. -/
theorem lastStored_of_not_drops {earlier later : List Event} (hstores : ev.Stores e)
    (hkey : e.key = k) (hlater : ∀ x ∈ later, ¬ x.Drops k) :
    ∃ d, LastStored (earlier ++ ev :: later) k d := by
  induction later using List.reverseRecOn with
  | nil => exact ⟨e, lastStored_concat_iff.mpr (Or.inl ⟨hstores, hkey⟩)⟩
  | append_singleton later x ih =>
      -- the last event stores under the key once more, or leaves it alone
      rw [← List.cons_append, ← List.append_assoc]
      by_cases htouches : x.Touches k
      · rcases htouches with hdrops | ⟨d, hd, hdkey⟩
        · exact absurd hdrops (hlater x (List.mem_append_right _ List.mem_cons_self))
        · exact ⟨d, lastStored_concat_iff.mpr (Or.inl ⟨hd, hdkey⟩)⟩
      · obtain ⟨d, hd⟩ := ih (fun y hy => hlater y (List.mem_append_left _ hy))
        exact ⟨d, lastStored_concat_iff.mpr (Or.inr ⟨htouches, hd⟩)⟩

theorem CreatedAt.lt {i : Nat} (h : CreatedAt events k i) : i < events.length := by
  obtain ⟨earlier, ev, later, e, rfl, rfl, -⟩ := h
  rw [List.length_append, List.length_cons]
  omega

/-- A key does not come to be held later than it did. -/
theorem CreatedAt.le {i i' : Nat} (h : CreatedAt events k i) (h' : CreatedAt events k i') :
    i' ≤ i := by
  obtain ⟨earlier, ev, later, e, rfl, rfl, hstores, hkey, -, hlater⟩ := h
  obtain ⟨earlier', ev', later', e', hcut, rfl, -, -, hnew, -⟩ := h'
  rcases List.append_eq_append_iff.mp hcut with ⟨between, rfl, hbetween⟩ | ⟨between, rfl, -⟩
  · cases between with
    | nil => exact Nat.le_of_eq (congrArg List.length (List.append_nil earlier))
    | cons x between =>
        -- the key is held from the first of the two events to the second one
        obtain ⟨rfl, rfl⟩ := List.cons.inj hbetween
        obtain ⟨d, hd⟩ := lastStored_of_not_drops hstores hkey
          (fun y hy => hlater y (List.mem_append_left _ hy))
        exact absurd hd (hnew d)
  · rw [List.length_append]
    exact Nat.le_add_right _ _

/-- A key that came to be held before another one is not that key. -/
theorem Sooner.ne {l : Key} (h : Sooner events k l) : k ≠ l := by
  rintro rfl
  obtain ⟨i, i', hlt, hi, hi'⟩ := h
  exact Nat.lt_irrefl _ (Nat.lt_of_lt_of_le hlt (hi.le hi'))

/-- An event that does not drop a key keeps its place. -/
theorem CreatedAt.concat {i : Nat} (h : CreatedAt events k i) (hdrops : ¬ ev.Drops k) :
    CreatedAt (events ++ [ev]) k i := by
  obtain ⟨earlier, x, later, e, rfl, hi, hstores, hkey, hnew, hlater⟩ := h
  refine ⟨earlier, x, later ++ [ev], e, ?_, hi, hstores, hkey, hnew, ?_⟩
  · rw [List.append_assoc, List.cons_append]
  · intro y hy
    rcases List.mem_append.mp hy with hy | hy
    · exact hlater y hy
    · rw [List.mem_singleton.mp hy]
      exact hdrops

theorem Sooner.concat {l : Key} (h : Sooner events k l) (hk : ¬ ev.Drops k) (hl : ¬ ev.Drops l) :
    Sooner (events ++ [ev]) k l := by
  obtain ⟨i, i', hlt, hi, hi'⟩ := h
  exact ⟨i, i', hlt, hi.concat hk, hi'.concat hl⟩

/-- A key under which nothing is held comes to be held when an entry is
    stored. -/
theorem createdAt_length (hstores : ev.Stores e) (hnew : ∀ d, ¬ LastStored events e.key d) :
    CreatedAt (events ++ [ev]) e.key events.length :=
  ⟨events, ev, [], e, rfl, rfl, hstores, rfl, hnew, fun _ h => absurd h List.not_mem_nil⟩

/-- An entry that is put in keeps the place of its key, or goes to the end. -/
theorem keys_put (e : Entry) (entries : List Entry) :
    keys ⟨put e entries⟩ =
      if e.key ∈ keys ⟨entries⟩ then keys ⟨entries⟩ else keys ⟨entries⟩ ++ [e.key] := by
  induction entries with
  | nil => rfl
  | cons d rest ih =>
      have hmem : e.key ∈ keys ⟨d :: rest⟩ ↔ e.key = d.key ∨ e.key ∈ keys ⟨rest⟩ :=
        List.mem_cons
      rw [put]
      by_cases hd : d.key = e.key
      · rw [if_pos hd, if_pos (hmem.mpr (Or.inl hd.symm))]
        show e.key :: keys ⟨rest⟩ = d.key :: keys ⟨rest⟩
        rw [hd]
      · rw [if_neg hd]
        show d.key :: keys ⟨put e rest⟩ = _
        rw [ih]
        by_cases hrest : e.key ∈ keys ⟨rest⟩
        · rw [if_pos hrest, if_pos (hmem.mpr (Or.inr hrest))]
          rfl
        · rw [if_neg hrest, if_neg]
          · rfl
          · rintro h
            rcases hmem.mp h with h | h
            · exact hd h.symm
            · exact hrest h

theorem keys_without (j : Jar) (gone : Key → Bool) :
    (j.without gone).keys = j.keys.filter fun k => !gone k := by
  rw [keys, keys, List.filter_map]
  rfl

/-- The keys stand in the order in which they came to be held, and each of
    them came to be held at some time. -/
structure InOrder (events : List Event) (keys : List Key) : Prop where
  sooner : keys.Pairwise (Sooner events)
  created : ∀ k ∈ keys, ∃ i, CreatedAt events k i

/-- An event that drops none of the keys leaves them in order. -/
theorem InOrder.concat {keys : List Key} (h : InOrder events keys)
    (hdrops : ∀ k ∈ keys, ¬ ev.Drops k) : InOrder (events ++ [ev]) keys := by
  refine ⟨h.sooner.imp_of_mem ?_, ?_⟩
  · intro k l hk hl hsooner
    exact hsooner.concat (hdrops k hk) (hdrops l hl)
  · intro k hk
    obtain ⟨i, hi⟩ := h.created k hk
    exact ⟨i, hi.concat (hdrops k hk)⟩

/-- A key that comes to be held goes to the end. -/
theorem InOrder.concat_new {keys : List Key} (h : InOrder events keys)
    (hdrops : ∀ k, ¬ ev.Drops k) (hstores : ev.Stores e)
    (hnew : ∀ d, ¬ LastStored events e.key d) :
    InOrder (events ++ [ev]) (keys ++ [e.key]) := by
  have hcreated := createdAt_length hstores hnew
  have hkept := h.concat (fun k _ => hdrops k)
  constructor
  · refine List.pairwise_append.mpr ⟨hkept.sooner, List.pairwise_singleton _ _, ?_⟩
    intro k hk l hl
    obtain ⟨i, hi⟩ := h.created k hk
    rw [List.mem_singleton.mp hl]
    exact ⟨i, _, hi.lt, hi.concat (hdrops k), hcreated⟩
  · intro k hk
    rcases List.mem_append.mp hk with hk | hk
    · exact hkept.created k hk
    · rw [List.mem_singleton.mp hk]
      exact ⟨_, hcreated⟩

/-- **The entries stand in the order in which their keys came to be held.** -/
theorem inOrder_replay (events : List Event) : InOrder events (replay events).keys := by
  induction events using List.reverseRecOn with
  | nil => exact ⟨List.Pairwise.nil, fun _ h => absurd h List.not_mem_nil⟩
  | append_singleton events ev ih =>
      rw [replay_concat]
      have hstep := step_carryOut (replay events) ev
      generalize hafter : (replay events).carryOut ev = after at hstep ⊢
      cases hstep with
      | store e hstores hdrops =>
          -- an entry that replaces another one keeps its place
          rw [keys_put]
          by_cases hheld : e.key ∈ (replay events).keys
          · rw [if_pos hheld]
            exact ih.concat (fun k _ => hdrops k)
          · rw [if_neg hheld]
            refine ih.concat_new hdrops ((hstores e).mpr rfl) ?_
            intro d hd
            exact hheld ((mem_keys_iff _ _).mpr ⟨d, (find?_replay_iff events e.key d).mpr hd⟩)
      | drop gone hstores hdrops =>
          -- the keys that are left were in order, and the event drops none of them
          have hleft : InOrder events ((replay events).keys.filter fun k => !gone k) :=
            ⟨ih.sooner.filter _, fun k hk => ih.created k (List.mem_of_mem_filter hk)⟩
          rw [keys_without]
          refine hleft.concat ?_
          intro k hk hdropped
          have hgone := List.of_mem_filter hk
          rw [(hdrops k).mpr hdropped] at hgone
          exact nomatch hgone

/-! ## What a run leaves -/

/-- A store holds what its events leave: under every key the entry that was
    stored last, and each key once, in the order in which they came to be
    held. -/
structure Reflects (j : Jar) (events : List Event) : Prop where
  getAny?_eq_some_iff : ∀ k c, j.getAny? k = some c ↔ ∃ e, LastStored events k e ∧ e.cookie = c
  getAny?_eq_none_iff : ∀ k, j.getAny? k = none ↔ ∀ e, ¬ LastStored events k e
  all_eq : j.all.map some = j.keys.map j.getAny?
  mem_keys_iff : ∀ k, k ∈ j.keys ↔ ∃ e, LastStored events k e
  nodup : j.keys.Nodup
  sooner : j.keys.Pairwise (Sooner events)

/-- An operation comes to nothing: it asks, or a cookie is turned away, or an
    insertion fails. -/
def Operation.ComesToNothing (j : Jar) (clock : Float) : Operation → Prop
  | .insert c url => TurnedAway url c ∨ ∃ failure, (j.insert clock c url).result = .error failure
  | .insertHeader now header url =>
    (∃ c, (Cookie.parse header now).result = .ok c ∧ TurnedAway url c) ∨
      ∃ failure, (j.insertHeader now clock header url).result = .error failure
  | .setCookies .. => False
  | .remove _ => False
  | .clear => False
  | .ask _ => True

/-- What is found under a key before and after an operation is the same if no
    event of the operation touches the key. -/
theorem find?_foldl_of_not_touches (j : Jar) (h : ∀ ev ∈ events, ¬ ev.Touches k) :
    (events.foldl carryOut j).find? k = j.find? k := by
  induction events generalizing j with
  | nil => rfl
  | cons ev events ih =>
      rw [List.foldl_cons, ih _ (fun x hx => h x (List.mem_cons_of_mem _ hx)),
        find?_carryOut_of_not_touches j (h ev List.mem_cons_self)]

theorem nodup_keys_replay (events : List Event) : (replay events).keys.Nodup :=
  (inOrder_replay events).sooner.imp Sooner.ne

/-- **Every entry of a store** is what the last event that touches its key
    stored. -/
theorem lastStored_of_mem_run {history : List (Float × Operation)}
    (he : e ∈ (run history).entries) : LastStored (trace history) e.key e := by
  rw [run_eq_replay] at he
  exact (find?_replay_iff _ _ _).mp (find?_key (nodup_keys_replay (trace history)) he)

/-- A store holds what its events leave. -/
theorem reflects_replay (events : List Event) : (replay events).Reflects events where
  getAny?_eq_some_iff k c := by
    rw [getAny?, Option.map_eq_some_iff]
    simp only [find?_replay_iff]
  getAny?_eq_none_iff k := by
    rw [getAny?, Option.map_eq_none_iff, Option.eq_none_iff_forall_ne_some]
    simp only [ne_eq, find?_replay_iff]
  all_eq := by
    rw [all, keys, List.map_map, List.map_map]
    refine List.map_congr_left ?_
    intro e he
    show some e.cookie = (find? _ e.key).map Entry.cookie
    rw [find?_key (nodup_keys_replay events) he]
    rfl
  mem_keys_iff k := by
    rw [Jar.mem_keys_iff]
    simp only [find?_replay_iff]
  nodup := nodup_keys_replay events
  sooner := (inOrder_replay events).sooner

theorem perform_of_comesToNothing {o : Operation} (h : o.ComesToNothing j clock) :
    (j.perform clock o).state = j := by
  cases o with
  | insert c url =>
      rcases h with haway | ⟨failure, hfail⟩
      · exact insert_of_turnedAway haway
      · exact insert_of_error hfail
  | insertHeader now header url =>
      rcases h with ⟨c, hparse, haway⟩ | ⟨failure, hfail⟩
      · exact (insertHeader_state hparse j clock url).1.trans (insert_of_turnedAway haway)
      · exact insertHeader_of_error hfail
  | setCookies now headers url => exact h.elim
  | remove k => exact h.elim
  | clear => exact h.elim
  | ask q => rfl

/-- **Every run of a store** leaves what its events leave.  Nothing is changed
    by an operation that comes to nothing, and no key by an operation whose
    events do not touch it. -/
theorem run_reflects (history : List (Float × Operation)) :
    (run history).Reflects (trace history) ∧
      (∀ clock o, o.ComesToNothing (run history) clock →
        ((run history).perform clock o).state = run history) ∧
      ∀ clock o k, (∀ ev ∈ o.events clock, ¬ ev.Touches k) →
        ((run history).perform clock o).state.getAny? k = (run history).getAny? k := by
  refine ⟨?_, fun clock o h => perform_of_comesToNothing h, ?_⟩
  · rw [run_eq_replay]
    exact reflects_replay (trace history)
  · intro clock o k h
    rw [perform_state, getAny?, find?_foldl_of_not_touches _ h, getAny?]

/-- A cookie that replaces another one keeps its place, and one that comes back
    after a removal goes to the end. -/
example :
    let put (name value : String) : Float × Operation :=
      (0, .insert (.ofPair (.str name) (.str value)) "http://h.org/")
    let drop (name : String) : Float × Operation := (0, .remove ⟨"h.org", "/", .text name⟩)
    let names (j : Jar) : List Atom := j.keys.map Key.name
    names (run [put "a" "1", put "b" "2", put "a" "3"]) = [.text "a", .text "b"] ∧
      names (run [put "a" "1", put "b" "2", drop "a", put "a" "3"]) = [.text "b", .text "a"] :=
  ⟨rfl, rfl⟩

end HttpExchange.Jar
