import HttpExchange.Jar.Scope
import HttpExchange.Proofs.Text.Splitting

/-! # What domains and paths cover

    The two tests of the store decide what they are meant to decide: whether a
    host is a domain or below it, and whether a path is another one or below
    it, where paths are cut at slashes only. -/

namespace HttpExchange.Jar

open Text

/-! ## Domains -/

/-- Is the host the domain, or does it end in a point and the domain? -/
def HostWithin (domain host : String) : Prop :=
  host = domain ∨ '.' :: domain.toList <:+ host.toList

/-- **The test of a domain** tells whether the host is within it. -/
theorem domainMatch_iff (host domain : String) :
    domainMatch host domain = true ↔ HostWithin domain host := by
  rw [domainMatch, Bool.or_eq_true, beq_iff_eq, List.isSuffixOf_iff_suffix, HostWithin]

/-- A host within a domain is so with everything that is within the host. -/
theorem HostWithin.trans {domain host below : String} (h : HostWithin domain host)
    (hbelow : HostWithin host below) : HostWithin domain below := by
  rcases hbelow with rfl | hbelow
  · exact h
  · rcases h with rfl | hdomain
    · exact Or.inr hbelow
    · exact Or.inr ((hdomain.trans (List.suffix_cons _ _)).trans hbelow)

/-- A domain without the points in front of it. -/
def undotted (domain : String) : List Char := trimStartBy (· == '.') domain.toList

theorem lower_eq_nil_iff (cs : List Char) : lower cs = [] ↔ cs = [] := by
  cases cs with
  | nil => exact iff_of_true rfl rfl
  | cons c cs =>
      refine iff_of_false ?_ (List.cons_ne_nil c cs)
      rw [lower, lowerAfter]
      split
      · exact List.cons_ne_nil _ _
      · split
        · exact List.cons_ne_nil _ _
        · exact List.cons_ne_nil _ _

theorem domainForm_eq_empty_iff (domain : String) :
    domainForm domain = "" ↔ undotted domain = [] := by
  rw [domainForm, ← String.toList_eq_nil_iff, String.toList_ofList, lower_eq_nil_iff, undotted]

/-! ## Paths -/

/-- Does the request's path start with the path, and is it cut at a slash
    there if it goes on? -/
def PathWithin (path request : String) : Prop :=
  path.toList <+: request.toList ∧
    (request = path ∨ path.toList.getLast? = some '/' ∨ path.toList ++ ['/'] <+: request.toList)

/-- A path within another one is so with everything that is within it. -/
theorem PathWithin.trans {path request below : String} (h : PathWithin path request)
    (hbelow : PathWithin request below) : PathWithin path below := by
  obtain ⟨hfront, hcut⟩ := h
  refine ⟨hfront.trans hbelow.1, ?_⟩
  rcases hcut with rfl | hslash | hcut
  · exact hbelow.2
  · exact Or.inr (Or.inl hslash)
  · exact Or.inr (Or.inr (hcut.trans hbelow.1))

/-- What follows a part of a text starts with the character that the text goes
    on with. -/
theorem head?_drop_eq_some_iff {front cs : List Char} (h : front <+: cs) (c : Char) :
    (cs.drop front.length).head? = some c ↔ front ++ [c] <+: cs := by
  obtain ⟨rest, rfl⟩ := h
  rw [List.drop_left, List.prefix_append_right_inj]
  cases rest with
  | nil => exact iff_of_false (fun e => nomatch e) (fun e => nomatch e.length_le)
  | cons d rest => simp only [List.head?_cons, Option.some.injEq, List.cons_prefix_cons,
      List.nil_prefix, and_true, eq_comm]

/-- **The test of a path** tells whether the request's path is within it. -/
theorem pathMatch_iff (request path : String) :
    pathMatch request path = true ↔ PathWithin path request := by
  rw [pathMatch]
  by_cases heq : request = path
  · rw [if_pos heq, heq]
    exact iff_of_true rfl ⟨List.prefix_rfl, Or.inl rfl⟩
  · rw [if_neg heq]
    by_cases hfront : path.toList <+: request.toList
    · rw [if_pos (List.isPrefixOf_iff_prefix.mpr hfront), Bool.or_eq_true, beq_iff_eq, beq_iff_eq,
        head?_drop_eq_some_iff hfront]
      constructor
      · intro h
        exact ⟨hfront, Or.inr h⟩
      · rintro ⟨-, h | h⟩
        · exact absurd h heq
        · exact h
    · rw [if_neg (fun h => hfront (List.isPrefixOf_iff_prefix.mp h))]
      exact iff_of_false Bool.false_ne_true (fun h => hfront h.1)

/-- The root covers every path that starts with a slash. -/
theorem pathWithin_slash {request : String} (h : request.toList.head? = some '/') :
    PathWithin "/" request := by
  obtain ⟨rest, hrest⟩ := List.head?_eq_some_iff.mp h
  refine ⟨?_, Or.inr (Or.inl rfl)⟩
  rw [hrest]
  exact ⟨rest, rfl⟩

/-- **The default path of a request covers the request.**  It is what stands
    before the last slash, so the request goes on with a slash behind it, or it
    is the root. -/
theorem pathWithin_defaultPath {request : String} (h : request.toList.head? = some '/') :
    PathWithin (defaultPath request) request := by
  rw [defaultPath]
  split
  · exact pathWithin_slash h
  · obtain ⟨before, hbefore⟩ := partitionLast_of_mem (List.mem_of_mem_head? h)
    have hcut := eq_of_partitionLast_some hbefore
    have hslash : before ++ ['/'] <+: request.toList := by
      rw [List.append_cons] at hcut
      exact ⟨_, hcut.symm⟩
    rw [hbefore]
    refine ⟨?_, Or.inr (Or.inr ?_)⟩
    · rw [Option.getD_some, String.toList_ofList]
      exact (List.prefix_append _ _).trans hslash
    · rw [Option.getD_some, String.toList_ofList]
      exact hslash

/-- **Every default path starts with a slash.**  A request with a single one has
    the root; any other one keeps what stands before its last slash, and the
    first slash is part of that. -/
theorem head?_defaultPath (request : String) :
    (defaultPath request).toList.head? = some '/' := by
  rw [defaultPath]
  split
  · rfl
  · next hcut =>
    obtain ⟨hhead, hcount⟩ := not_or.mp hcut
    have hslash := Decidable.of_not_not hhead
    obtain ⟨before, hbefore⟩ := partitionLast_of_mem (List.mem_of_mem_head? hslash)
    have heq := eq_of_partitionLast_some hbefore
    rw [hbefore, Option.getD_some, String.toList_ofList]
    cases before with
    | nil =>
        have hbehind := not_mem_partitionLast_snd '/' request.toList
        rw [heq, List.nil_append, List.count_cons_self, List.count_eq_zero.mpr hbehind] at hcount
        exact absurd rfl hcount
    | cons c before =>
        rw [heq] at hslash
        exact hslash

/-- An empty path has the default path of the root. -/
theorem defaultPath_requestPath (u : Url) : defaultPath (requestPath u) = defaultPath u.path := by
  rw [requestPath]
  split
  · next hempty =>
    rw [String.isEmpty_iff.mp hempty]
    rfl
  · rfl

end HttpExchange.Jar
