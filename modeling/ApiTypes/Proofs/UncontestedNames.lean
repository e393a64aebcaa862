/-
  Names that no other operation has a claim to.

  A name by the rules is uncontested if the rules give it to one operation only.  Numbers
  are a last resort, but those that tell the members of a group apart are chosen without
  regard to other groups, and may make a name that is uncontested there.

  * `getElem?_numberFrom_first`, `getElem?_numberFrom_again`: what becomes of one name when
    names are numbered, by whether it has come before;
  * `getElem?_numberRepeats`, `getElem?_dealt`: hence what a proposal is dealt by its group;
  * `resolve_uncontested_iff`: an operation is given its uncontested name unless an earlier
    one of another group has been numbered to it;
  * `not_given_uncontested`: this does happen, with three operations of two groups.
-/
import ApiTypes.Proofs.NamePolicy

namespace ApiTypes.Endpoint

variable {proposals group front back : List Proposal} {p q : Proposal} {name : String}

/-! ## Numbering one of several names -/

section

variable {before after taken : List String} {used : List (String × Nat)}

theorem numbered_ne (name : String) (n : Nat) : numbered name n ≠ name := by
  intro h
  have hlength := congrArg String.length h
  simp only [numbered, String.length_append] at hlength
  have : "_".length = 1 := rfl
  omega

/-- A name that has not come before stays. -/
theorem getElem?_numberFrom_first (hbefore : name ∉ before) (hused : used.lookup name = none) :
    (numberFrom taken used (before ++ name :: after))[before.length]? = some name := by
  induction before generalizing taken used with
  | nil => simp [numberFrom, hused]
  | cons other before ih =>
    rw [List.mem_cons, not_or] at hbefore
    obtain ⟨hother, hbefore⟩ := hbefore
    have hskip (n : Nat) : ((other, n) :: used).lookup name = none :=
      lookup_cons_eq_none_iff.2 ⟨hother, hused⟩
    rw [List.cons_append, numberFrom, List.length_cons]
    cases used.lookup other with
    | none => exact ih hbefore (hskip 1)
    | some last => exact ih hbefore (hskip _)

/-- A name that has come before gets a number, from two on, that makes a name not taken. -/
theorem getElem?_numberFrom_again (hpositive : ∀ x n, used.lookup x = some n → 1 ≤ n)
    (h : name ∈ before ∨ (used.lookup name).isSome) :
    ∃ n, 2 ≤ n ∧ numbered name n ∉ taken ∧
      (numberFrom taken used (before ++ name :: after))[before.length]? =
        some (numbered name n) := by
  induction before generalizing taken used with
  | nil =>
    obtain ⟨last, hlast⟩ := Option.isSome_iff_exists.1 (h.resolve_left List.not_mem_nil)
    have hle := le_freeNumber taken name (last + 1)
    have hone := hpositive name last hlast
    refine ⟨freeNumber taken name (last + 1), by omega, ?_, by simp [numberFrom, hlast]⟩
    exact numbered_freeNumber_not_mem taken name (last + 1)
  | cons other before ih =>
    -- the number noted for the name in front is at least one, and the name counts as used
    have hnoted {n : Nat} (hn : 1 ≤ n) : ∀ x m, ((other, n) :: used).lookup x = some m → 1 ≤ m := by
      intro x m hx
      rw [List.lookup_cons] at hx
      split at hx
      · exact Option.some.inj hx ▸ hn
      · exact hpositive x m hx
    have hstill (n : Nat) : name ∈ before ∨ (((other, n) :: used).lookup name).isSome := by
      rw [List.lookup_cons]
      by_cases hother : name = other
      · simp [hother]
      · rw [beq_false_of_ne hother]
        rcases h with h | h
        · exact Or.inl ((List.mem_cons.1 h).resolve_left hother)
        · exact Or.inr h
    rw [List.cons_append, numberFrom, List.length_cons]
    cases hother : used.lookup other with
    | none => exact ih (hnoted (Nat.le_refl 1)) (hstill 1)
    | some last =>
      have hle := le_freeNumber taken other (last + 1)
      have hone : 1 ≤ freeNumber taken other (last + 1) := by omega
      obtain ⟨n, htwo, hfree, hget⟩ := ih (hnoted hone) (hstill _)
      exact ⟨n, htwo, fun hmem => hfree (List.mem_cons_of_mem _ hmem), hget⟩

end

/-- **One of several names.**  A name stays if it has not come before; otherwise it gets a
    number, and the numbered name is none of the names. -/
theorem getElem?_numberRepeats (before : List String) (name : String) (after : List String) :
    (name ∉ before ∧ (numberRepeats (before ++ name :: after))[before.length]? = some name) ∨
      (name ∈ before ∧ ∃ n, 2 ≤ n ∧ numbered name n ∉ before ++ name :: after ∧
        (numberRepeats (before ++ name :: after))[before.length]? = some (numbered name n)) := by
  by_cases h : name ∈ before
  · exact Or.inr ⟨h, getElem?_numberFrom_again (by simp) (Or.inl h)⟩
  · exact Or.inl ⟨h, getElem?_numberFrom_first h rfl⟩

/-! ## What a proposal is dealt -/

theorem exists_append_of_getElem? {α : Type} {l : List α} {i : Nat} {x : α} (h : l[i]? = some x) :
    ∃ front back, l = front ++ x :: back ∧ front.length = i := by
  obtain ⟨hi, rfl⟩ := List.getElem?_eq_some_iff.1 h
  refine ⟨l.take i, l.drop (i + 1), ?_, List.length_take_of_le (Nat.le_of_lt hi)⟩
  rw [List.getElem_cons_drop, List.take_append_drop]

/-- The names that the groups give, in the order of the proposals, before names of different
    groups are told apart. -/
def dealt (proposals : List Proposal) : List String := deal (groupTable proposals) [] proposals

theorem getElem?_deal {table : GroupTable} {before : List Proposal} :
    (deal table before (front ++ p :: back))[front.length]? =
      some (((table.namesFor p)[((front.reverse ++ before).filter p.competes).length]?).getD
        p.baseName) := by
  induction front generalizing before with
  | nil => simp [deal]
  | cons first front ih => simp [deal, ih]

/-- A name is the one by the rules with a number behind it, as a group gives it to a member
    with a rival of the same name, and no member of the group has it by the rules. -/
def NumberedInGroup (proposals : List Proposal) (q : Proposal) (name : String) : Prop :=
  (∃ r ∈ rivals proposals q, policyName proposals r = policyName proposals q) ∧
    (∀ r ∈ proposals, q.competes r → policyName proposals r ≠ name) ∧
    ∃ n, 2 ≤ n ∧ name = numbered (policyName proposals q) n

/-- **What a group gives.**  A proposal is dealt its name by the rules, or this name with a
    number. -/
theorem getElem?_dealt (h : proposals = front ++ q :: back) :
    (dealt proposals)[front.length]? = some (policyName proposals q) ∨
      ∃ name, (dealt proposals)[front.length]? = some name ∧ NumberedInGroup proposals q name := by
  have hself : q.competes q = true := competes_iff.2 ⟨rfl, rfl⟩
  have hmem : q ∈ proposals := by simp [h]
  have hgroup : proposals.filter q.competes =
      front.filter q.competes ++ q :: back.filter q.competes := by
    rw [h, List.filter_append, List.filter_cons_of_pos hself]
  have hdealt : (dealt proposals)[front.length]? =
      some (((groupNames (proposals.filter q.competes))[(front.filter q.competes).length]?).getD
        q.baseName) := by
    rw [← namesFor_groupTable hmem]
    conv_lhs => rw [dealt]; arg 1; arg 3; rw [h]
    rw [getElem?_deal]
    simp [List.filter_reverse]
  have hnames : (proposals.filter q.competes).map (policyName proposals) =
      (front.filter q.competes).map (policyName proposals) ++ policyName proposals q ::
        (back.filter q.competes).map (policyName proposals) := by
    rw [hgroup, List.map_append, List.map_cons]
  have hplace : ((front.filter q.competes).map (policyName proposals)).length =
      (front.filter q.competes).length := List.length_map _
  rcases @groupNames_eq_or proposals q with hplain | hnumbered
  · left
    rw [hdealt, hplain, hnames, ← hplace, List.getElem?_append_right (Nat.le_refl _)]
    simp
  · rw [hdealt, hnumbered, hnames, ← hplace]
    rcases getElem?_numberRepeats ((front.filter q.competes).map (policyName proposals))
        (policyName proposals q) ((back.filter q.competes).map (policyName proposals)) with
      ⟨-, hget⟩ | ⟨hbefore, n, htwo, hfree, hget⟩
    · left
      rw [hget, Option.getD_some]
    · right
      obtain ⟨r, hr, hsame⟩ := List.mem_map.1 hbefore
      have hrival : r ∈ rivals proposals q := by
        rw [rivals_of_mem (List.mem_filter.2 ⟨hmem, hself⟩), hgroup,
          (List.perm_middle.erase q).mem_iff, List.erase_cons_head]
        exact List.mem_append_left _ hr
      refine ⟨_, by rw [hget, Option.getD_some], ⟨r, hrival, hsame⟩, fun r hr hcompetes heq => ?_,
        n, htwo, rfl⟩
      rw [← hnames] at hfree
      exact hfree (List.mem_map.2 ⟨r, List.mem_filter.2 ⟨hr, hcompetes⟩, heq⟩)

/-! ## Uncontested names -/

theorem mem_of_mem_rivals (h : proposals = front ++ p :: back) (hq : q ∈ rivals proposals p) :
    q ∈ front ++ back := by
  have hperm : proposals.Perm (p :: (front ++ back)) := h ▸ List.perm_middle
  rw [(rivals_perm hperm p).mem_iff, rivals, List.filter_cons_of_pos (by simp),
    List.erase_cons_head] at hq
  exact (List.mem_filter.1 hq).1

/-- **Uncontested names.**  An operation whose name by the rules is that of no other one is
    given this name exactly if no earlier operation was dealt it by its own group; one that was
    is of another group, where it has a rival of the same name, and owes the name to a
    number. -/
theorem resolve_uncontested_iff {before after : List Proposal}
    (h : proposals = before ++ p :: after)
    (huncontested : ∀ q ∈ before ++ after, policyName proposals q ≠ policyName proposals p) :
    ((resolve proposals)[before.length]? = some (policyName proposals p) ↔
      policyName proposals p ∉ (dealt proposals).take before.length) ∧
    (policyName proposals p ∈ (dealt proposals).take before.length →
      ∃ q ∈ before, q.competes p = false ∧
        NumberedInGroup proposals q (policyName proposals p)) := by
  -- no rival has the name, so its group deals it to the operation itself
  have hown : (dealt proposals)[before.length]? = some (policyName proposals p) := by
    refine (getElem?_dealt h).resolve_right ?_
    rintro ⟨name, -, ⟨r, hr, hsame⟩, -⟩
    exact huncontested r (mem_of_mem_rivals h hr) hsame
  obtain ⟨early, late, hsplit, hearly⟩ := exists_append_of_getElem? hown
  have htake : (dealt proposals).take before.length = early := by
    rw [hsplit, ← hearly, List.take_left]
  refine ⟨?_, fun htaken => ?_⟩
  · have hresolve : resolve proposals = numberRepeats (dealt proposals) := rfl
    rw [htake, hresolve, hsplit, ← hearly]
    rcases getElem?_numberRepeats early (policyName proposals p) late with
      ⟨hfirst, hname⟩ | ⟨hagain, n, -, -, hname⟩
    · exact iff_of_true hname hfirst
    · refine iff_of_false (fun hsame => ?_) fun hfirst => hfirst hagain
      rw [hname, Option.some.injEq] at hsame
      exact numbered_ne _ n hsame
  · -- the operation that was dealt the name before has it by a number, not by the rules
    rw [htake] at htaken
    obtain ⟨i, hi⟩ := List.mem_iff_getElem?.1 htaken
    obtain ⟨hlt, -⟩ := List.getElem?_eq_some_iff.1 hi
    have hdealt : (dealt proposals)[i]? = some (policyName proposals p) := by
      rw [hsplit, List.getElem?_append_left hlt, hi]
    rw [hearly] at hlt
    obtain ⟨front, back, hbefore, hfront⟩ :=
      exists_append_of_getElem? (List.getElem?_eq_getElem hlt)
    have hq : before[i] ∈ before := List.getElem_mem hlt
    have hplace : proposals = front ++ before[i] :: (back ++ p :: after) := by
      rw [h, ← List.cons_append, ← List.append_assoc, ← hbefore]
    rw [← hfront] at hdealt
    rcases getElem?_dealt hplace with hrules | ⟨name, hname, hnumbered⟩
    · rw [hrules, Option.some.injEq] at hdealt
      exact absurd hdealt (huncontested _ (List.mem_append_left _ hq))
    · rw [hname, Option.some.injEq] at hdealt
      subst hdealt
      refine ⟨before[i], hq, ?_, hnumbered⟩
      by_contra hcompetes
      exact hnumbered.2.1 p (by simp [h]) (by simpa using hcompetes) rfl

/-- Two operations that only a number tells apart. -/
def numberedPair : List Proposal :=
  [⟨"x", "", "get", "/x/{id}"⟩, ⟨"x", "", "get", "/{id}/x"⟩]

/-- An operation whose name is what the number makes. -/
def numberLike : Proposal := ⟨"x_by_id_get_2", "", "get", "/x_by_id_get_2"⟩

/-- Before the two it is given its name, behind them it is not. -/
theorem resolve_uncontested_iff_numbered :
    (∀ q ∈ numberedPair, policyName (numberLike :: numberedPair) q ≠
        policyName (numberLike :: numberedPair) numberLike) ∧
      (resolve (numberLike :: numberedPair))[0]? = some "x_by_id_get_2" ∧
      (∀ q ∈ numberedPair, policyName (numberedPair ++ [numberLike]) q ≠
        policyName (numberedPair ++ [numberLike]) numberLike) ∧
      (resolve (numberedPair ++ [numberLike]))[2]? ≠ some "x_by_id_get_2" := by
  have hfront : ∀ q ∈ numberedPair, policyName (numberLike :: numberedPair) q ≠
      policyName (numberLike :: numberedPair) numberLike := by decide +kernel
  have hbehind : ∀ q ∈ numberedPair, policyName (numberedPair ++ [numberLike]) q ≠
      policyName (numberedPair ++ [numberLike]) numberLike := by decide +kernel
  have hname : policyName (numberLike :: numberedPair) numberLike = "x_by_id_get_2" := by
    decide +kernel
  have hname' : policyName (numberedPair ++ [numberLike]) numberLike = "x_by_id_get_2" := by
    decide +kernel
  have htaken : "x_by_id_get_2" ∈ (dealt (numberedPair ++ [numberLike])).take 2 := by
    decide +kernel
  refine ⟨hfront, ?_, hbehind, fun hgiven => ?_⟩
  · rw [← hname]
    exact (@resolve_uncontested_iff _ numberLike [] numberedPair rfl hfront).1.2 List.not_mem_nil
  · rw [← hname'] at hgiven htaken
    refine (resolve_uncontested_iff rfl ?_).1.1 hgiven htaken
    rwa [List.append_nil]

/-- **Numbers take uncontested names.**  The paths and methods of the three operations are
    distinct, and the name of the third one by the rules is that of no other one; but the
    second one is numbered to it. -/
theorem not_given_uncontested :
    ¬ ∀ (before : List Proposal) (p : Proposal) (after : List Proposal),
        ((before ++ p :: after).map fun q => (q.path, q.method)).Nodup →
        (∀ q ∈ before ++ after,
          policyName (before ++ p :: after) q ≠ policyName (before ++ p :: after) p) →
        (resolve (before ++ p :: after))[before.length]? =
          some (policyName (before ++ p :: after) p) := by
  intro hall
  have hname := hall numberedPair numberLike [] (by decide) (by decide +kernel)
  exact absurd hname (by decide +kernel)

end ApiTypes.Endpoint
