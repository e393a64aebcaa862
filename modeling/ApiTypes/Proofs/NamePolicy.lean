/-
  The names that the rules for a group give.

  Names are handed out group by group and numbered in the end.  When no number is
  needed, all that decides the name of an operation is which others it competes with:

  * `policyName`: the name of a proposal by its rivals alone, without numbers and
    without regard to their order (`policyName_perm`);
  * `numberRepeats_eq_self`: names that are distinct are not numbered;
  * `groupNames_eq_or`, `deal_eq_map`: the names of a group are those of the rules, numbered
    if they repeat, and each member is dealt its own one;
  * `resolve_eq_map_policyName`: if the names by the rules are distinct, they are the
    names that are given, whatever the order of the operations.
-/
import ApiTypes.Proofs.EndpointNames

namespace ApiTypes.Endpoint

/-! ## Names by the rules -/

/-- The other proposals with the folder and the base name of a proposal. -/
def rivals (proposals : List Proposal) (p : Proposal) : List Proposal :=
  (proposals.filter fun q => q.folder = p.folder ∧ q.baseName = p.baseName).erase p

/-- The base name with what the usable parameters of the path add to it, if there are
    any. -/
def Proposal.stem (p : Proposal) : String :=
  if Naming.parameterSuffix (placeholders p.path) = "" then p.baseName
  else p.baseName ++ "_" ++ Naming.parameterSuffix (placeholders p.path)

/-- The name of a proposal by the rules: the base name without rivals; with the method if
    all rivals have the same path; else with the parameters, and with the method too
    exactly if a rival has the same parameters. -/
def policyName (proposals : List Proposal) (p : Proposal) : String :=
  if rivals proposals p = [] then p.baseName
  else if ∀ q ∈ rivals proposals p, q.path = p.path then p.baseName ++ "_" ++ p.method
  else if ∃ q ∈ rivals proposals p, q.stem = p.stem then p.stem ++ "_" ++ p.method
  else p.stem

variable {proposals proposals' group : List Proposal} {p q : Proposal}

theorem rivals_perm (h : proposals.Perm proposals') (p : Proposal) :
    (rivals proposals p).Perm (rivals proposals' p) :=
  (h.filter _).erase p

/-- The order of the proposals does not show in the names by the rules. -/
theorem policyName_perm (h : proposals.Perm proposals') (p : Proposal) :
    policyName proposals' p = policyName proposals p := by
  have hrivals := rivals_perm h p
  have hnil : rivals proposals' p = [] ↔ rivals proposals p = [] :=
    ⟨fun h => (h ▸ hrivals).eq_nil, fun h => (h ▸ hrivals.symm).eq_nil⟩
  simp only [policyName, hnil, ← hrivals.mem_iff]

theorem pathName_eq_stem (p : Proposal) : p.pathName = p.stem := by
  rw [Proposal.pathName, Proposal.stem]
  split
  · next h => rw [if_pos h]
  · next h => rw [if_neg h]

/-! ## Numbers -/

theorem numberFrom_eq_self {names taken : List String} {used : List (String × Nat)}
    (hnodup : names.Nodup) (hnew : ∀ name ∈ names, used.lookup name = none) :
    numberFrom taken used names = names := by
  induction names generalizing used with
  | nil => rfl
  | cons name rest ih =>
    obtain ⟨hname, hrest⟩ := List.nodup_cons.1 hnodup
    simp only [numberFrom, hnew name List.mem_cons_self]
    refine congrArg _ (ih hrest fun other hother => ?_)
    have hne : (other == name) = false := beq_false_of_ne fun heq => hname (heq ▸ hother)
    rw [List.lookup_cons, hne]
    exact hnew other (List.mem_cons_of_mem _ hother)

/-- Names that are distinct are not numbered. -/
theorem numberRepeats_eq_self {names : List String} (h : names.Nodup) :
    numberRepeats names = names :=
  numberFrom_eq_self h fun _ _ => rfl

/-! ## Groups -/

theorem competes_eq_decide (p q : Proposal) :
    p.competes q = decide (q.folder = p.folder ∧ q.baseName = p.baseName) := by
  rw [Bool.eq_iff_iff, competes_iff, decide_eq_true_iff, eq_comm, eq_comm (a := p.baseName)]

theorem filter_competes_eq (h : p.competes q = true) :
    proposals.filter q.competes = proposals.filter p.competes := by
  obtain ⟨hfolder, hbase⟩ := competes_iff.1 h
  refine List.filter_congr fun r _ => ?_
  rw [Proposal.competes, Proposal.competes, hfolder, hbase]

/-- The rivals of a member of a group are the other members. -/
theorem rivals_of_mem (hq : q ∈ proposals.filter p.competes) :
    rivals proposals q = (proposals.filter p.competes).erase q := by
  rw [rivals, ← filter_competes_eq (List.mem_filter.1 hq).2]
  congr 1
  exact List.filter_congr fun r _ => (competes_eq_decide q r).symm

/-- A list has at most one value in it if every value is the same as the first. -/
theorem length_eraseDups_cons_le_one_iff {x : String} {rest : List String} :
    (x :: rest).eraseDups.length ≤ 1 ↔ ∀ y ∈ rest, y = x := by
  rw [List.eraseDups_cons, List.length_cons]
  cases hrest : rest.filter fun y => !y == x with
  | nil =>
    refine iff_of_true (by simp) fun y hy => ?_
    simpa using List.filter_eq_nil_iff.1 hrest y hy
  | cons y others =>
    have hy : y ∈ rest.filter fun y => !y == x := hrest ▸ List.mem_cons_self
    obtain ⟨hy, hne⟩ := List.mem_filter.1 hy
    refine iff_of_false (by simp [List.eraseDups_cons]) fun hall => ?_
    simp [hall y hy] at hne

/-- A group has one path if all other members have that of one of them. -/
theorem length_paths_le_one_iff (hq : q ∈ group) :
    (group.map Proposal.path).eraseDups.length ≤ 1 ↔ ∀ r ∈ group.erase q, r.path = q.path := by
  have hall : (∀ r ∈ group.erase q, r.path = q.path) ↔ ∀ r ∈ group, r.path = q.path := by
    simp [(List.perm_cons_erase hq).mem_iff]
  rw [hall]
  cases group with
  | nil => exact absurd hq List.not_mem_nil
  | cons first rest =>
    rw [List.map_cons, length_eraseDups_cons_le_one_iff, List.forall_mem_map,
      List.forall_mem_cons]
    constructor
    · intro hfirst
      have hqfirst : q.path = first.path := by
        rcases List.mem_cons.1 hq with rfl | hq
        · rfl
        · exact hfirst q hq
      exact ⟨hqfirst.symm, fun r hr => (hfirst r hr).trans hqfirst.symm⟩
    · rintro ⟨hfirst, hrest⟩ r hr
      exact (hrest r hr).trans hfirst.symm

/-- The name that tells a member apart by its parameters is counted again if another member
    has it. -/
theorem one_lt_count_pathName_iff (hq : q ∈ group) :
    1 < (group.map Proposal.pathName).count q.pathName ↔ ∃ r ∈ group.erase q, r.stem = q.stem := by
  have hperm := (List.perm_cons_erase hq).map Proposal.pathName
  rw [hperm.count_eq, List.map_cons, List.count_cons_self, Nat.lt_add_left_iff_pos,
    List.count_pos_iff, List.mem_map]
  simp only [pathName_eq_stem]

theorem distinctName_eq_policyName (hq : q ∈ proposals.filter p.competes)
    (hrivals : rivals proposals q ≠ [])
    (hpath : ¬ ∀ r ∈ rivals proposals q, r.path = q.path) :
    distinctName (proposals.filter p.competes) q = policyName proposals q := by
  rw [policyName, if_neg hrivals, if_neg hpath, distinctName, rivals_of_mem hq]
  simp only [one_lt_count_pathName_iff hq]
  rw [pathName_eq_stem]

/-- The names of a group are those by the rules, or these with numbers behind the repeated
    ones. -/
theorem groupNames_eq_or (p : Proposal) :
    let group := proposals.filter p.competes
    groupNames group = group.map (policyName proposals) ∨
      groupNames group = numberRepeats (group.map (policyName proposals)) := by
  intro group
  have hrivals {q : Proposal} (hq : q ∈ proposals.filter p.competes) := rivals_of_mem hq
  have hgroup : proposals.filter p.competes = group := rfl
  clear_value group
  rw [hgroup] at hrivals
  rw [groupNames.eq_def]
  split
  · next q =>
    have halone : rivals proposals q = [] := by
      rw [hrivals List.mem_cons_self, List.erase_cons_head]
    left
    rw [List.map_singleton, policyName, if_pos halone]
  · next hmany =>
    have hnotAlone {q : Proposal} (hq : q ∈ group) : rivals proposals q ≠ [] := by
      intro halone
      rw [hrivals hq] at halone
      have := List.perm_cons_erase hq
      rw [halone] at this
      exact hmany q (List.perm_singleton.1 this)
    split
    · next hpaths =>
      left
      refine List.map_congr_left fun q hq => ?_
      have hsame := (length_paths_le_one_iff hq).1 hpaths
      rw [policyName, if_neg (hnotAlone hq), hrivals hq, if_pos hsame]
    · next hpaths =>
      right
      refine congrArg numberRepeats (List.map_congr_left fun q hq => ?_)
      rw [← hgroup] at hq ⊢
      refine distinctName_eq_policyName hq (hnotAlone (hgroup ▸ hq)) fun hsame => hpaths ?_
      rw [← hgroup, length_paths_le_one_iff hq, ← rivals_of_mem hq]
      exact hsame

/-- **One group.**  If the names by the rules are distinct, they are those of the group. -/
theorem groupNames_eq_map
    (hnodup : ((proposals.filter p.competes).map (policyName proposals)).Nodup) :
    groupNames (proposals.filter p.competes) =
      (proposals.filter p.competes).map (policyName proposals) := by
  rcases groupNames_eq_or p with h | h
  · exact h
  · rw [h, numberRepeats_eq_self hnodup]

/-! ## All operations -/

/-- Every proposal has a leader. -/
theorem exists_mem_leaders (hp : p ∈ proposals) : ∃ leader ∈ leaders proposals, p.competes leader := by
  induction proposals with
  | nil => exact absurd hp List.not_mem_nil
  | cons first rest ih =>
    rw [leaders]
    by_cases hfirst : first.competes p = true
    · refine ⟨first, List.mem_cons_self, ?_⟩
      obtain ⟨hfolder, hbase⟩ := competes_iff.1 hfirst
      exact competes_iff.2 ⟨hfolder.symm, hbase.symm⟩
    · have hrest : p ∈ rest := by
        refine (List.mem_cons.1 hp).resolve_left ?_
        rintro rfl
        exact hfirst (competes_iff.2 ⟨rfl, rfl⟩)
      obtain ⟨leader, hleader, hcompetes⟩ := ih hrest
      refine ⟨leader, List.mem_cons_of_mem _ (List.mem_filter.2 ⟨hleader, ?_⟩), hcompetes⟩
      obtain ⟨hfolder, hbase⟩ := competes_iff.1 hcompetes
      have hother : ¬ first.competes leader = true := fun h =>
        hfirst (competes_iff.2 ⟨(competes_iff.1 h).1.trans hfolder.symm,
          (competes_iff.1 h).2.trans hbase.symm⟩)
      simpa using hother

/-- The table has the names of the group of every proposal. -/
theorem namesFor_groupTable (hp : p ∈ proposals) :
    (groupTable proposals).namesFor p = groupNames (proposals.filter p.competes) := by
  obtain ⟨leader, hleader, hcompetes⟩ := exists_mem_leaders hp
  rw [GroupTable.namesFor]
  generalize hfind : List.find? _ (groupTable proposals) = found
  cases found with
  | none =>
    have hrow := List.find?_eq_none.1 hfind _ (List.mem_map_of_mem hleader)
    exact absurd hcompetes hrow
  | some row =>
    obtain ⟨q, -, rfl⟩ := List.mem_map.1 (List.mem_of_find?_eq_some hfind)
    have hq : p.competes q = true := by simpa using List.find?_some hfind
    exact congrArg groupNames (filter_competes_eq hq)

/-- If the names of each group are made one by one, each member is dealt its own. -/
theorem deal_eq_map {table : GroupTable} {f : Proposal → String} :
    ∀ {rest before : List Proposal},
      (∀ p ∈ rest, table.namesFor p = ((before.reverse ++ rest).filter p.competes).map f) →
      deal table before rest = rest.map f
  | [], _, _ => rfl
  | p :: rest, before, h => by
    have hself : p.competes p = true := competes_iff.2 ⟨rfl, rfl⟩
    have hdealt : (table.namesFor p)[(before.filter p.competes).length]? = some (f p) := by
      rw [h p List.mem_cons_self, List.filter_append, List.filter_cons_of_pos hself,
        List.filter_reverse, List.map_append, List.getElem?_append_right (by simp)]
      simp
    rw [deal, hdealt, List.map_cons]
    refine congrArg _ (deal_eq_map fun q hq => ?_)
    rw [h q (List.mem_cons_of_mem _ hq), List.reverse_cons, List.append_assoc,
      List.singleton_append]

/-- **Names by the rules.**  If the names that the rules give are distinct, they are the
    names of the proposals, in order; and in any other order of the proposals each of them
    has the same name. -/
theorem resolve_eq_map_policyName (h : (proposals.map (policyName proposals)).Nodup) :
    resolve proposals = proposals.map (policyName proposals) ∧
      ∀ proposals', proposals.Perm proposals' →
        resolve proposals' = proposals'.map (policyName proposals) := by
  have hresolve {others : List Proposal} (hothers : (others.map (policyName others)).Nodup) :
      resolve others = others.map (policyName others) := by
    have hdeal : deal (groupTable others) [] others = others.map (policyName others) := by
      refine deal_eq_map fun p hp => ?_
      rw [namesFor_groupTable hp]
      exact groupNames_eq_map (hothers.sublist (List.filter_sublist.map _))
    rw [resolve, hdeal, numberRepeats_eq_self hothers]
  refine ⟨hresolve h, fun proposals' hperm => ?_⟩
  have hsame : policyName proposals' = policyName proposals := funext (policyName_perm hperm)
  rw [hresolve, hsame]
  rw [hsame]
  exact (hperm.map _).nodup_iff.1 h

/-- Users of three kinds: two operations of one path, one of a path with a parameter, and two
    operations of one path in a folder; and a list of teams. -/
def userProposals : List Proposal :=
  [⟨"users", "", "get", "/users"⟩, ⟨"users", "", "post", "/users"⟩,
    ⟨"users", "", "get", "/users/{id}"⟩, ⟨"api_users", "api", "get", "/api/users"⟩,
    ⟨"api_users", "api", "put", "/api/users"⟩, ⟨"teams", "", "get", "/teams"⟩]

/-- In the other direction they have the same names. -/
theorem resolve_eq_map_policyName_users :
    (userProposals.map (policyName userProposals)).Nodup ∧
      userProposals.Perm userProposals.reverse ∧
      resolve userProposals =
        ["users_get", "users_post", "users_by_id", "api_users_get", "api_users_put", "teams"] ∧
      resolve userProposals.reverse =
        ["teams", "api_users_put", "api_users_get", "users_by_id", "users_post", "users_get"] := by
  have hnames : userProposals.map (policyName userProposals) =
      ["users_get", "users_post", "users_by_id", "api_users_get", "api_users_put", "teams"] := by
    decide +kernel
  have hnodup : (userProposals.map (policyName userProposals)).Nodup := by
    rw [hnames]
    decide
  have hperm : userProposals.Perm userProposals.reverse := (List.reverse_perm _).symm
  obtain ⟨hresolve, hreversed⟩ := resolve_eq_map_policyName hnodup
  refine ⟨hnodup, hperm, hresolve.trans hnames, ?_⟩
  rw [hreversed _ hperm, List.map_reverse, hnames]
  rfl

end ApiTypes.Endpoint
