/-
  Making endpoint names unique.

  Operations that propose the same base name in the same folder form a group.

  * An operation alone in its group keeps the base name;
  * operations of one path are told apart by their method;
  * operations of different paths are told apart by the parameters of their path
    (`pathName`), those still alike by their method too (`distinctName`), and
    those alike even then by a number.

  Names of different folders share one space, so a last numbering goes over all
  of them (`resolve`). `numberRepeats` numbers a list of names: the first of
  equal names stays, the others get the next number that makes a new name.
-/
import ApiTypes.Naming

namespace ApiTypes.Endpoint

/-- What an operation brings along for its name. -/
structure Proposal where
  baseName : String
  folder : String
  method : String
  path : String
  deriving DecidableEq, Repr

/-- Two proposals compete when they share folder and base name. -/
def Proposal.competes (p q : Proposal) : Bool :=
  p.folder == q.folder && p.baseName == q.baseName

/-! ## Numbers -/

/-- A name with a number behind it. -/
def numbered (name : String) (n : Nat) : String := name ++ "_" ++ toString n

/-- The first number from `start` on that makes a name that is not taken. One of
the first `taken.length + 1` numbers does. -/
def freeNumber (taken : List String) (name : String) (start : Nat) : Nat :=
  ((List.range' start (taken.length + 1)).find? fun n => numbered name n ∉ taken).getD start

/-- Different numbers make different names. -/
theorem numbered_injective {name : String} {m n : Nat} (h : numbered name m = numbered name n) :
    m = n := by
  have htext : toString m = toString n := (String.append_right_inj (name ++ "_")).1 h
  have hdigits : Nat.toDigits 10 m = Nat.toDigits 10 n := by
    simpa only [Nat.toString_eq_repr, Nat.toList_repr] using congrArg String.toList htext
  rw [← Nat.ofDigitChars_ten_toDigits (n := m), hdigits, Nat.ofDigitChars_ten_toDigits]

/-- Of one number more than there are taken names, one makes a new name. -/
theorem exists_numbered_not_mem (taken : List String) (name : String) (start : Nat) :
    ∃ n ∈ List.range' start (taken.length + 1), numbered name n ∉ taken := by
  refine Classical.byContradiction fun hall => ?_
  have hsub : (List.range' start (taken.length + 1)).map (numbered name) ⊆ taken := by
    intro candidate hmem
    obtain ⟨n, hn, rfl⟩ := List.mem_map.1 hmem
    exact Classical.byContradiction fun hfree => hall ⟨n, hn, hfree⟩
  have hnodup : ((List.range' start (taken.length + 1)).map (numbered name)).Nodup :=
    List.Pairwise.map _ (fun m n hne heq => hne (numbered_injective heq)) List.nodup_range'
  have := hnodup.length_le_of_subset hsub
  simp only [List.length_map, List.length_range'] at this
  omega

/-- The search for a free number succeeds. -/
theorem find?_numbered_eq_some (taken : List String) (name : String) (start : Nat) :
    (List.range' start (taken.length + 1)).find? (fun n => numbered name n ∉ taken) =
      some (freeNumber taken name start) := by
  obtain ⟨n, hn, hfree⟩ := exists_numbered_not_mem taken name start
  rw [freeNumber]
  cases hfind : (List.range' start (taken.length + 1)).find? fun n => numbered name n ∉ taken with
  | none => exact absurd hfree (by simpa using List.find?_eq_none.1 hfind n hn)
  | some m => rfl

/-- The free number makes a name that is not taken. -/
theorem numbered_freeNumber_not_mem (taken : List String) (name : String) (start : Nat) :
    numbered name (freeNumber taken name start) ∉ taken := by
  simpa using List.find?_some (find?_numbered_eq_some taken name start)

/-- The free number is one from `start` on. -/
theorem le_freeNumber (taken : List String) (name : String) (start : Nat) :
    start ≤ freeNumber taken name start :=
  (List.mem_range'_1.1 (List.mem_of_find?_eq_some (find?_numbered_eq_some taken name start))).1

/-- Numbers the repeated ones among `names`. `taken` holds the names that cannot be
given any more, `used` the last number of each name met so far. -/
def numberFrom (taken : List String) (used : List (String × Nat)) : List String → List String
  | [] => []
  | name :: rest =>
    match used.lookup name with
    | none => name :: numberFrom taken ((name, 1) :: used) rest
    | some last =>
      let n := freeNumber taken name (last + 1)
      numbered name n :: numberFrom (numbered name n :: taken) ((name, n) :: used) rest

/-- The names with numbers behind those that have come before. -/
def numberRepeats (names : List String) : List String := numberFrom names [] names

/-! ## Groups -/

/-- The base name with the parameters of the path. -/
def Proposal.pathName (p : Proposal) : String :=
  match Naming.parameterSuffix (placeholders p.path) with
  | "" => p.baseName
  | suffix => p.baseName ++ "_" ++ suffix

/-- The name of a member of a group with different paths: by parameters, and by
method too if another member has the same parameters. -/
def distinctName (group : List Proposal) (p : Proposal) : String :=
  if 1 < (group.map Proposal.pathName).count p.pathName then p.pathName ++ "_" ++ p.method
  else p.pathName

/-- The names of the members of a group, in order. -/
def groupNames (group : List Proposal) : List String :=
  match group with
  | [p] => [p.baseName]
  | group =>
    if (group.map Proposal.path).eraseDups.length ≤ 1 then
      group.map fun p => p.baseName ++ "_" ++ p.method
    else numberRepeats (group.map (distinctName group))

/-! ## All operations -/

/-- One proposal of each group. -/
def leaders : List Proposal → List Proposal
  | [] => []
  | p :: rest => p :: (leaders rest).filter (!p.competes ·)

/-- The names of the members of each group, under one of its proposals. -/
abbrev GroupTable := List (Proposal × List String)

/-- The names of all groups. -/
def groupTable (proposals : List Proposal) : GroupTable :=
  (leaders proposals).map fun p => (p, groupNames (proposals.filter p.competes))

/-- The names of the group that a proposal belongs to. -/
def GroupTable.namesFor (table : GroupTable) (p : Proposal) : List String :=
  ((table.find? fun (q, _) => p.competes q).map (·.2)).getD []

/-- Hands the names of the groups out: each proposal takes the next name of its
group. `before` holds the proposals already served. -/
def deal (table : GroupTable) (before : List Proposal) : List Proposal → List String
  | [] => []
  | p :: rest =>
    ((table.namesFor p)[(before.filter p.competes).length]?).getD p.baseName ::
      deal table (p :: before) rest

/-- A unique name for each proposal, in order. -/
def resolve (proposals : List Proposal) : List String :=
  numberRepeats (deal (groupTable proposals) [] proposals)

end ApiTypes.Endpoint
