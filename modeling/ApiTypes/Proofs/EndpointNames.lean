/-
  Endpoint names are unique.

  * `ExtendsBy P base name`: a name is its base name, or the base name with an
    underscore and some text behind it that has the property `P`.  Each stage
    (method, parameters, number) keeps to this shape, so their composition does
    (`ExtendsBy.trans`), as long as `P` is kept when texts are joined
    (`Joinable`); `Extends base name` says nothing of the text;
  * `fresh_of_mem_numberFrom` is the invariant of the numbering: what it gives
    out is a name met for the first time, or one that was not taken.  From it
    the numbered names are pairwise distinct (`nodup_numberRepeats`);
  * `deal_extendsBy`: each proposal is dealt a name of its own group.
-/
import ApiTypes.Endpoint.Collision
import ApiTypes.Proofs.Steps

namespace ApiTypes.Endpoint

/-! ## Names on the base of others -/

/-- A name made from a base name by adding nothing, or an underscore and a text. -/
def Extends (base name : String) : Prop := name = base ∨ ∃ text, name = base ++ "_" ++ text

/-- A property of names that is kept when names and what tells them apart are joined
    by an underscore. -/
structure Joinable (P : String → Prop) : Prop where
  join : ∀ {a b : String}, P a → P b → P (a ++ "_" ++ b)
  number : ∀ n : Nat, P (toString n)

/-- A name made from a base name by adding nothing, or an underscore and a text with a
    property. -/
def ExtendsBy (P : String → Prop) (base name : String) : Prop :=
  name = base ∨ ∃ text, P text ∧ name = base ++ "_" ++ text

section

variable {P : String → Prop} {a b c : String}

theorem ExtendsBy.refl (base : String) : ExtendsBy P base base := Or.inl rfl

theorem ExtendsBy.suffix (base : String) {text : String} (h : P text) :
    ExtendsBy P base (base ++ "_" ++ text) := Or.inr ⟨text, h, rfl⟩

theorem ExtendsBy.trans (hP : Joinable P) (hab : ExtendsBy P a b) (hbc : ExtendsBy P b c) :
    ExtendsBy P a c := by
  rcases hbc with rfl | ⟨text', htext', rfl⟩
  · exact hab
  · rcases hab with rfl | ⟨text, htext, rfl⟩
    · exact .suffix b htext'
    · refine Or.inr ⟨text ++ "_" ++ text', hP.join htext htext', ?_⟩
      simp only [String.append_assoc]

theorem ExtendsBy.toExtends (h : ExtendsBy P a b) : Extends a b :=
  h.imp_right fun ⟨text, _, heq⟩ => ⟨text, heq⟩

/-- A name has a property if its base name has it too. -/
theorem ExtendsBy.of_base (hP : Joinable P) (h : ExtendsBy P a b) (ha : P a) : P b := by
  rcases h with rfl | ⟨text, htext, rfl⟩
  · exact ha
  · exact hP.join ha htext

theorem numbered_extendsBy (hP : Joinable P) (name : String) (n : Nat) :
    ExtendsBy P name (numbered name n) := .suffix name (hP.number n)

end

/-! ## Numbering -/

theorem numberFrom_extendsBy {P : String → Prop} (hP : Joinable P) :
    ∀ (names taken : List String) (used : List (String × Nat)),
      List.Forall₂ (ExtendsBy P) names (numberFrom taken used names)
  | [], _, _ => .nil
  | name :: rest, taken, used => by
    rw [numberFrom]
    cases used.lookup name with
    | none => exact .cons (.refl name) (numberFrom_extendsBy hP rest _ _)
    | some last => exact .cons (numbered_extendsBy hP name _) (numberFrom_extendsBy hP rest _ _)

theorem lookup_cons_eq_none_iff {x name : String} {n : Nat} {used : List (String × Nat)} :
    ((name, n) :: used).lookup x = none ↔ x ≠ name ∧ used.lookup x = none := by
  rw [List.lookup_cons]
  by_cases hx : x = name
  · simp [hx]
  · simp [hx, beq_false_of_ne hx]

/-- **The invariant of the numbering.**  A name that is given out comes from the
    list and has not been used before, or it was not taken. -/
theorem fresh_of_mem_numberFrom {x : String} : ∀ {names taken : List String}
    {used : List (String × Nat)}, x ∈ numberFrom taken used names →
      (x ∈ names ∧ used.lookup x = none) ∨ x ∉ taken
  | [], _, _, h => by simp [numberFrom] at h
  | name :: rest, taken, used, h => by
    rw [numberFrom] at h
    cases hu : used.lookup name with
    | none =>
      simp only [hu, List.mem_cons] at h
      rcases h with rfl | h
      · exact Or.inl ⟨List.mem_cons_self, hu⟩
      · rcases fresh_of_mem_numberFrom h with ⟨hx, hfree⟩ | hx
        · exact Or.inl ⟨List.mem_cons_of_mem _ hx, (lookup_cons_eq_none_iff.1 hfree).2⟩
        · exact Or.inr hx
    | some last =>
      simp only [hu, List.mem_cons] at h
      rcases h with rfl | h
      · exact Or.inr (numbered_freeNumber_not_mem taken name (last + 1))
      · rcases fresh_of_mem_numberFrom h with ⟨hx, hfree⟩ | hx
        · exact Or.inl ⟨List.mem_cons_of_mem _ hx, (lookup_cons_eq_none_iff.1 hfree).2⟩
        · exact Or.inr fun ht => hx (List.mem_cons_of_mem _ ht)

/-- Numbered names are distinct from each other as long as the names themselves
    count as taken. -/
theorem nodup_numberFrom : ∀ {names taken : List String} (used : List (String × Nat)),
    names ⊆ taken → (numberFrom taken used names).Nodup
  | [], _, _, _ => by simp [numberFrom]
  | name :: rest, taken, used, hsub => by
    obtain ⟨hname, hrest⟩ := List.cons_subset.1 hsub
    rw [numberFrom]
    cases used.lookup name with
    | none =>
      refine List.nodup_cons.2 ⟨fun hmem => ?_, nodup_numberFrom _ hrest⟩
      rcases fresh_of_mem_numberFrom hmem with ⟨-, hfree⟩ | hx
      · simp at hfree
      · exact hx hname
    | some last =>
      have hnew := numbered_freeNumber_not_mem taken name (last + 1)
      refine List.nodup_cons.2 ⟨fun hmem => ?_,
        nodup_numberFrom _ fun x hx => List.mem_cons_of_mem _ (hrest hx)⟩
      rcases fresh_of_mem_numberFrom hmem with ⟨hx, -⟩ | hx
      · exact hnew (hrest hx)
      · exact hx List.mem_cons_self

theorem nodup_numberRepeats (names : List String) : (numberRepeats names).Nodup :=
  nodup_numberFrom [] fun _ h => h

/-! ## Groups -/

section

variable {P : String → Prop} {p : Proposal} {group proposals : List Proposal}

/-- What tells a proposal apart from others has a property. -/
def Proposal.Adds (P : String → Prop) (p : Proposal) : Prop :=
  P p.method ∧ P (Naming.parameterSuffix (placeholders p.path))

theorem pathName_extendsBy (h : p.Adds P) : ExtendsBy P p.baseName p.pathName := by
  rw [Proposal.pathName]
  split
  · exact .refl _
  · exact .suffix _ h.2

theorem distinctName_extendsBy (hP : Joinable P) (h : p.Adds P) (group : List Proposal) :
    ExtendsBy P p.baseName (distinctName group p) := by
  rw [distinctName]
  split
  · exact (pathName_extendsBy h).trans hP (.suffix _ h.1)
  · exact pathName_extendsBy h

/-- Extending names that extend base names extends the base names. -/
theorem extendsBy_of_forall₂ (hP : Joinable P) {names names' : List String}
    (h : List.Forall₂ (fun p name => ExtendsBy P p.baseName name) proposals names)
    (h' : List.Forall₂ (ExtendsBy P) names names') :
    List.Forall₂ (fun p name => ExtendsBy P p.baseName name) proposals names' :=
  (Steps.forall₂_trans h h').imp fun _ _ ⟨_, hp, hname⟩ => hp.trans hP hname

theorem groupNames_extendsBy (hP : Joinable P) (h : ∀ p ∈ group, p.Adds P) :
    List.Forall₂ (fun p name => ExtendsBy P p.baseName name) group (groupNames group) := by
  rw [groupNames.eq_def]
  split
  · next p => exact .cons (.refl _) .nil
  · split
    · rw [List.forall₂_map_right_iff]
      exact List.forall₂_same.2 fun p hp => .suffix _ (h p hp).1
    · -- the base of a numbered name is the name that was numbered
      refine extendsBy_of_forall₂ hP ?_ (numberFrom_extendsBy hP _ _ [])
      rw [List.forall₂_map_right_iff]
      exact List.forall₂_same.2 fun p hp => distinctName_extendsBy hP (h p hp) _

theorem competes_iff {p q : Proposal} :
    p.competes q = true ↔ p.folder = q.folder ∧ p.baseName = q.baseName := by
  simp [Proposal.competes]

/-- The names of the group of a proposal extend its base name. -/
theorem extendsBy_of_mem_namesFor (hP : Joinable P) (hall : ∀ p ∈ proposals, p.Adds P)
    {name : String} (h : name ∈ (groupTable proposals).namesFor p) :
    ExtendsBy P p.baseName name := by
  rw [GroupTable.namesFor] at h
  generalize hfind : List.find? _ (groupTable proposals) = found at h
  cases found with
  | none => exact absurd h List.not_mem_nil
  | some row =>
    obtain ⟨leader, -, rfl⟩ := List.mem_map.1 (List.mem_of_find?_eq_some hfind)
    have hfound : p.competes leader = true := by simpa using List.find?_some hfind
    have hleader := (competes_iff.1 hfound).2
    have hnames := groupNames_extendsBy hP fun q (hq : q ∈ proposals.filter leader.competes) =>
      hall q (List.mem_filter.1 hq).1
    obtain ⟨q, hq, hext⟩ := Steps.exists_mem_of_forall₂_right hnames h
    have hbase := (competes_iff.1 (List.mem_filter.1 hq).2).2
    rwa [hleader, hbase]

/-! ## All operations -/

theorem deal_extendsBy (hP : Joinable P) (hall : ∀ p ∈ proposals, p.Adds P) :
    ∀ rest before : List Proposal,
      List.Forall₂ (fun p name => ExtendsBy P p.baseName name) rest
        (deal (groupTable proposals) before rest)
  | [], _ => .nil
  | p :: rest, before => by
    rw [deal]
    refine .cons ?_ (deal_extendsBy hP hall rest _)
    cases hname : ((groupTable proposals).namesFor p)[(before.filter p.competes).length]? with
    | none => exact .refl _
    | some name => exact extendsBy_of_mem_namesFor hP hall (List.mem_of_getElem? hname)

/-- **Names extend base names**, by texts that have a property if methods, parameters and
    numbers have it and it is kept when they are joined. -/
theorem resolve_extendsBy (hP : Joinable P) (hall : ∀ p ∈ proposals, p.Adds P) :
    List.Forall₂ (fun p name => ExtendsBy P p.baseName name) proposals (resolve proposals) :=
  extendsBy_of_forall₂ hP (deal_extendsBy hP hall proposals []) (numberFrom_extendsBy hP _ _ [])

end

theorem resolve_extends (proposals : List Proposal) :
    List.Forall₂ (fun p name => Extends p.baseName name) proposals (resolve proposals) := by
  have hP : Joinable fun _ => True := ⟨fun _ _ => trivial, fun _ => trivial⟩
  exact (resolve_extendsBy hP fun _ _ => ⟨trivial, trivial⟩).imp fun _ _ h => h.toExtends

theorem nodup_resolve (proposals : List Proposal) : (resolve proposals).Nodup :=
  nodup_numberRepeats _

theorem length_resolve (proposals : List Proposal) :
    (resolve proposals).length = proposals.length :=
  (resolve_extends proposals).length_eq.symm

/-- **Names are unique.**  There is one name for each proposal, in order; no two
    are equal, whatever their folders; and each is the base name of its
    proposal, with or without an underscore and more behind it. -/
theorem resolve_unique (proposals : List Proposal) :
    (resolve proposals).length = proposals.length ∧ (resolve proposals).Nodup ∧
      List.Forall₂ (fun p name => name = p.baseName ∨ ∃ text, name = p.baseName ++ "_" ++ text)
        proposals (resolve proposals) :=
  ⟨length_resolve proposals, nodup_resolve proposals, resolve_extends proposals⟩

end ApiTypes.Endpoint
