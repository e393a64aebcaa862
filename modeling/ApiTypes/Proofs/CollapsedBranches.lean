/-
  Branches that collapse to a name.

  Branches that are references of one name, apart from schemas that say nothing, are written as
  that name; all others are written as a union or an intersection in parentheses.

  * `SaysNothing`: a schema says nothing by the keywords that it has, whatever their values
    (`isEmptySchema_iff`);
  * `Collapses`: what branches have to be; this is what the scan finds (`collapses_iff`);
  * `Rearranged`: branches in another order, with references repeated, and with schemas that say
    nothing put in or taken out.  Apart from the latter the members stay
    (`Rearranged.mem_iff`), and with them the name (`Collapses.rearranged`);
  * `FirstBranches`: the keyword whose branches count (`FirstBranches.branches?_eq`);
  * `Scope.typeOf_branches_iff`: hence what a schema with branches is written as, and that the
    branches are not looked at when they collapse.
-/
import ApiTypes.Proofs.Circles
import ApiTypes.Proofs.NestedTypes
import ApiTypes.Proofs.ReferenceNames
import ApiTypes.Proofs.SchemaRules

namespace ApiTypes

open Json (Value given?)

/-! ## Schemas that say nothing -/

/-- A schema that says nothing about its values: an object of its own with no type but null, and
    without a keyword that gives a form. -/
structure SaysNothing (schema : Value) : Prop where
  own : reference? schema = none
  object : ∃ fields, schema = .obj fields
  typeless : ∀ type, schema.field? "type" = some type → type = .null ∨ type = .str "null"
  formless : ∀ key ∈ formKeys, schema.field? key = none

theorem isEmptySchema_iff {schema : Value} : isEmptySchema schema = true ↔ SaysNothing schema := by
  constructor
  · intro h
    unfold isEmptySchema at h
    split at h
    · next fields hown =>
      obtain ⟨htype, hform⟩ := Bool.and_eq_true_iff.1 h
      refine ⟨hown, ⟨fields, rfl⟩, fun type hget => ?_, fun key hkey => ?_⟩
      · change Entries.get? fields "type" = some type at hget
        rw [hget] at htype
        split at htype
        · next heq => cases heq
        · next heq => exact Or.inl (Option.some.inj heq)
        · next s heq =>
          obtain rfl := eq_of_beq htype
          exact Or.inr (Option.some.inj heq)
        · cases htype
      · have hnot : ¬ Entries.has fields key = true := by
          simpa using List.any_eq_false.1 (Bool.not_eq_true' _ ▸ hform) key hkey
        exact Option.not_isSome_iff_eq_none.1 hnot
    · cases h
  · rintro ⟨hown, ⟨fields, rfl⟩, htype, hform⟩
    have hkeys : formKeys.any (Entries.has fields) = false := by
      refine List.any_eq_false.2 fun key hkey => ?_
      have hnone : Entries.get? fields key = none := hform key hkey
      rw [Entries.has, hnone]
      nofun
    have hfield : Value.field? (.obj fields) "type" = Entries.get? fields "type" := rfl
    unfold isEmptySchema
    rw [hown]
    dsimp only
    rw [hkeys, ← hfield]
    cases hget : Value.field? (.obj fields) "type" with
    | none => rfl
    | some type =>
      rcases htype type hget with rfl | rfl
      · rfl
      · rfl

theorem not_saysNothing_of_reference {b : Value} {reference : String}
    (h : reference? b = some reference) : ¬ SaysNothing b := fun hnothing => by
  cases h.symm.trans hnothing.own

/-! ## What collapses -/

/-- Branches collapse to a name: there is a reference among them, all references have this name,
    which is not empty, and whatever else is there says nothing. -/
structure Collapses (branches : List Value) (name : String) : Prop where
  named : name ≠ ""
  referring : ∃ b ∈ branches, ∃ reference, reference? b = some reference
  alike : ∀ b ∈ branches, ∀ reference, reference? b = some reference →
    Reference.name reference = name
  rest : ∀ b ∈ branches, reference? b = none → SaysNothing b

/-- **The scan** finds a name that is not empty if and only if the branches collapse to it. -/
theorem collapses_iff {branches : List Value} {name : String} :
    Collapses branches name ↔ collapsed? branches = some name ∧ name ≠ "" := by
  constructor
  · intro h
    refine ⟨?_, h.named⟩
    have hall : (branches.all fun b => (reference? b).isSome || isEmptySchema b) = true := by
      refine List.all_eq_true.2 fun b hb => ?_
      cases href : reference? b with
      | some reference => rfl
      | none => exact isEmptySchema_iff.2 (h.rest b hb href)
    have hname : ∀ n ∈ (branches.filterMap reference?).map Reference.name, n = name := by
      intro n hn
      obtain ⟨reference, hreference, rfl⟩ := List.mem_map.1 hn
      obtain ⟨b, hb, href⟩ := List.mem_filterMap.1 hreference
      exact h.alike b hb reference href
    obtain ⟨b, hb, reference, href⟩ := h.referring
    have hmem := List.mem_map_of_mem (f := Reference.name) (List.mem_filterMap.2 ⟨b, hb, href⟩)
    rw [collapsed?, if_pos hall]
    cases hnames : (branches.filterMap reference?).map Reference.name with
    | nil =>
      rw [hnames] at hmem
      cases hmem
    | cons first rest =>
      rw [hnames] at hname
      obtain ⟨rfl, hrest⟩ := List.forall_mem_cons.1 hname
      exact if_pos (List.all_eq_true.2 fun n hn => decide_eq_true (hrest n hn))
  · rintro ⟨h, hnamed⟩
    obtain ⟨b, hb, reference, href, -⟩ := exists_reference_of_collapsed? h
    refine ⟨hnamed, ⟨b, hb, reference, href⟩, fun c hc r hr => ?_, fun c hc hr => ?_⟩
    · exact (eq_name_of_collapsed? hc hr h).symm
    · rw [collapsed?] at h
      split at h
      · next hall =>
        have hempty := List.all_eq_true.1 hall c hc
        rw [hr] at hempty
        exact isEmptySchema_iff.1 hempty
      · cases h

/-! ## Other branches that collapse alike -/

/-- Branches in another order, with references repeated, and with schemas that say nothing put in
    or taken out, at any place. -/
inductive Rearranged : List Value → List Value → Prop
  | order {branches branches'} : branches.Perm branches' → Rearranged branches branches'
  | again {before after b reference} : reference? b = some reference → b ∈ before ++ after →
      Rearranged (before ++ after) (before ++ b :: after)
  | putIn {before after b} : SaysNothing b → Rearranged (before ++ after) (before ++ b :: after)
  | takeOut {before after b} : SaysNothing b →
      Rearranged (before ++ b :: after) (before ++ after)
  | trans {branches between branches'} : Rearranged branches between →
      Rearranged between branches' → Rearranged branches branches'

section

variable {branches branches' : List Value} {b : Value} {name : String}

/-- **The members** stay, apart from those that say nothing: by induction on the changes. -/
theorem Rearranged.mem_iff (h : Rearranged branches branches') (hb : ¬ SaysNothing b) :
    b ∈ branches ↔ b ∈ branches' := by
  induction h with
  | order hperm => exact hperm.mem_iff
  | @again before after c reference hreference hmem =>
    rw [List.mem_append, List.mem_append, List.mem_cons]
    constructor
    · rintro (h | h)
      · exact Or.inl h
      · exact Or.inr (Or.inr h)
    · rintro (h | rfl | h)
      · exact Or.inl h
      · exact List.mem_append.1 hmem
      · exact Or.inr h
  | @putIn before after c hnothing =>
    have hne : b ≠ c := fun heq => hb (heq ▸ hnothing)
    simp [hne]
  | @takeOut before after c hnothing =>
    have hne : b ≠ c := fun heq => hb (heq ▸ hnothing)
    simp [hne]
  | trans _ _ ih ih' => exact ih.trans ih'

/-- The name that branches collapse to is one only. -/
theorem Collapses.eq_iff {other : String} (h : Collapses branches name) :
    name = other ↔ Collapses branches other := by
  constructor
  · rintro rfl
    exact h
  · intro hother
    obtain ⟨b, hb, reference, hreference⟩ := h.referring
    exact (h.alike b hb reference hreference).symm.trans (hother.alike b hb reference hreference)

theorem Collapses.ne_nil (h : Collapses branches name) : branches ≠ [] := by
  obtain ⟨b, hb, -⟩ := h.referring
  exact List.ne_nil_of_mem hb

theorem Collapses.rearranged (h : Collapses branches name) (hall : Rearranged branches branches') :
    Collapses branches' name := by
  obtain ⟨b, hb, reference, hreference⟩ := h.referring
  refine ⟨h.named, ⟨b, ?_, reference, hreference⟩, fun c hc r hr => ?_, fun c hc hr => ?_⟩
  · exact (hall.mem_iff (not_saysNothing_of_reference hreference)).1 hb
  · exact h.alike c ((hall.mem_iff (not_saysNothing_of_reference hr)).2 hc) r hr
  -- What is new and no reference has been put in; all else was there before.
  · by_contra hnothing
    exact hnothing (h.rest c ((hall.mem_iff hnothing).2 hc) hr)

end

/-! ## The keyword that counts -/

/-- The value of a keyword is a list with these branches, of which there are some. -/
def HasBranches (fields : List (String × Value)) (key : String) (branches : List Value) : Prop :=
  branches ≠ [] ∧ Entries.get? fields key = some (.arr branches)

/-- The first of the keywords `oneOf`, `anyOf` and `allOf` that has branches, and these. -/
inductive FirstBranches (fields : List (String × Value)) :
    String → Combination → List Value → Prop
  | oneOf {branches} : HasBranches fields "oneOf" branches →
      FirstBranches fields "oneOf" .union branches
  | anyOf {branches} : (∀ others, ¬ HasBranches fields "oneOf" others) →
      HasBranches fields "anyOf" branches → FirstBranches fields "anyOf" .union branches
  | allOf {branches} : (∀ others, ¬ HasBranches fields "oneOf" others) →
      (∀ others, ¬ HasBranches fields "anyOf" others) → HasBranches fields "allOf" branches →
      FirstBranches fields "allOf" .intersection branches

section

variable {fields : List (String × Value)} {key : String} {combination : Combination}
  {branches branches' : List Value}

/-- The branches under a keyword, with the way in which they are combined. -/
def branchesUnder? (fields : List (String × Value)) :
    String × Combination → Option (Combination × List Value)
  | (key, combination) =>
    match Entries.get? fields key with
    | some (.arr (b :: rest)) => some (combination, b :: rest)
    | _ => none

theorem branches?_eq_findSome? : branches? fields =
    [("oneOf", Combination.union), ("anyOf", .union), ("allOf", .intersection)].findSome?
      (branchesUnder? fields) := rfl

theorem branchesUnder?_of_hasBranches (h : HasBranches fields key branches) :
    branchesUnder? fields (key, combination) = some (combination, branches) := by
  obtain ⟨hne, hget⟩ := h
  obtain ⟨b, rest, rfl⟩ := List.exists_cons_of_ne_nil hne
  rw [branchesUnder?, hget]

theorem branchesUnder?_eq_none (h : ∀ others, ¬ HasBranches fields key others) :
    branchesUnder? fields (key, combination) = none := by
  rw [branchesUnder?]
  split
  · next b rest hget => exact absurd ⟨List.cons_ne_nil b rest, hget⟩ (h _)
  · rfl

theorem FirstBranches.branches?_eq (h : FirstBranches fields key combination branches) :
    branches? fields = some (combination, branches) := by
  rw [branches?_eq_findSome?, List.findSome?_cons]
  cases h with
  | oneOf h => rw [branchesUnder?_of_hasBranches h]
  | anyOf hone h =>
    rw [branchesUnder?_eq_none hone, List.findSome?_cons, branchesUnder?_of_hasBranches h]
  | allOf hone hany h =>
    rw [branchesUnder?_eq_none hone, List.findSome?_cons, branchesUnder?_eq_none hany,
      List.findSome?_cons, branchesUnder?_of_hasBranches h]

theorem FirstBranches.ne_nil (h : FirstBranches fields key combination branches) :
    branches ≠ [] := by
  cases h with
  | oneOf h => exact h.1
  | anyOf _ h => exact h.1
  | allOf _ _ h => exact h.1

/-- Other branches under the keyword count as well, if there are some. -/
theorem FirstBranches.set (h : FirstBranches fields key combination branches)
    (hne : branches' ≠ []) :
    FirstBranches (Entries.set fields key (.arr branches')) key combination branches' := by
  have hself : HasBranches (Entries.set fields key (.arr branches')) key branches' :=
    ⟨hne, Entries.get?_set_self _ _ _⟩
  have hother {other : String} (hkey : key ≠ other)
      (hnone : ∀ others, ¬ HasBranches fields other others) (others : List Value) :
      ¬ HasBranches (Entries.set fields key (.arr branches')) other others := by
    rw [HasBranches, Entries.get?_set_of_ne hkey]
    exact hnone others
  cases h with
  | oneOf => exact .oneOf hself
  | anyOf hone => exact .anyOf (hother (by decide) hone) hself
  | allOf hone hany => exact .allOf (hother (by decide) hone) (hother (by decide) hany) hself

theorem FirstBranches.get?_set_of_ne (h : FirstBranches fields key combination branches)
    (v : Value) {other : String} (hother : other ∉ ["oneOf", "anyOf", "allOf"]) :
    Entries.get? (Entries.set fields key v) other = Entries.get? fields other := by
  refine Entries.get?_set_of_ne fun hkey => hother (hkey ▸ ?_)
  cases h <;> decide

end

/-! ## Schemas with branches -/

/-- What stands between the types of branches. -/
def Combination.operator : Combination → String
  | union => " | "
  | intersection => " & "

theorem Combination.text_combine (combination : Combination) (types : List TypeExpr) :
    (combination.combine types).text =
      "(" ++ Text.join combination.operator (types.map TypeExpr.text) ++ ")" := by
  rw [← TypeExpr.texts_eq_map]
  cases combination <;> rfl

theorem Combination.combine_ne_named (combination : Combination) (types : List TypeExpr)
    (name : String) : combination.combine types ≠ .named name := by
  cases combination <;> nofun

namespace Scope

variable {scope : Scope} {visiting : List String} {fields : List (String × Value)}
  {combination : Combination} {branches : List Value} {name key : String}

theorem typesOf_result_eq_ok {schemas : List Value} {types : List TypeExpr} :
    (scope.typesOf visiting schemas).result = .ok types ↔
      List.Forall₂ (fun s t => (scope.typeOf visiting s).result = .ok t) schemas types := by
  refine ⟨typesOf_forall₂, fun h => ?_⟩
  induction h with
  | nil => rw [typesOf]; rfl
  | cons htype _ ih =>
    rw [typesOf, Outcome.bind_result_eq_ok]
    exact ⟨_, htype, Outcome.bind_result_eq_ok.2 ⟨_, ih, rfl⟩⟩

section

variable {m : Type → Type} [Monad m] [MonadLiftT Outcome m]

/-- Branches that collapse are written as the name, without a call. -/
theorem fieldsWith_of_collapses (call : Value → m TypeExpr)
    (hb : branches? fields = some (combination, branches)) (h : Collapses branches name) :
    scope.fieldsWith call fields = pure (.named name) := by
  obtain ⟨hcollapsed, hnamed⟩ := collapses_iff.1 h
  rw [fieldsWith, hb]
  dsimp only
  rw [hcollapsed]
  exact if_pos hnamed

/-- All others are combined, with a call for each. -/
theorem fieldsWith_of_not_collapses (call : Value → m TypeExpr)
    (hb : branches? fields = some (combination, branches))
    (h : ∀ name, ¬ Collapses branches name) :
    scope.fieldsWith call fields = combinationWith call combination branches := by
  rw [fieldsWith, hb]
  dsimp only
  split
  · next name hcollapsed => exact if_neg fun hnamed => h name (collapses_iff.2 ⟨hcollapsed, hnamed⟩)
  · rfl

end

/-- The first branch asks for a call, which is one too many for calls that may not nest. -/
theorem combinationWith_run_zero (hne : branches ≠ []) :
    combinationWith (scope.run 0 visiting) combination branches = .deeper := by
  obtain ⟨b, rest, rfl⟩ := List.exists_cons_of_ne_nil hne
  rfl

section

variable (href : reference? (.obj fields) = none)
  (hnull : ¬ (given? (Entries.get? fields "nullable")).isSome = true)
  (hfirst : FirstBranches fields key combination branches)

include href hnull hfirst

theorem run_of_collapses (h : Collapses branches name) :
    scope.run 1 visiting (.obj fields) = .ended (pure (.named name)) [] := by
  rw [run_fields href hnull, fieldsWith_of_collapses _ hfirst.branches?_eq h]
  rfl

theorem typeOf_of_collapses (h : Collapses branches name) :
    scope.typeOf visiting (.obj fields) = pure (.named name) := by
  rw [typeOf_fields href hnull, typeOfFields_eq, fieldsWith_of_collapses _ hfirst.branches?_eq h]

theorem run_of_not_collapses (h : ∀ name, ¬ Collapses branches name) :
    scope.run 1 visiting (.obj fields) = .deeper := by
  rw [run_fields href hnull, fieldsWith_of_not_collapses _ hfirst.branches?_eq h,
    combinationWith_run_zero hfirst.ne_nil]

theorem typeOf_of_not_collapses (h : ∀ name, ¬ Collapses branches name) {type : TypeExpr} :
    (scope.typeOf visiting (.obj fields)).result = .ok type ↔
      ∃ types, List.Forall₂ (fun b t => (scope.typeOf visiting b).result = .ok t)
        branches types ∧ combination.combine types = type := by
  have hnone : ∀ name, collapsed? branches = some name → name = "" := fun name hcollapsed =>
    by_contra fun hnamed => h name (collapses_iff.2 ⟨hcollapsed, hnamed⟩)
  rw [typeOf_fields href hnull, typeOfFields_branches hfirst.branches?_eq hnone,
    Outcome.map_result_eq_ok]
  simp only [typesOf_result_eq_ok]

end

/-- **Branches.**  For every scope and every schema that is no reference, may not be null and has
    branches under one of the keywords, the first of which counts: the schema is written as a bare
    name, without a call for another schema, if and only if the branches collapse to that name;
    this is so for the branches in any order, with references repeated, and with schemas that say
    nothing put in or taken out.  If they do not collapse, the schema has a type if and only if
    each branch has one, and it is written as these, one for each branch and in their order, with
    the operator between them and in parentheses. -/
theorem typeOf_branches_iff (scope : Scope) (visiting : List String)
    (href : reference? (.obj fields) = none)
    (hnull : ¬ (given? (Entries.get? fields "nullable")).isSome = true)
    (hfirst : FirstBranches fields key combination branches) :
    (∀ name, scope.run 1 visiting (.obj fields) = .ended (pure (.named name)) [] ↔
      Collapses branches name) ∧
    (∀ name, (scope.typeOf visiting (.obj fields)).result = .ok (.named name) ↔
      Collapses branches name) ∧
    (∀ name branches', Collapses branches name → Rearranged branches branches' →
      scope.typeOf visiting (.obj (Entries.set fields key (.arr branches'))) =
        scope.typeOf visiting (.obj fields)) ∧
    ((∀ name, ¬ Collapses branches name) →
      ∀ type, (scope.typeOf visiting (.obj fields)).result = .ok type ↔
        ∃ types, List.Forall₂ (fun b t => (scope.typeOf visiting b).result = .ok t)
            branches types ∧
          type = combination.combine types ∧
          type.text = "(" ++ Text.join combination.operator (types.map TypeExpr.text) ++ ")") := by
  -- There is one name at most, so that the branches collapse to it or to none.
  by_cases hany : ∃ given, Collapses branches given
  · obtain ⟨given, hgiven⟩ := hany
    have htype : scope.typeOf visiting (.obj fields) = pure (.named given) :=
      typeOf_of_collapses href hnull hfirst hgiven
    refine ⟨fun name => ?_, fun name => ?_, fun name branches' h hall => ?_, fun h => ?_⟩
    · rw [run_of_collapses href hnull hfirst hgiven, ← hgiven.eq_iff]
      constructor
      · intro h
        cases h
        rfl
      · rintro rfl
        rfl
    · rw [htype, ← hgiven.eq_iff]
      constructor
      · intro h
        cases h
        rfl
      · rintro rfl
        rfl
    · have hcollapses : Collapses branches' given := hgiven.rearranged hall
      have hset := hfirst.set hcollapses.ne_nil
      rw [htype, typeOf_of_collapses _ _ hset hcollapses]
      · rwa [reference?, Value.field?, hfirst.get?_set_of_ne _ (by decide)]
      · rwa [hfirst.get?_set_of_ne _ (by decide)]
    · exact absurd hgiven (h given)
  · push Not at hany
    refine ⟨fun name => iff_of_false ?_ (hany name), fun name => iff_of_false ?_ (hany name),
      fun name _ h => absurd h (hany name), fun _ type => ?_⟩
    · rw [run_of_not_collapses href hnull hfirst hany]
      intro h
      cases h
    · intro h
      obtain ⟨types, -, hcombine⟩ := (typeOf_of_not_collapses href hnull hfirst hany).1 h
      exact combination.combine_ne_named types name hcombine
    · rw [typeOf_of_not_collapses href hnull hfirst hany]
      refine exists_congr fun types => and_congr_right fun _ => ⟨?_, fun h => h.1.symm⟩
      rintro rfl
      exact ⟨rfl, combination.text_combine types⟩

/-- References of one name in two spellings, and a schema of null. -/
def petBranches : List Value :=
  [referring "#/components/schemas/Pet", .obj [("type", .str "null")],
    referring "#/definitions/Pet"]

theorem collapses_petBranches : Collapses petBranches "Pet" := by
  rw [collapses_iff]
  decide +kernel

/-- They collapse to the name under `anyOf`, where `oneOf` has no branches; so they do when a
    schema that says nothing is put in. -/
theorem typeOf_branches_iff_pet :
    let fields : List (String × Value) := [("oneOf", .arr []), ("anyOf", .arr petBranches)]
    let others : List Value := petBranches ++ [.obj [("title", .str "Nobody")]]
    reference? (.obj fields) = none ∧
    (given? (Entries.get? fields "nullable")).isSome = false ∧
    FirstBranches fields "anyOf" .union petBranches ∧
    (circleScope.typeOf [] (.obj fields)).result = .ok (.named "Pet") ∧
    circleScope.typeOf [] (.obj (Entries.set fields "anyOf" (.arr others))) =
      circleScope.typeOf [] (.obj fields) := by
  intro fields others
  have hfirst : FirstBranches fields "anyOf" .union petBranches := by
    refine .anyOf (fun found hone => hone.1 ?_) ⟨List.cons_ne_nil _ _, rfl⟩
    exact (Value.arr.inj (Option.some.inj hone.2)).symm
  have hothers : Rearranged petBranches others := by
    have hnothing : SaysNothing (.obj [("title", .str "Nobody")]) := isEmptySchema_iff.1 rfl
    exact @Rearranged.putIn petBranches [] _ hnothing
  have hnull : ¬ (given? (Entries.get? fields "nullable")).isSome = true := Bool.false_ne_true
  obtain ⟨-, htype, hsame, -⟩ := typeOf_branches_iff circleScope [] rfl hnull hfirst
  exact ⟨rfl, rfl, hfirst, (htype "Pet").2 collapses_petBranches,
    hsame "Pet" others collapses_petBranches hothers⟩

end Scope

end ApiTypes
