/-
  Which schemas have a type.

  Making the type of a schema fails only where the required names of an object schema
  cannot be read: a value under `required` is read as a list, and its elements are looked
  up, so that it has to be `Listable`.

  * `Scope.Needs`: the type of one schema is made with the type of another.  There is one
    constructor for each way in which `typeOf` comes from a schema to the next one, and
    `Needs.decreases` says that these ways end;
  * `succeeds_typeOf_iff`: what one schema needs;
  * `exists_typeOf_iff`: a schema has a type exactly if the required names of all schemas
    can be read that it needs, directly or through others.

  The document is taken to have components that can be looked up, so that no reference
  fails.
-/
import ApiTypes.Proofs.SchemaRules
import ApiTypes.Proofs.Dependencies
import ApiTypes.Proofs.Steps
import ApiTypes.Generation
import Mathlib.Logic.Relation

namespace ApiTypes

open Json (Value given?)

/-! ## Outcomes with a result -/

namespace Outcome

variable {α β : Type} {x : Outcome α}

/-- An outcome that has a result. -/
def Succeeds (x : Outcome α) : Prop := ∃ a, x.result = .ok a

theorem succeeds_pure (a : α) : (pure a : Outcome α).Succeeds := ⟨a, rfl⟩

theorem succeeds_bind_iff {f : α → Outcome β} :
    (x >>= f).Succeeds ↔ ∃ a, x.result = .ok a ∧ (f a).Succeeds := by
  constructor
  · rintro ⟨b, hb⟩
    obtain ⟨a, ha, hfa⟩ := bind_result_eq_ok.1 hb
    exact ⟨a, ha, b, hfa⟩
  · rintro ⟨a, ha, b, hfa⟩
    exact ⟨b, bind_result_eq_ok.2 ⟨a, ha, hfa⟩⟩

/-- A chain whose second part does not need to know the result of the first. -/
theorem succeeds_bind_iff_of_forall {f : α → Outcome β} {p : Prop}
    (h : ∀ a, (f a).Succeeds ↔ p) : (x >>= f).Succeeds ↔ x.Succeeds ∧ p := by
  rw [succeeds_bind_iff]
  constructor
  · rintro ⟨a, ha, hfa⟩
    exact ⟨⟨a, ha⟩, (h a).1 hfa⟩
  · rintro ⟨⟨a, ha⟩, hp⟩
    exact ⟨a, ha, (h a).2 hp⟩

theorem succeeds_bind_pure_iff {f : α → β} : (x >>= fun a => pure (f a)).Succeeds ↔ x.Succeeds :=
  (succeeds_bind_iff_of_forall fun a => iff_true_intro (succeeds_pure (f a))).trans
    (iff_of_eq (and_true _))

theorem succeeds_map_iff {f : α → β} : (f <$> x).Succeeds ↔ x.Succeeds := succeeds_bind_pure_iff

end Outcome

/-! ## Required names -/

/-- Elements that can be looked up: none of them is a list or an object. -/
def AreScalars (elements : List Value) : Prop :=
  ∀ v ∈ elements, v.fields? = none ∧ v.items? = none

/-- A value from which names can be read: one that counts as left out, a text, an object,
    or a list without lists and objects in it. -/
def Json.Value.Listable : Value → Prop
  | .arr items => AreScalars items
  | .str _ | .obj _ => True
  | v => v.isEmpty = true

variable {fields : List (String × Value)}

theorem areScalars_iff {elements : List Value} :
    AreScalars elements ↔
      ¬ elements.any (fun v => v.fields?.isSome || v.items?.isSome) = true := by
  simp [AreScalars]

theorem listable_of_isEmpty {v : Value} (h : v.isEmpty = true) : v.Listable := by
  cases v with
  | arr items =>
    obtain rfl := List.isEmpty_iff.1 h
    exact List.forall_mem_nil _
  | str _ | obj _ => trivial
  | _ => exact h

theorem exists_elements_iff {v : Value} (h : v.isEmpty = false) :
    (∃ elements, Document.elements v = .ok elements ∧ AreScalars elements) ↔ v.Listable := by
  cases v with
  | arr items =>
    constructor
    · rintro ⟨elements, helements, hscalars⟩
      obtain rfl := Except.ok.inj helements
      exact hscalars
    · intro hscalars
      exact ⟨items, rfl, hscalars⟩
  | str s =>
    refine iff_of_true ⟨_, rfl, fun v hv => ?_⟩ trivial
    obtain ⟨c, -, rfl⟩ := List.mem_map.1 hv
    exact ⟨rfl, rfl⟩
  | obj members =>
    refine iff_of_true ⟨_, rfl, fun v hv => ?_⟩ trivial
    obtain ⟨e, -, rfl⟩ := List.mem_map.1 hv
    exact ⟨rfl, rfl⟩
  | _ =>
    refine iff_of_false ?_ (by simp [Value.Listable, h])
    rintro ⟨elements, helements, -⟩
    cases helements

theorem exists_elementsOf_iff {o : Option Value} :
    (∃ elements, Document.elementsOf o = .ok elements ∧ AreScalars elements) ↔
      ∀ v, o = some v → v.Listable := by
  cases o with
  | none => exact iff_of_true ⟨[], rfl, List.forall_mem_nil _⟩ (by simp)
  | some v =>
    have hv : (∀ w, some v = some w → w.Listable) ↔ v.Listable :=
      ⟨fun h => h v rfl, fun h w hw => Option.some.inj hw ▸ h⟩
    rw [hv, Document.elementsOf]
    cases h : v.isEmpty with
    | true =>
      have hgiven : given? (some v) = none := if_pos h
      rw [hgiven]
      exact iff_of_true ⟨[], rfl, List.forall_mem_nil _⟩ (listable_of_isEmpty h)
    | false =>
      have hgiven : given? (some v) = some v := if_neg (by simp [h])
      rw [hgiven]
      exact exists_elements_iff h

theorem exists_requiredNames_iff :
    (∃ names, requiredNames fields = .ok names) ↔
      ∀ v, Entries.get? fields "required" = some v → v.Listable := by
  rw [← exists_elementsOf_iff]
  unfold requiredNames
  constructor
  · rintro ⟨names, hnames⟩
    obtain ⟨elements, helements, hnames⟩ := Steps.bind_eq_ok.1 hnames
    split at hnames
    · cases hnames
    · next hany => exact ⟨elements, helements, areScalars_iff.2 hany⟩
  · rintro ⟨elements, helements, hscalars⟩
    exact ⟨_, Steps.bind_eq_ok.2 ⟨elements, helements, if_neg (areScalars_iff.1 hscalars)⟩⟩

/-! ## Schemas that the type of a schema is made with -/

/-- A schema that is neither a reference nor a combination nor an enumeration: its form
    counts. -/
structure HasForm (fields : List (String × Value)) (form : Form) : Prop where
  reference : reference? (.obj fields) = none
  branches : branches? fields = none
  constants : constants? fields = none
  form : Form.ofFields fields = form

/-- An object schema with properties has required names that can be read. -/
def NamesRequired (schema : Value) : Prop :=
  ∀ fields property rest, schema = .obj fields → HasForm fields .object →
    Entries.get? fields "properties" = some (.obj (property :: rest)) →
    ∀ v, Entries.get? fields "required" = some v → v.Listable

namespace Scope

/-- The type of one schema is made with the type of another. -/
inductive Needs (scope : Scope) : List String × Value → List String × Value → Prop
  | target {visiting schema reference target} : reference? schema = some reference →
      Reference.name reference ∉ visiting →
      resolve scope.document reference = .ok (some target) →
      (target.field? "type").isSome = true →
      Needs scope (visiting, schema) (Reference.name reference :: visiting, target)
  | branch {visiting fields combination branches b} : reference? (.obj fields) = none →
      branches? fields = some (combination, branches) →
      (∀ name, collapsed? branches = some name → name = "") → b ∈ branches →
      Needs scope (visiting, .obj fields) (visiting, b)
  | items {visiting fields items} : HasForm fields .array →
      Entries.get? fields "items" = some (.obj items) → reference? (.obj items) = none →
      Needs scope (visiting, .obj fields) (visiting, .obj items)
  | property {visiting fields properties key schema} : HasForm fields .object →
      Entries.get? fields "properties" = some (.obj properties) → (key, schema) ∈ properties →
      reference? schema = none → (∀ name, scope.shapes.nameOf? schema = some name → name = "") →
      Needs scope (visiting, .obj fields) (visiting, schema)
  | additional {visiting fields additional} : HasForm fields .object →
      Entries.get? fields "additionalProperties" = some (.obj additional) →
      reference? (.obj additional) = none →
      Needs scope (visiting, .obj fields) (visiting, .obj additional)

variable {scope : Scope} {visiting visiting' : List String} {schema schema' : Value}

/-- Only finitely many schemas are needed one after another. -/
theorem Needs.decreases (h : scope.Needs (visiting, schema) (visiting', schema')) :
    Prod.Lex (· < ·) (· < ·) (unseen scope.document visiting', sizeOf schema')
      (unseen scope.document visiting, sizeOf schema) := by
  cases h with
  | target href hv hres _ => exact .left _ _ (unseen_lt hv (name_mem_componentNames hres))
  | branch _ hb _ hmem =>
    have hbranch := Nat.lt_trans (List.sizeOf_lt_of_mem hmem) (sizeOf_lt_of_branches? hb)
    exact .right _ (Nat.lt_trans hbranch (Json.sizeOf_fields_lt _))
  | items _ hget _ | additional _ hget _ =>
    exact .right _ (Nat.lt_trans (Json.sizeOf_lt_of_get? hget) (Json.sizeOf_fields_lt _))
  | property _ hget hmem _ _ =>
    have hproperties := Json.sizeOf_fields_lt_of_get? hget
    have hproperty := List.sizeOf_lt_of_mem hmem
    simp only [Prod.mk.sizeOf_spec] at hproperty
    exact .right _ (Nat.lt_trans (by omega) (Json.sizeOf_fields_lt _))

/-! ## One schema -/

theorem succeeds_typesOf_iff {schemas : List Value} :
    (scope.typesOf visiting schemas).Succeeds ↔
      ∀ s ∈ schemas, (scope.typeOf visiting s).Succeeds := by
  induction schemas with
  | nil =>
    rw [typesOf]
    exact iff_of_true (Outcome.succeeds_pure _) (List.forall_mem_nil _)
  | cons schema rest ih =>
    rw [typesOf, List.forall_mem_cons, ← ih]
    exact Outcome.succeeds_bind_iff_of_forall fun _ => Outcome.succeeds_bind_pure_iff

theorem succeeds_typeByName_iff :
    (scope.typeByName visiting schema).Succeeds ↔
      (reference? schema = none → (scope.typeOf visiting schema).Succeeds) := by
  unfold typeByName
  split
  · next href => exact iff_of_true (Outcome.succeeds_pure _) (by simp [href])
  · next href => exact ⟨fun h _ => h, fun h => h href⟩

theorem succeeds_propertyType_iff :
    (scope.propertyType visiting schema).Succeeds ↔
      (reference? schema = none → (∀ name, scope.shapes.nameOf? schema = some name → name = "") →
        (scope.typeOf visiting schema).Succeeds) := by
  unfold propertyType
  split
  · next href => exact iff_of_true (Outcome.succeeds_pure _) (by simp [href])
  · next href =>
    split
    · next name hname =>
      by_cases hempty : name = ""
      · subst hempty
        rw [Outcome.succeeds_bind_iff_of_forall fun _ => Iff.rfl]
        refine ⟨fun h _ _ => h.2, fun h => ⟨⟨(), rfl⟩, h href fun n hn => ?_⟩⟩
        exact (Option.some.inj (hname.symm.trans hn)).symm
      · rw [Outcome.succeeds_bind_iff_of_forall fun _ => Iff.rfl, if_pos hempty]
        refine iff_of_true ⟨⟨(), rfl⟩, Outcome.succeeds_pure _⟩ fun _ h => ?_
        exact absurd (h name hname) hempty
    · next hname =>
      exact ⟨fun h _ _ => h, fun h => h href (by simp [hname])⟩

theorem succeeds_propertiesOf_iff {required : List String} {properties : List (String × Value)} :
    (scope.propertiesOf visiting required properties).Succeeds ↔
      ∀ p ∈ properties, (scope.propertyType visiting p.2).Succeeds := by
  induction properties with
  | nil =>
    rw [propertiesOf]
    exact iff_of_true (Outcome.succeeds_pure _) (List.forall_mem_nil _)
  | cons p rest ih =>
    obtain ⟨key, schema⟩ := p
    rw [propertiesOf, List.forall_mem_cons, ← ih]
    exact Outcome.succeeds_bind_iff_of_forall fun _ => Outcome.succeeds_bind_pure_iff

/-- Apart from `nullable`, the type of a schema is that of its keywords. -/
theorem succeeds_typeOf_obj_iff (href : reference? (.obj fields) = none) :
    (scope.typeOf visiting (.obj fields)).Succeeds ↔
      (scope.typeOfFields visiting fields).Succeeds := by
  simp only [typeOf, href]
  exact Outcome.succeeds_bind_pure_iff

/-- A combination has a type if it collapses to a name or all its branches have one. -/
theorem succeeds_branches_iff {combination : Combination} {branches : List Value}
    (hb : branches? fields = some (combination, branches)) :
    (scope.typeOfFields visiting fields).Succeeds ↔
      ((∀ name, collapsed? branches = some name → name = "") →
        ∀ b ∈ branches, (scope.typeOf visiting b).Succeeds) := by
  have htypes : (combination.combine <$> scope.typesOf visiting branches).Succeeds ↔
      ∀ b ∈ branches, (scope.typeOf visiting b).Succeeds :=
    Outcome.succeeds_map_iff.trans succeeds_typesOf_iff
  unfold typeOfFields
  split
  · next c bs hb' =>
    obtain ⟨rfl, rfl⟩ := Prod.mk.inj (Option.some.inj (hb.symm.trans hb'))
    split
    · next name hc =>
      split
      · next hne => exact iff_of_true (Outcome.succeeds_pure _) fun h => absurd (h name hc) hne
      · next hempty =>
        rw [htypes]
        refine ⟨fun h _ => h, fun h => h fun n hn => ?_⟩
        exact Option.some.inj (hc.symm.trans hn) ▸ not_not.1 hempty
    · next hc =>
      rw [htypes]
      exact ⟨fun h _ => h, fun h => h (by simp [hc])⟩
  · next hb' => simp [hb] at hb'

theorem succeeds_constants {constants : List Literal} (hb : branches? fields = none)
    (hc : constants? fields = some constants) :
    (scope.typeOfFields visiting fields).Succeeds := by
  unfold typeOfFields
  split
  · next hb' => simp [hb] at hb'
  · simp only [hc]
    exact Outcome.succeeds_pure _

theorem succeeds_plain {t : TypeExpr} (h : HasForm fields (.plain t)) :
    (scope.typeOfFields visiting fields).Succeeds := by
  unfold typeOfFields
  split
  · next hb => simp [h.branches] at hb
  · simp only [h.constants, h.form]
    exact Outcome.succeeds_pure _

theorem succeeds_array_iff (h : HasForm fields .array) :
    (scope.typeOfFields visiting fields).Succeeds ↔
      ∀ items, Entries.get? fields "items" = some (.obj items) →
        (scope.typeByName visiting (.obj items)).Succeeds := by
  unfold typeOfFields
  split
  · next hb => simp [h.branches] at hb
  simp only [h.constants, h.form]
  split
  · next items hi =>
    rw [Outcome.succeeds_map_iff]
    refine ⟨fun hs items' hi' => ?_, fun hs => hs items hi⟩
    obtain rfl := Value.obj.inj (Option.some.inj (hi.symm.trans hi'))
    exact hs
  · next hi => exact iff_of_true (Outcome.succeeds_pure _) fun items hi' => absurd hi' (hi items)

theorem typeOfFields_object (h : HasForm fields .object) :
    scope.typeOfFields visiting fields = scope.typeOfObject visiting fields := by
  rw [typeOfFields]
  split
  · next hb => simp [h.branches] at hb
  · simp only [h.constants, h.form]

/-- The schema of further properties, if there is one, has a type. -/
def IndexSucceeds (scope : Scope) (visiting : List String) (fields : List (String × Value)) :
    Prop :=
  ∀ additional, Entries.get? fields "additionalProperties" = some (.obj additional) →
    (scope.typeByName visiting (.obj additional)).Succeeds

theorem indexSucceeds_iff {additional : List (String × Value)}
    (ha : Entries.get? fields "additionalProperties" = some (.obj additional)) :
    scope.IndexSucceeds visiting fields ↔
      (scope.typeByName visiting (.obj additional)).Succeeds := by
  refine ⟨fun h => h additional ha, fun h additional' ha' => ?_⟩
  obtain rfl := Value.obj.inj (Option.some.inj (ha.symm.trans ha'))
  exact h

theorem indexSucceeds_of_no_schema
    (ha : ∀ additional, Entries.get? fields "additionalProperties" ≠ some (.obj additional)) :
    scope.IndexSucceeds visiting fields :=
  fun additional h => absurd h (ha additional)

/-- An object type needs the required names of its properties, the types of these, and
    the type of further ones. -/
theorem succeeds_object_iff :
    (scope.typeOfObject visiting fields).Succeeds ↔
      (∀ property rest, Entries.get? fields "properties" = some (.obj (property :: rest)) →
        (∃ names, requiredNames fields = .ok names) ∧
          ∀ p ∈ property :: rest, (scope.propertyType visiting p.2).Succeeds) ∧
      scope.IndexSucceeds visiting fields := by
  unfold typeOfObject
  split
  · next property rest hp =>
    refine (Outcome.succeeds_bind_iff_of_forall fun required =>
      (Outcome.succeeds_bind_iff_of_forall (p := scope.IndexSucceeds visiting fields)
        fun ps => ?further).trans (and_congr_left' succeeds_propertiesOf_iff)).trans ?all
    case further =>
      split
      · next ha =>
        exact iff_of_true (Outcome.succeeds_pure _) (indexSucceeds_of_no_schema (by simp [ha]))
      · next additional ha => rw [Outcome.succeeds_bind_pure_iff, indexSucceeds_iff ha]
      · next ha => exact iff_of_true (Outcome.succeeds_pure _) (indexSucceeds_of_no_schema ha)
    case all =>
      rw [← and_assoc]
      refine and_congr_left' ⟨fun h p' rest' hp' => ?_, fun h => h property rest hp⟩
      obtain ⟨rfl, rfl⟩ := List.cons.inj (Value.obj.inj (Option.some.inj (hp.symm.trans hp')))
      exact h
  · next hp =>
    refine Iff.trans ?_ (and_iff_right fun property rest h => absurd h (hp property rest)).symm
    split
    · next ha =>
      exact iff_of_true (Outcome.succeeds_pure _) (indexSucceeds_of_no_schema (by simp [ha]))
    · next additional ha => rw [Outcome.succeeds_map_iff, indexSucceeds_iff ha]
    · next ha => exact iff_of_true (Outcome.succeeds_pure _) (indexSucceeds_of_no_schema ha)

/-- A reference that is followed needs the type of its target. -/
theorem succeeds_reference_iff
    (hcomponents : ∀ kind, ∃ entries, components scope.document kind = .ok entries)
    {reference : String} (href : reference? schema = some reference) :
    (scope.typeOf visiting schema).Succeeds ↔
      ∀ target, Reference.name reference ∉ visiting →
        resolve scope.document reference = .ok (some target) →
        (target.field? "type").isSome = true →
        (scope.typeOf (Reference.name reference :: visiting) target).Succeeds := by
  obtain ⟨fields, rfl⟩ := exists_obj_of_reference? href
  obtain ⟨found, hfound⟩ := exists_resolve_eq_ok hcomponents reference
  simp only [typeOf, href]
  split
  · next hv => exact iff_of_true (Outcome.succeeds_pure _) fun _ h => absurd hv h
  · next hv =>
    split
    · next e he => simp [hfound] at he
    · next hnone =>
      exact iff_of_true (Outcome.succeeds_pure _) (by simp [hnone])
    · next target htarget =>
      have hsame {t : Value} (h : resolve scope.document reference = .ok (some t)) : t = target :=
        Option.some.inj (Except.ok.inj (h.symm.trans htarget))
      split
      · next htype =>
        exact ⟨fun h t _ ht _ => hsame ht ▸ h, fun h => h target hv htarget htype⟩
      · next htype =>
        exact iff_of_true (Outcome.succeeds_pure _) fun t _ ht h => absurd (hsame ht ▸ h) htype

/-! ## All schemas -/

/-- Whether a schema that is no reference is made of branches, of constants, or by its
    form. -/
theorem reads_or (href : reference? (.obj fields) = none) :
    (∃ combination branches, branches? fields = some (combination, branches)) ∨
      (branches? fields = none ∧ ∃ constants, constants? fields = some constants) ∨
      ∃ form, HasForm fields form := by
  cases hb : branches? fields with
  | some found => exact Or.inl ⟨_, _, rfl⟩
  | none =>
    cases hc : constants? fields with
    | some constants => exact Or.inr (Or.inl ⟨rfl, _, rfl⟩)
    | none => exact Or.inr (Or.inr ⟨_, href, hb, hc, rfl⟩)

/-- What a schema with a type tells about the schemas that it needs. -/
theorem Needs.succeeds
    (hcomponents : ∀ kind, ∃ entries, components scope.document kind = .ok entries)
    (h : (scope.typeOf visiting schema).Succeeds)
    (hneeds : scope.Needs (visiting, schema) (visiting', schema')) :
    (scope.typeOf visiting' schema').Succeeds := by
  cases hneeds with
  | target href hv hres htype =>
    exact (succeeds_reference_iff hcomponents href).1 h _ hv hres htype
  | branch href hb hc hmem =>
    rw [succeeds_typeOf_obj_iff href, succeeds_branches_iff hb] at h
    exact h hc _ hmem
  | items hform hget href =>
    rw [succeeds_typeOf_obj_iff hform.reference, succeeds_array_iff hform] at h
    exact succeeds_typeByName_iff.1 (h _ hget) href
  | @property _ _ properties _ _ hform hget hmem href hshape =>
    rw [succeeds_typeOf_obj_iff hform.reference, typeOfFields_object hform,
      succeeds_object_iff] at h
    cases properties with
    | nil => exact absurd hmem List.not_mem_nil
    | cons p rest => exact succeeds_propertyType_iff.1 ((h.1 p rest hget).2 _ hmem) href hshape
  | additional hform hget href =>
    rw [succeeds_typeOf_obj_iff hform.reference, typeOfFields_object hform,
      succeeds_object_iff] at h
    exact succeeds_typeByName_iff.1 (h.2 _ hget) href

/-- **One schema.**  It has a type if its required names can be read and every schema
    that it needs has one. -/
theorem succeeds_typeOf_iff
    (hcomponents : ∀ kind, ∃ entries, components scope.document kind = .ok entries) :
    (scope.typeOf visiting schema).Succeeds ↔ NamesRequired schema ∧
      ∀ visiting' schema', scope.Needs (visiting, schema) (visiting', schema') →
        (scope.typeOf visiting' schema').Succeeds := by
  constructor
  · intro h
    refine ⟨?_, fun _ _ hneeds => hneeds.succeeds hcomponents h⟩
    rintro fields property rest rfl hform hp
    rw [succeeds_typeOf_obj_iff hform.reference, typeOfFields_object hform,
      succeeds_object_iff] at h
    exact exists_requiredNames_iff.1 (h.1 property rest hp).1
  rintro ⟨hrequired, hneeds⟩
  cases schema with
  | obj fields =>
    cases href : reference? (.obj fields) with
    | some reference =>
      rw [succeeds_reference_iff hcomponents href]
      exact fun target hv hres htype => hneeds _ _ (.target href hv hres htype)
    | none =>
      rw [succeeds_typeOf_obj_iff href]
      obtain ⟨combination, branches, hb⟩ | ⟨hb, constants, hc⟩ | ⟨form, hform⟩ := reads_or href
      · rw [succeeds_branches_iff hb]
        exact fun hc b hmem => hneeds _ _ (.branch href hb hc hmem)
      · exact succeeds_constants hb hc
      cases form with
      | plain t => exact succeeds_plain hform
      | array =>
        rw [succeeds_array_iff hform]
        exact fun items hget => succeeds_typeByName_iff.2 fun href =>
          hneeds _ _ (.items hform hget href)
      | object =>
        rw [typeOfFields_object hform, succeeds_object_iff]
        refine ⟨fun property rest hget => ⟨?_, fun p hp => ?_⟩, fun additional hget => ?_⟩
        · exact exists_requiredNames_iff.2 (hrequired _ _ _ rfl hform hget)
        · exact succeeds_propertyType_iff.2 fun href hshape =>
            hneeds _ _ (.property hform hget hp href hshape)
        · exact succeeds_typeByName_iff.2 fun href => hneeds _ _ (.additional hform hget href)
  | _ =>
    rw [typeOf]
    · exact Outcome.succeeds_pure _
    · simp

/-- A schema has a type if the required names of all schemas can be read that it needs. -/
theorem succeeds_of_forall {scope : Scope}
    (hcomponents : ∀ kind, ∃ entries, components scope.document kind = .ok entries)
    (visiting : List String) (schema : Value)
    (h : ∀ needed, Relation.ReflTransGen scope.Needs (visiting, schema) needed →
      NamesRequired needed.2) : (scope.typeOf visiting schema).Succeeds :=
  -- along the schemas needed: what a schema needs, needs nothing that the schema does not
  (succeeds_typeOf_iff hcomponents).2 ⟨h _ .refl, fun visiting' schema' hneeds =>
    succeeds_of_forall hcomponents visiting' schema' fun needed hchain =>
      h needed (.head hneeds hchain)⟩
termination_by (unseen scope.document visiting, sizeOf schema)
decreasing_by exact hneeds.decreases

/-- **All schemas.**  A schema has a type exactly if the required names of all schemas
    can be read that it needs, directly or through others. -/
theorem succeeds_iff
    (hcomponents : ∀ kind, ∃ entries, components scope.document kind = .ok entries) :
    (scope.typeOf visiting schema).Succeeds ↔
      ∀ needed, Relation.ReflTransGen scope.Needs (visiting, schema) needed →
        NamesRequired needed.2 := by
  refine ⟨fun h needed hchain => ?_, succeeds_of_forall hcomponents visiting schema⟩
  have hneeded : (scope.typeOf needed.1 needed.2).Succeeds := by
    induction hchain with
    | refl => exact h
    | tail _ hneeds ih => exact hneeds.succeeds hcomponents ih
  exact ((succeeds_typeOf_iff hcomponents).1 hneeded).1

variable {document : Value}

/-- **When types are written.**  If the components of a document can be looked up, its
    schemas can be compiled, and every value taken for a schema has a type exactly if the
    required names can be read of all object schemas that it needs. -/
theorem exists_typeOf_iff
    (hcomponents : ∀ kind, ∃ entries, components document kind = .ok entries) :
    (∃ scope, Scope.ofDocument document = .ok scope) ∧
      ∀ scope : Scope, scope.document = document → ∀ visiting schema,
        ((∃ t, (scope.typeOf visiting schema).result = .ok t) ↔
          ∀ needed, Relation.ReflTransGen scope.Needs (visiting, schema) needed →
            NamesRequired needed.2) := by
  constructor
  · obtain ⟨schemas, hschemas⟩ := hcomponents .schemas
    exact ⟨_, Steps.bind_eq_ok.2 ⟨schemas, hschemas, rfl⟩⟩
  · rintro scope rfl visiting schema
    exact succeeds_iff hcomponents

/-- An object schema whose property is said to be required by a truth value. -/
def requiredByTruth : List (String × Value) :=
  [("type", .str "object"), ("properties", .obj [("name", .obj [])]), ("required", .bool true)]

/-- A document with such a schema and another one. -/
def requiredByTruthDocument : Value :=
  .obj [("components", .obj [("schemas",
    .obj [("Odd", .obj requiredByTruth), ("Even", .obj [("type", .str "string")])])])]

/-- The scope of the document. -/
def requiredByTruthScope : Scope := ⟨requiredByTruthDocument, ⟨[(.ofList ["name"], "Odd")]⟩⟩

theorem exists_components_requiredByTruth (kind : ComponentKind) :
    ∃ entries, components requiredByTruthDocument kind = .ok entries := by
  cases kind <;> exact ⟨_, by cbv⟩

/-- A list of such objects needs the object's required names. -/
theorem exists_typeOf_iff_requiredByTruth :
    (∀ kind, ∃ entries, components requiredByTruthDocument kind = .ok entries) ∧
      requiredByTruthScope.document = requiredByTruthDocument ∧
      ¬ ∃ t, (requiredByTruthScope.typeOf []
        (.obj [("type", .str "array"), ("items", .obj requiredByTruth)])).result = .ok t := by
  refine ⟨exists_components_requiredByTruth, rfl, fun h => ?_⟩
  have hall := ((exists_typeOf_iff exists_components_requiredByTruth).2 _ rfl _ _).1 h
  have harray : HasForm [("type", .str "array"), ("items", .obj requiredByTruth)] .array :=
    ⟨by decide, rfl, by decide, rfl⟩
  have hobject : HasForm requiredByTruth .object := ⟨by decide, rfl, by decide, rfl⟩
  have hneeds : requiredByTruthScope.Needs ([], _) ([], .obj requiredByTruth) :=
    .items harray rfl (by decide)
  have hlistable : (Value.bool true).Listable :=
    hall _ (.single hneeds) _ _ _ rfl hobject rfl _ rfl
  exact Bool.false_ne_true hlistable

/-- Not every value has a type, and one schema without a type ends the generation for the
    whole document. -/
theorem not_exists_typeOf_requiredByTruth :
    (¬ ∀ document, (∀ kind, ∃ entries, components document kind = .ok entries) →
      ∀ scope, Scope.ofDocument document = .ok scope →
        ∀ visiting schema, ∃ t, (scope.typeOf visiting schema).result = .ok t) ∧
      Generation.ofDocument requiredByTruthDocument (.int 0) = .error .malformed := by
  have hscope : Scope.ofDocument requiredByTruthDocument = .ok requiredByTruthScope := rfl
  have htype : (requiredByTruthScope.typeOf ["Odd"] (.obj requiredByTruth)).result =
      .error .malformed := by cbv
  have hadd : Generation.addSchema requiredByTruthScope ([], []) "Odd" (.obj requiredByTruth) =
      .error .malformed := by cbv
  constructor
  · intro h
    obtain ⟨t, ht⟩ :=
      h _ exists_components_requiredByTruth _ hscope ["Odd"] (.obj requiredByTruth)
    rw [htype] at ht
    cases ht
  · refine Steps.bind_eq_error.2 (Or.inr ⟨_, hscope, ?_⟩)
    refine Steps.bind_eq_error.2 (Or.inr ⟨_, rfl, Steps.bind_eq_error.2 (Or.inl ?_)⟩)
    exact Steps.bind_eq_error.2 (Or.inl hadd)

end Scope

end ApiTypes
