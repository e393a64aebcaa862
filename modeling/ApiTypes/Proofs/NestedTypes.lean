/-
  Types inside the types of schemas.

  The type of a schema is made with the types of others, whose text then stands inside its own.

  * `Text.Within`: a text stands inside another one;
  * `TypeExpr.within_of_mem_children`: the text of a type stands in the texts of the types around
    it;
  * `Scope.Needs.within`: so the type of a schema has those of all schemas inside that it needs, one
    after another (`Scope.within_of_needs`).
-/
import ApiTypes.Proofs.Agreement
import ApiTypes.Proofs.ShapedProperties
import ApiTypes.Proofs.TypeTree

namespace ApiTypes

open Json (Value)

/-! ## Texts inside texts -/

namespace Text

/-- A text stands inside another. -/
def Within (inner outer : String) : Prop := inner.toList <:+: outer.toList

variable {s t u : String}

theorem Within.refl (s : String) : Within s s := List.infix_refl _

theorem Within.trans (h : Within s t) (h' : Within t u) : Within s u := List.IsInfix.trans h h'

theorem within_append (front s back : String) : Within s (front ++ s ++ back) :=
  ⟨front.toList, back.toList, by simp⟩

theorem within_append_left (front s : String) : Within s (front ++ s) :=
  ⟨front.toList, [], by simp⟩

theorem within_append_right (s back : String) : Within s (s ++ back) :=
  ⟨[], back.toList, by simp⟩

theorem within_join {sep : String} {pieces : List String} (h : s ∈ pieces) :
    Within s (join sep pieces) := by
  induction pieces with
  | nil => exact absurd h List.not_mem_nil
  | cons first rest ih =>
    cases rest with
    | nil =>
      obtain rfl := List.mem_singleton.1 h
      simpa [join] using Within.refl s
    | cons second rest =>
      have hjoin : join sep (first :: second :: rest) =
          first ++ sep ++ join sep (second :: rest) := by
        simp [join, String.intercalate_cons_cons, String.append_assoc]
      rw [hjoin]
      rcases List.mem_cons.1 h with rfl | h
      · rw [String.append_assoc]
        exact within_append_right _ _
      · exact (ih h).trans (within_append_left _ _)

theorem within_iff : Within s t ↔ ∃ before after, t = before ++ s ++ after := by
  constructor
  · rintro ⟨before, after, h⟩
    exact ⟨.ofList before, .ofList after, String.toList_injective (by simp [h])⟩
  · rintro ⟨before, after, rfl⟩
    exact within_append before s after

end Text

open Text

/-! ## Types inside types -/

namespace TypeExpr

variable {t c : TypeExpr} {properties : List (PropertyHead × TypeExpr)} {head : PropertyHead}
  {index : Option TypeExpr} {l : String}

theorem mem_propertyLines (h : (head, t) ∈ properties) (hl : l ∈ head.lines t.text) :
    l ∈ propertyLines properties := by
  induction properties with
  | nil => exact absurd h List.not_mem_nil
  | cons p rest ih =>
    obtain ⟨head', t'⟩ := p
    rw [propertyLines, List.mem_append]
    rcases List.mem_cons.1 h with heq | h
    · obtain ⟨rfl, rfl⟩ := Prod.mk.inj heq
      exact Or.inl hl
    · exact Or.inr (ih h)

theorem within_objectText {lines : List String} (h : l ∈ lines) : Within l (objectText lines) :=
  (within_join h).trans (within_append _ _ _)

/-- The lines of a property stand in an object type. -/
theorem within_object (h : (head, t) ∈ properties) (hl : l ∈ head.lines t.text) :
    Within l (object properties index).text := by
  have hlines := mem_propertyLines h hl
  cases index with
  | none => exact within_objectText hlines
  | some further => exact within_objectText (List.mem_append_left _ hlines)

/-- A type stands in the types around it. -/
theorem within_of_mem_children (h : c ∈ t.children) : Within c.text t.text := by
  cases t with
  | keyword | named | literals => exact absurd h List.not_mem_nil
  | orNull base =>
    obtain rfl := List.mem_singleton.1 h
    exact within_append_right _ _
  | union branches =>
    have hmem : c.text ∈ texts branches := texts_eq_map branches ▸ List.mem_map_of_mem h
    exact (within_join hmem).trans (within_append _ _ _)
  | intersection branches =>
    have hmem : c.text ∈ texts branches := texts_eq_map branches ▸ List.mem_map_of_mem h
    exact (within_join hmem).trans (within_append _ _ _)
  | array items =>
    obtain rfl := List.mem_singleton.1 h
    exact within_append_right _ _
  | record values =>
    obtain rfl := List.mem_singleton.1 h
    exact within_append _ _ _
  | object properties index =>
    rcases List.mem_append.1 h with h | h
    · obtain ⟨⟨head, t⟩, hmem, rfl⟩ := List.mem_map.1 h
      have hlast : "  " ++ keyText head.name ++ (if head.optional then "?" else "") ++ ": " ++
          t.text ++ ";" ∈ head.lines t.text :=
        List.mem_append_right _ List.mem_cons_self
      exact (within_append _ _ _).trans (within_object hmem hlast)
    · obtain rfl := Option.mem_toList.1 h
      have hline := List.mem_append_right (propertyLines properties)
        (List.mem_singleton_self ("  [key: string]: " ++ c.text ++ ";"))
      exact (within_append _ _ _).trans (within_objectText hline)

theorem within_combine {combination : Combination} {types : List TypeExpr} (h : c ∈ types) :
    Within c.text (combination.combine types).text := by
  cases combination <;> exact within_of_mem_children h

end TypeExpr

/-! ## Schemas -/

namespace Scope

variable {scope : Scope} {visiting visiting' : List String} {schema schema' : Value}
  {fields items : List (String × Value)} {t base : TypeExpr}

theorem typesOf_forall₂ {schemas : List Value} {types : List TypeExpr}
    (h : (scope.typesOf visiting schemas).result = .ok types) :
    List.Forall₂ (fun s t => (scope.typeOf visiting s).result = .ok t) schemas types := by
  induction schemas generalizing types with
  | nil =>
    rw [typesOf] at h
    obtain rfl := Except.ok.inj h
    exact .nil
  | cons schema rest ih =>
    rw [typesOf] at h
    obtain ⟨type, htype, h⟩ := Outcome.bind_result_eq_ok.1 h
    obtain ⟨others, hothers, h⟩ := Outcome.bind_result_eq_ok.1 h
    obtain rfl := Except.ok.inj h
    exact .cons htype (ih hothers)

theorem typeOfFields_branches {combination : Combination} {branches : List Value}
    (hb : branches? fields = some (combination, branches))
    (hc : ∀ name, collapsed? branches = some name → name = "") :
    scope.typeOfFields visiting fields =
      combination.combine <$> scope.typesOf visiting branches := by
  rw [typeOfFields]
  split
  · next c bs hb' =>
    obtain ⟨rfl, rfl⟩ := Prod.mk.inj (Option.some.inj (hb.symm.trans hb'))
    split
    · next name hname => exact if_neg (not_not_intro (hc name hname))
    · rfl
  · next hb' => cases hb.symm.trans hb'

theorem typeOfFields_array (h : HasForm fields .array)
    (hget : Entries.get? fields "items" = some (.obj items)) :
    scope.typeOfFields visiting fields = .array <$> scope.typeByName visiting (.obj items) := by
  rw [typeOfFields]
  split
  · next hb => cases h.branches.symm.trans hb
  · simp only [h.constants, h.form]
    split
    · next items' hi =>
      obtain rfl := Value.obj.inj (Option.some.inj (hget.symm.trans hi))
      rfl
    · next hi => exact absurd hget (hi items)

theorem typeByName_of_reference?_eq_none (href : reference? schema = none) :
    scope.typeByName visiting schema = scope.typeOf visiting schema := by
  rw [typeByName, href]

theorem propertyType_of_shapeless (href : reference? schema = none)
    (hshape : ∀ name, scope.shapes.nameOf? schema = some name → name = "") :
    (scope.propertyType visiting schema).result = (scope.typeOf visiting schema).result := by
  cases hname : scope.shapes.nameOf? schema with
  | none => rw [propertyType, href, hname]
  | some name => rw [propertyType_of_nameOf? href hname, if_neg (not_not_intro (hshape name hname))]

/-- The type of further properties stands in that of the object, with or without properties. -/
theorem exists_child_of_additional {additional : List (String × Value)}
    (h : (scope.typeOfObject visiting fields).result = .ok t)
    (hget : Entries.get? fields "additionalProperties" = some (.obj additional)) :
    ∃ t', (scope.typeByName visiting (.obj additional)).result = .ok t' ∧ t' ∈ t.children := by
  by_cases hproperties : ∃ property rest,
      Entries.get? fields "properties" = some (.obj (property :: rest))
  · obtain ⟨property, rest, hproperties⟩ := hproperties
    obtain ⟨required, types, index, rfl, -, hindex⟩ := exists_of_typeOfObject h hproperties
    obtain ⟨further, hfurther, rfl⟩ := hindex additional hget
    exact ⟨further, hfurther, List.mem_append_right _ (List.mem_singleton_self _)⟩
  · push Not at hproperties
    obtain ⟨values, hvalues, rfl⟩ := exists_of_typeOfObject_record h hproperties hget
    exact ⟨values, hvalues, List.mem_singleton_self _⟩

theorem within_nullable (nullable : Bool) (base : TypeExpr) :
    Within base.text (if nullable then TypeExpr.orNull base else base).text := by
  cases nullable
  · exact Within.refl _
  · exact TypeExpr.within_of_mem_children List.mem_cons_self

/-- The type of the schema that is needed stands inside. -/
theorem Needs.within (hneeds : scope.Needs (visiting, schema) (visiting', schema'))
    (h : (scope.typeOf visiting schema).result = .ok t) :
    ∃ t', (scope.typeOf visiting' schema').result = .ok t' ∧ Within t'.text t.text := by
  cases hneeds with
  | target href hv hres htype =>
    rw [typeOf_reference href, if_neg hv, hres] at h
    exact ⟨t, by simpa only [htype, if_true] using h, Within.refl _⟩
  | branch href hb hc hmem =>
    obtain ⟨base, hbase, rfl⟩ := (typeOf_result_eq_ok href).1 h
    rw [typeOfFields_branches hb hc] at hbase
    obtain ⟨types, htypes, rfl⟩ := Outcome.map_result_eq_ok.1 hbase
    obtain ⟨t', ht', hof⟩ := Steps.exists_mem_of_forall₂_right (typesOf_forall₂ htypes).flip hmem
    exact ⟨t', hof, (TypeExpr.within_combine ht').trans (within_nullable _ _)⟩
  | items hform hget href =>
    obtain ⟨base, hbase, rfl⟩ := (typeOf_result_eq_ok hform.reference).1 h
    rw [typeOfFields_array hform hget, typeByName_of_reference?_eq_none href] at hbase
    obtain ⟨t', ht', rfl⟩ := Outcome.map_result_eq_ok.1 hbase
    have hchild : t' ∈ (TypeExpr.array t').children := List.mem_cons_self
    exact ⟨t', ht', (TypeExpr.within_of_mem_children hchild).trans (within_nullable _ _)⟩
  | property hform hget hmem href hshape =>
    obtain ⟨base, hbase, rfl⟩ := (typeOf_result_eq_ok hform.reference).1 h
    obtain ⟨first, rest, rfl⟩ := List.exists_cons_of_ne_nil (List.ne_nil_of_mem hmem)
    rw [typeOfFields_object hform] at hbase
    obtain ⟨required, types, index, rfl, htypes, -⟩ := exists_of_typeOfObject hbase hget
    obtain ⟨⟨head, t'⟩, ht', hof⟩ :=
      Steps.exists_mem_of_forall₂_right (propertiesOf_spec htypes).flip hmem
    have hof : (scope.propertyType visiting schema').result = .ok t' := hof.1
    rw [propertyType_of_shapeless href hshape] at hof
    have hchild : t' ∈ (TypeExpr.object types index).children :=
      List.mem_append_left _ (List.mem_map.2 ⟨_, ht', rfl⟩)
    exact ⟨t', hof, (TypeExpr.within_of_mem_children hchild).trans (within_nullable _ _)⟩
  | additional hform hget href =>
    obtain ⟨base, hbase, rfl⟩ := (typeOf_result_eq_ok hform.reference).1 h
    rw [typeOfFields_object hform] at hbase
    obtain ⟨t', ht', hchild⟩ := exists_child_of_additional hbase hget
    rw [typeByName_of_reference?_eq_none href] at ht'
    exact ⟨t', ht', (TypeExpr.within_of_mem_children hchild).trans (within_nullable _ _)⟩

/-- All schemas that are needed, one after another, have their types inside. -/
theorem within_of_needs {start needed : List String × Value}
    (hneeds : Relation.ReflTransGen scope.Needs start needed)
    (h : (scope.typeOf start.1 start.2).result = .ok t) :
    ∃ t', (scope.typeOf needed.1 needed.2).result = .ok t' ∧ Within t'.text t.text := by
  induction hneeds with
  | refl => exact ⟨t, h, Within.refl _⟩
  | tail _ hneeds ih =>
    obtain ⟨t', ht', hwithin⟩ := ih
    obtain ⟨t'', ht'', hwithin'⟩ := hneeds.within ht'
    exact ⟨t'', ht'', hwithin'.trans hwithin⟩

end Scope

end ApiTypes
