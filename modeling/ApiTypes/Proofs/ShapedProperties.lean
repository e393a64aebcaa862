/-
  Properties that are written by the name of their shape.

  A property whose schema has the property names of a named schema is written by that name,
  whatever else the schema says.  By the order of its keywords, only a schema that is neither
  nullable nor a combination nor an enumeration is written as an object, and only there can a
  name stand for the object.

  * `TypeExpr.nameObject`: a type with the name in the place of its own object;
  * `exists_object_of_typeOfFields`, `nameObject_typeOfFields`: what the name takes the place
    of, by the keywords of the schema;
  * `shaped_text_iff`: hence when a property is written as its own type with the name for
    the object;
  * `not_shaped_text_nullable`: a nullable object is not, its `null` is lost.
-/
import ApiTypes.Proofs.SchemaTypes

namespace ApiTypes

open Json (Value given?)

/-- A type with a name in the place of its own object, which may stand beside `null`. -/
def TypeExpr.nameObject (name : String) : TypeExpr → TypeExpr
  | .object _ _ => .named name
  | .orNull base => .orNull (base.nameObject name)
  | t => t

namespace Scope

variable {scope : Scope} {visiting : List String} {fields properties : List (String × Value)}
  {types : List (PropertyHead × TypeExpr)} {index : Option TypeExpr} {schema : Value}
  {t base : TypeExpr} {name : String}

/-! ## The properties of an object type -/

/-- The properties of an object type in order, each with the type of its schema and the comment of
    its description if it is no reference. -/
theorem propertiesOf_spec {required : List String}
    (h : (scope.propertiesOf visiting required properties).result = .ok types) :
    List.Forall₂ (fun (p : String × Value) (typed : PropertyHead × TypeExpr) =>
      (scope.propertyType visiting p.2).result = .ok typed.2 ∧ (reference? p.2 = none →
        typed.1.comment = Comment.ofProperty? (p.2.field? "description"))) properties types := by
  induction properties generalizing types with
  | nil =>
    rw [propertiesOf] at h
    obtain rfl := Except.ok.inj h
    exact .nil
  | cons p rest ih =>
    rw [propertiesOf] at h
    obtain ⟨type, htype, h⟩ := Outcome.bind_result_eq_ok.1 h
    obtain ⟨others, hothers, h⟩ := Outcome.bind_result_eq_ok.1 h
    obtain rfl := Except.ok.inj h
    exact .cons ⟨htype, fun href => by simp [href]⟩ (ih hothers)

/-- A schema with properties has an object type of these, with the type of further ones. -/
theorem exists_of_typeOfObject {property : String × Value} {rest : List (String × Value)}
    (h : (scope.typeOfObject visiting fields).result = .ok t)
    (hproperties : Entries.get? fields "properties" = some (.obj (property :: rest))) :
    ∃ required types index, t = .object types index ∧
      (scope.propertiesOf visiting required (property :: rest)).result = .ok types ∧
      ∀ additional, Entries.get? fields "additionalProperties" = some (.obj additional) →
        ∃ further, (scope.typeByName visiting (.obj additional)).result = .ok further ∧
          index = some further := by
  rw [typeOfObject] at h
  split at h
  · next property' rest' hp =>
    have hsame := Value.obj.inj (Option.some.inj (hp.symm.trans hproperties))
    obtain ⟨rfl, rfl⟩ := List.cons.inj hsame
    obtain ⟨required, -, h⟩ := Outcome.bind_result_eq_ok.1 h
    obtain ⟨types, htypes, h⟩ := Outcome.bind_result_eq_ok.1 h
    split at h
    · next ha =>
      refine ⟨required, types, _, (Except.ok.inj h).symm, htypes, fun additional hadditional => ?_⟩
      cases Option.some.inj (ha.symm.trans hadditional)
    · next additional ha =>
      obtain ⟨further, hfurther, h⟩ := Outcome.bind_result_eq_ok.1 h
      refine ⟨required, types, _, (Except.ok.inj h).symm, htypes, fun additional' hadditional => ?_⟩
      obtain rfl := Value.obj.inj (Option.some.inj (ha.symm.trans hadditional))
      exact ⟨further, hfurther, rfl⟩
    · next ha =>
      exact ⟨required, types, _, (Except.ok.inj h).symm, htypes,
        fun additional hadditional => absurd hadditional (ha additional)⟩
  · next hp => exact absurd hproperties (hp property rest)

/-- A schema without properties is a record of the type of further ones. -/
theorem exists_of_typeOfObject_record {additional : List (String × Value)}
    (h : (scope.typeOfObject visiting fields).result = .ok t)
    (hproperties : ∀ property rest,
      Entries.get? fields "properties" ≠ some (.obj (property :: rest)))
    (hadditional : Entries.get? fields "additionalProperties" = some (.obj additional)) :
    ∃ values, (scope.typeByName visiting (.obj additional)).result = .ok values ∧
      t = .record values := by
  rw [typeOfObject] at h
  split at h
  · next property rest hp => exact absurd hp (hproperties property rest)
  · split at h
    · next ha => cases Option.some.inj (ha.symm.trans hadditional)
    · next additional' ha =>
      obtain rfl := Value.obj.inj (Option.some.inj (ha.symm.trans hadditional))
      obtain ⟨values, hvalues, rfl⟩ := Outcome.map_result_eq_ok.1 h
      exact ⟨values, hvalues, rfl⟩
    · next ha => exact absurd hadditional (ha additional)

/-- An object type is that of properties. -/
theorem exists_properties_of_object
    (h : (scope.typeOfObject visiting fields).result = .ok (.object types index)) :
    ∃ property rest, Entries.get? fields "properties" = some (.obj (property :: rest)) := by
  rw [typeOfObject] at h
  split at h
  · next property rest hp => exact ⟨property, rest, hp⟩
  · split at h
    · cases Except.ok.inj h
    · obtain ⟨values, -, h⟩ := Outcome.map_result_eq_ok.1 h
      cases h
    · cases Except.ok.inj h

/-- The properties of an object type come from `properties`. -/
theorem typeOfObject_forall₂
    (h : (scope.typeOfObject visiting fields).result = .ok (.object types index))
    (hproperties : Entries.get? fields "properties" = some (.obj properties)) :
    List.Forall₂ (fun (p : String × Value) (typed : PropertyHead × TypeExpr) =>
      (scope.propertyType visiting p.2).result = .ok typed.2) properties types := by
  obtain ⟨property, rest, hp⟩ := exists_properties_of_object h
  obtain rfl := Value.obj.inj (Option.some.inj (hp.symm.trans hproperties))
  obtain ⟨required, typed, index', heq, htyped, -⟩ := exists_of_typeOfObject h hp
  obtain ⟨rfl, -⟩ := TypeExpr.object.inj heq
  exact (propertiesOf_spec htyped).imp fun _ _ hspec => hspec.1

/-- An object type without further properties, from the types of its properties. -/
theorem typeOfObject_of_propertiesOf {required : List String} (hne : properties ≠ [])
    (hproperties : Entries.get? fields "properties" = some (.obj properties))
    (hadditional : Entries.get? fields "additionalProperties" = none)
    (hrequired : requiredNames fields = .ok required)
    (h : (scope.propertiesOf visiting required properties).result = .ok types) :
    (scope.typeOfObject visiting fields).result = .ok (.object types none) := by
  rw [typeOfObject]
  split
  · next property rest hp =>
    obtain rfl := Value.obj.inj (Option.some.inj (hp.symm.trans hproperties))
    refine Outcome.bind_result_eq_ok.2 ⟨required, hrequired,
      Outcome.bind_result_eq_ok.2 ⟨types, h, ?_⟩⟩
    split
    · next ha => exact absurd (ha.symm.trans hadditional) (Option.some_ne_none _)
    · next ha => exact absurd (ha.symm.trans hadditional) (Option.some_ne_none _)
    · rfl
  · next hp =>
    obtain ⟨property, rest, rfl⟩ := List.exists_cons_of_ne_nil hne
    exact absurd hproperties (hp property rest)

/-- A property with the shape of a named schema is written by that name, unless the name is
    empty. -/
theorem propertyType_of_nameOf? (href : reference? schema = none)
    (hname : scope.shapes.nameOf? schema = some name) :
    (scope.propertyType visiting schema).result =
      if name ≠ "" then .ok (.named name) else (scope.typeOf visiting schema).result := by
  rw [propertyType, href, hname]
  by_cases hempty : name = "" <;> simp [Outcome.bind_eq, Outcome.note, hempty]

/-! ## The name in the place of the object -/

/-- A schema that has a shape is no reference, and has properties. -/
theorem exists_of_nameOf? (hname : scope.shapes.nameOf? (.obj fields) = some name) :
    reference? (.obj fields) = none ∧
      ∃ property rest, Entries.get? fields "properties" = some (.obj (property :: rest)) := by
  obtain ⟨shape, hshape, -⟩ := Option.bind_eq_some_iff.1 hname
  unfold shape? at hshape
  split at hshape
  · next hobj href =>
    obtain rfl := Value.obj.inj hobj
    split at hshape
    · cases hshape
    · next properties hne hproperties =>
      obtain ⟨property, rest, rfl⟩ := List.exists_cons_of_ne_nil hne
      exact ⟨href, property, rest, hproperties⟩
    · cases hshape
  · cases hshape

/-- An object schema with properties has an object type. -/
theorem exists_object_of_typeOfFields {property : String × Value} {rest : List (String × Value)}
    (hform : HasForm fields .object)
    (hproperties : Entries.get? fields "properties" = some (.obj (property :: rest)))
    (h : (scope.typeOfFields visiting fields).result = .ok base) :
    ∃ types index, base = .object types index := by
  rw [typeOfFields_object hform] at h
  obtain ⟨-, types, index, heq, -⟩ := exists_of_typeOfObject h hproperties
  exact ⟨types, index, heq⟩

/-- A schema of any other form has no object for which a name could stand. -/
theorem nameObject_typeOfFields (hform : ¬ HasForm fields .object)
    (href : reference? (.obj fields) = none)
    (h : (scope.typeOfFields visiting fields).result = .ok base) : base.nameObject name = base := by
  rw [typeOfFields] at h
  split at h
  · next combination branches hb =>
    have hcombine (h : (combination.combine <$> scope.typesOf visiting branches).result = .ok base) :
        base.nameObject name = base := by
      obtain ⟨types, -, rfl⟩ := Outcome.map_result_eq_ok.1 h
      cases combination <;> rfl
    split at h
    · split at h
      · obtain rfl := Except.ok.inj h
        rfl
      · exact hcombine h
    · exact hcombine h
  · next hb =>
    split at h
    · obtain rfl := Except.ok.inj h
      rfl
    · next hc =>
      split at h
      · next hplain =>
        obtain ⟨k, rfl⟩ := exists_keyword_of_plain hplain
        obtain rfl := Except.ok.inj h
        rfl
      · split at h
        · obtain ⟨items, -, rfl⟩ := Outcome.map_result_eq_ok.1 h
          rfl
        · obtain rfl := Except.ok.inj h
          rfl
      · next hobject => exact absurd ⟨href, hb, hc, hobject⟩ hform

/-- The type of a schema that is no reference: that of its keywords, beside `null` if the schema
    is nullable. -/
theorem typeOf_result_eq_ok (href : reference? (.obj fields) = none) :
    (scope.typeOf visiting (.obj fields)).result = .ok t ↔
      ∃ base, (scope.typeOfFields visiting fields).result = .ok base ∧
        t = if (given? (Entries.get? fields "nullable")).isSome then .orNull base else base := by
  rw [typeOf, href]
  simp only [Outcome.bind_result_eq_ok]
  refine exists_congr fun base => and_congr_right fun _ => ?_
  rw [eq_comm]
  exact ⟨fun h => (Except.ok.inj h), fun h => congrArg _ h⟩

theorem text_object_ne_empty (types : List (PropertyHead × TypeExpr)) (index : Option TypeExpr) :
    (TypeExpr.object types index).text ≠ "" := by
  intro h
  have hlength := congrArg String.length h
  cases index <;>
    simp [TypeExpr.text_object, TypeExpr.text_object_index, objectText, String.length_append]
      at hlength

/-- **One property.**  A property with the shape of a named schema is written as its own type
    with the name for the object exactly if it is an object that is not nullable, or if it is no
    object and its type has the text of the name anyway; an empty name is not written, which is
    right only where there is no object. -/
theorem propertyType_text_iff {type : TypeExpr}
    (htype : (scope.propertyType visiting (.obj fields)).result = .ok type)
    (hname : scope.shapes.nameOf? (.obj fields) = some name)
    (ht : (scope.typeOf visiting (.obj fields)).result = .ok t) :
    type.text = (t.nameObject name).text ↔
      (HasForm fields .object ∧ given? (Entries.get? fields "nullable") = none ∧ name ≠ "") ∨
        (¬ HasForm fields .object ∧ (name = "" ∨ t.text = name)) := by
  obtain ⟨href, property, rest, hproperties⟩ := exists_of_nameOf? hname
  obtain ⟨base, hbase, rfl⟩ := (typeOf_result_eq_ok href).1 ht
  rw [propertyType_of_nameOf? href hname, ht] at htype
  by_cases hform : HasForm fields .object
  · obtain ⟨types, index, rfl⟩ := exists_object_of_typeOfFields hform hproperties hbase
    have hobject := text_object_ne_empty types index
    cases hnullable : given? (Entries.get? fields "nullable") with
    | none =>
      by_cases hempty : name = ""
      · obtain rfl : TypeExpr.object types index = type := by simpa [hnullable, hempty] using htype
        simp [hempty, TypeExpr.nameObject, TypeExpr.text_named, hobject, hform]
      · obtain rfl : TypeExpr.named name = type := by simpa [hempty] using htype
        simp [hempty, TypeExpr.nameObject, hform]
    | some v =>
      -- the text with the name ends in `null`, which the name alone does not
      by_cases hempty : name = ""
      · obtain rfl : TypeExpr.orNull (.object types index) = type := by
          simpa [hnullable, hempty] using htype
        simp [hempty, TypeExpr.nameObject, TypeExpr.text_orNull, TypeExpr.text_named, hobject, hform]
      · obtain rfl : TypeExpr.named name = type := by simpa [hempty] using htype
        have hlonger : name ≠ name ++ " | null" := by
          intro h
          simpa [String.length_append] using congrArg String.length h
        simp [TypeExpr.nameObject, TypeExpr.text_orNull, TypeExpr.text_named, hform, hlonger]
  · have hsame : base.nameObject name = base := nameObject_typeOfFields hform href hbase
    have hkept (b : Bool) : (if b then TypeExpr.orNull base else base).nameObject name =
        if b then TypeExpr.orNull base else base := by
      cases b
      · exact hsame
      · exact congrArg TypeExpr.orNull hsame
    rw [hkept]
    by_cases hempty : name = ""
    · obtain rfl : (if (given? (Entries.get? fields "nullable")).isSome then .orNull base
          else base) = type := by simpa [hempty] using htype
      simp [hempty, hform]
    · obtain rfl : TypeExpr.named name = type := by simpa [hempty] using htype
      rw [TypeExpr.text_named, eq_comm]
      simp [hempty, hform]

/-- **Shapes stand for objects only.**  Of the properties of an object type, those with the shape
    of a named schema are written as their own types with the name in the place of the object
    exactly if they are objects that are not nullable, by the order of the keywords (or no
    objects, with types whose text is the name). -/
theorem shaped_text_iff
    (hobject : (scope.typeOfObject visiting fields).result = .ok (.object types index))
    (hproperties : Entries.get? fields "properties" = some (.obj properties)) :
    List.Forall₂ (fun (p : String × Value) (typed : PropertyHead × TypeExpr) =>
      ∀ inner name t, p.2 = .obj inner → scope.shapes.nameOf? p.2 = some name →
        (scope.typeOf visiting p.2).result = .ok t →
        (typed.2.text = (t.nameObject name).text ↔
          (HasForm inner .object ∧ given? (Entries.get? inner "nullable") = none ∧ name ≠ "") ∨
            (¬ HasForm inner .object ∧ (name = "" ∨ t.text = name)))) properties types := by
  refine (typeOfObject_forall₂ hobject hproperties).imp fun p typed htype => ?_
  rintro inner name t hinner hname ht
  rw [hinner] at htype hname ht
  exact propertyType_text_iff htype hname ht

/-- A document with one schema, of things with an `id`. -/
def thingDocument : Value :=
  .obj [("components", .obj [("schemas",
    .obj [("Thing", .obj [("properties", .obj [("id", .obj [])])])])])]

/-- The scope of the document. -/
def thingScope : Scope := ⟨thingDocument, ⟨[(.ofList ["id"], "Thing")]⟩⟩

/-- A schema of such things, and one of such things or `null`. -/
def thingFields : List (String × Value) := [("properties", .obj [("id", .obj [])])]

def nullableThingFields : List (String × Value) := ("nullable", .bool true) :: thingFields

/-- Both types say that the `id` may be missing. -/
def thingType : TypeExpr := .object [(⟨none, "id", true⟩, .unknown)] none

/-- An object with one property of each of the two schemas. -/
def ownerProperties : List (String × Value) :=
  [("owned", .obj thingFields), ("wanted", .obj nullableThingFields)]

def ownerFields : List (String × Value) := [("properties", .obj ownerProperties)]

/-- Both properties are written by the name. -/
def ownerTypes : List (PropertyHead × TypeExpr) :=
  [(⟨none, "owned", true⟩, .named "Thing"), (⟨none, "wanted", true⟩, .named "Thing")]

theorem nameOf?_thing :
    thingScope.shapes.nameOf? (.obj thingFields) = some "Thing" ∧
      thingScope.shapes.nameOf? (.obj nullableThingFields) = some "Thing" := by decide

theorem typeOfObject_owner :
    (thingScope.typeOfObject [] ownerFields).result = .ok (.object ownerTypes none) := by
  have hnamed {fields : List (String × Value)} (href : reference? (.obj fields) = none)
      (hname : thingScope.shapes.nameOf? (.obj fields) = some "Thing") :
      (thingScope.propertyType [] (.obj fields)).result = .ok (.named "Thing") := by
    rw [propertyType_of_nameOf? href hname, if_pos (by decide)]
  have hproperties :
      (thingScope.propertiesOf [] [] ownerProperties).result = .ok ownerTypes := by
    rw [ownerProperties, propertiesOf, propertiesOf, propertiesOf]
    refine Outcome.bind_result_eq_ok.2 ⟨_, hnamed rfl nameOf?_thing.1, ?_⟩
    refine Outcome.bind_result_eq_ok.2 ⟨_, ?_, rfl⟩
    refine Outcome.bind_result_eq_ok.2 ⟨_, hnamed rfl nameOf?_thing.2, ?_⟩
    exact Outcome.bind_result_eq_ok.2 ⟨_, rfl, rfl⟩
  exact typeOfObject_of_propertiesOf (List.cons_ne_nil _ _) rfl rfl rfl hproperties

theorem typeOf_thing :
    (thingScope.typeOf [] (.obj thingFields)).result = .ok thingType ∧
      (thingScope.typeOf [] (.obj nullableThingFields)).result = .ok (.orNull thingType) := by
  have hproperties : (thingScope.propertiesOf [] [] [("id", .obj [])]).result =
      .ok [(⟨none, "id", true⟩, .unknown)] := by cbv
  have hfields {fields : List (String × Value)} (hform : HasForm fields .object)
      (hget : Entries.get? fields "properties" = some (.obj [("id", .obj [])]))
      (hadditional : Entries.get? fields "additionalProperties" = none)
      (hrequired : requiredNames fields = .ok []) :
      (thingScope.typeOfFields [] fields).result = .ok thingType := by
    rw [typeOfFields_object hform]
    exact typeOfObject_of_propertiesOf (List.cons_ne_nil _ _) hget hadditional hrequired
      hproperties
  constructor
  · exact (typeOf_result_eq_ok rfl).2
      ⟨_, hfields ⟨rfl, rfl, rfl, rfl⟩ rfl rfl rfl, rfl⟩
  · exact (typeOf_result_eq_ok rfl).2
      ⟨_, hfields ⟨rfl, rfl, rfl, rfl⟩ rfl rfl rfl, rfl⟩

/-- The first of the two properties is written as it should be, the second is not. -/
theorem shaped_text_iff_owner :
    (thingScope.typeOfObject [] ownerFields).result = .ok (.object ownerTypes none) ∧
      Entries.get? ownerFields "properties" = some (.obj ownerProperties) ∧
      (TypeExpr.named "Thing").text = (thingType.nameObject "Thing").text ∧
      (TypeExpr.named "Thing").text ≠ ((TypeExpr.orNull thingType).nameObject "Thing").text := by
  have hall := shaped_text_iff typeOfObject_owner rfl
  obtain ⟨howned, hrest⟩ := List.forall₂_cons.1 hall
  obtain ⟨hwanted, -⟩ := List.forall₂_cons.1 hrest
  refine ⟨typeOfObject_owner, rfl, ?_, fun heq => ?_⟩
  · exact (howned _ _ _ rfl nameOf?_thing.1 typeOf_thing.1).2
      (Or.inl ⟨⟨rfl, rfl, rfl, rfl⟩, rfl, by decide⟩)
  · rcases (hwanted _ _ _ rfl nameOf?_thing.2 typeOf_thing.2).1 heq with ⟨-, hnullable, -⟩ | ⟨hform, -⟩
    · cases hnullable
    · exact hform ⟨rfl, rfl, rfl, rfl⟩

/-- Not all properties with the shape of a named schema are written as their own types with the
    name for the object: a nullable one loses its `null`. -/
theorem not_shaped_text_nullable :
    ¬ ∀ document scope, Scope.ofDocument document = .ok scope →
      ∀ visiting fields types index properties,
        (scope.typeOfObject visiting fields).result = .ok (.object types index) →
        Entries.get? fields "properties" = some (.obj properties) →
        List.Forall₂ (fun (p : String × Value) (typed : PropertyHead × TypeExpr) =>
          ∀ inner name t, p.2 = .obj inner → scope.shapes.nameOf? p.2 = some name →
            (scope.typeOf visiting p.2).result = .ok t →
            typed.2.text = (t.nameObject name).text) properties types := by
  intro hall
  have howner := hall thingDocument thingScope rfl [] _ _ _ _ typeOfObject_owner rfl
  obtain ⟨-, hrest⟩ := List.forall₂_cons.1 howner
  obtain ⟨hwanted, -⟩ := List.forall₂_cons.1 hrest
  have htext : "Thing" = "Thing | null" :=
    hwanted _ "Thing" _ rfl nameOf?_thing.2 typeOf_thing.2
  exact absurd htext (by decide)

end Scope

end ApiTypes
