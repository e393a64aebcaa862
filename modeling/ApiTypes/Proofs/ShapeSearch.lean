/-
  Shapes are looked up by the first schema that has them.

  The table of shapes has one row for each set of property names, made by the first schema
  with these properties.  Looking a schema up in it is a search through the schemas.

  * `HasProperties`: a schema is an object of its own with some properties, and these are they;
    `SharesNames`: it has properties of certain names and no others, in whatever order;
  * `shape?_eq_some_iff_sharesNames`: two schemas have one shape exactly if they share names;
  * `nameOf?_iff_first`: a name is found exactly if it is that of the first schema that shares
    the names; and that schema is never a dangling reference.
-/
import ApiTypes.Proofs.OtherSchemas

namespace ApiTypes

open Generation (propertyNames shape?_eq_some_iff)
open Json (Value)

/-! ## Property names -/

/-- A schema is an object, but no reference, and has these properties, of which there are some. -/
structure HasProperties (schema : Value) (properties : List (String × Value)) : Prop where
  own : reference? schema = none
  get : schema.field? "properties" = some (.obj properties)
  ne_nil : properties ≠ []

/-- A schema has properties of the names of others, and of no other names, in whatever order. -/
def SharesNames (properties : List (String × Value)) (schema : Value) : Prop :=
  ∃ own, HasProperties schema own ∧
    ∀ name, name ∈ Entries.keys own ↔ name ∈ Entries.keys properties

variable {schema query : Value} {properties : List (String × Value)} {shape : NameSet}
  {name : String} {schemas : List (String × Value)}

theorem HasProperties.propertyNames_eq (h : HasProperties schema properties) :
    propertyNames schema = Entries.keys properties := by
  rw [propertyNames, h.get]
  rfl

/-- The schemas that have property names are those that have properties. -/
theorem exists_hasProperties_iff : (∃ properties, HasProperties schema properties) ↔
    reference? schema = none ∧ propertyNames schema ≠ [] := by
  constructor
  · rintro ⟨properties, h⟩
    refine ⟨h.own, ?_⟩
    rw [h.propertyNames_eq]
    exact mt List.map_eq_nil_iff.1 h.ne_nil
  · rintro ⟨href, hne⟩
    unfold propertyNames at hne
    cases hget : schema.field? "properties" with
    | none => exact absurd (by rw [hget]; rfl) hne
    | some v =>
      rw [hget] at hne
      cases v with
      | obj properties =>
        refine ⟨properties, href, hget, ?_⟩
        rintro rfl
        exact hne rfl
      | _ => exact absurd rfl hne

/-- **The shape of a schema** holds its property names. -/
theorem shape?_eq_some_iff_hasProperties : shape? schema = some shape ↔
    ∃ properties, HasProperties schema properties ∧
      ∀ name, name ∈ shape ↔ name ∈ Entries.keys properties := by
  rw [shape?_eq_some_iff]
  constructor
  · rintro ⟨href, hne, hnames⟩
    obtain ⟨properties, h⟩ := exists_hasProperties_iff.2 ⟨href, hne⟩
    exact ⟨properties, h, h.propertyNames_eq ▸ hnames⟩
  · rintro ⟨properties, h, hnames⟩
    obtain ⟨href, hne⟩ := exists_hasProperties_iff.1 ⟨properties, h⟩
    exact ⟨href, hne, h.propertyNames_eq ▸ hnames⟩

/-- **The same shape.**  A schema has the shape of some properties if it shares their names. -/
theorem shape?_eq_some_iff_sharesNames
    (h : ∀ name, name ∈ shape ↔ name ∈ Entries.keys properties) :
    shape? schema = some shape ↔ SharesNames properties schema := by
  rw [shape?_eq_some_iff_hasProperties]
  refine exists_congr fun own => and_congr_right' (forall_congr' fun name => ?_)
  rw [h name]
  exact iff_comm

/-- A schema that is no reference is not reported for one, whatever its type needs. -/
theorem Scope.declare_ne_unresolved {scope : Scope} (href : reference? schema = none)
    (reference : String) :
    (scope.declare name schema).result ≠ .error (.unresolved reference) := by
  intro h
  have hdeclare : declareSchema scope name schema = .error (.unresolved reference) :=
    Steps.bind_eq_error.2 (Or.inl h)
  rcases eq_malformed_or_of_declareSchema hdeclare with hcause | ⟨_, href', -, -⟩
  · cases hcause
  · cases href.symm.trans href'

/-! ## Searching -/

namespace ShapeTable

/-- A shape has the name of the first schema of that shape, behind others of other shapes. -/
theorem find?_ofSchemas_eq_some_iff : (ofSchemas schemas).find? shape = some name ↔
    ∃ before schema after, schemas = before ++ (name, schema) :: after ∧
      shape? schema = some shape ∧ ∀ e ∈ before, shape? e.2 ≠ some shape := by
  rw [find?_ofSchemas, Option.map_eq_some_iff]
  constructor
  · rintro ⟨⟨_, schema⟩, hfound, rfl⟩
    obtain ⟨hshape, before, after, hschemas, hbefore⟩ := List.find?_eq_some_iff_append.1 hfound
    exact ⟨before, schema, after, hschemas, of_decide_eq_true hshape,
      fun e he heq => by simpa [heq] using hbefore e he⟩
  · rintro ⟨before, schema, after, hschemas, hshape, hbefore⟩
    refine ⟨(name, schema), List.find?_eq_some_iff_append.2 ⟨decide_eq_true hshape, before, after,
      hschemas, fun e he => ?_⟩, rfl⟩
    simpa using hbefore e he

/-- **Searching.**  The table finds what a search through the schemas finds first. -/
theorem nameOf?_ofSchemas_eq_some_iff : (ofSchemas schemas).nameOf? query = some name ↔
    ∃ properties, HasProperties query properties ∧
      ∃ before schema after, schemas = before ++ (name, schema) :: after ∧
        SharesNames properties schema ∧ ∀ e ∈ before, ¬ SharesNames properties e.2 := by
  rw [nameOf?, Option.bind_eq_some_iff]
  constructor
  · rintro ⟨shape, hquery, hfound⟩
    obtain ⟨properties, hproperties, hnames⟩ := shape?_eq_some_iff_hasProperties.1 hquery
    obtain ⟨before, schema, after, hschemas, hschema, hbefore⟩ :=
      find?_ofSchemas_eq_some_iff.1 hfound
    exact ⟨properties, hproperties, before, schema, after, hschemas,
      (shape?_eq_some_iff_sharesNames hnames).1 hschema,
      fun e he hshares => hbefore e he ((shape?_eq_some_iff_sharesNames hnames).2 hshares)⟩
  · rintro ⟨properties, hproperties, before, schema, after, hschemas, hschema, hbefore⟩
    have hnames (key : String) : key ∈ NameSet.ofList (Entries.keys properties) ↔
        key ∈ Entries.keys properties := NameSet.mem_ofList
    refine ⟨.ofList (Entries.keys properties),
      shape?_eq_some_iff_hasProperties.2 ⟨properties, hproperties, hnames⟩,
      find?_ofSchemas_eq_some_iff.2 ⟨before, schema, after, hschemas,
        (shape?_eq_some_iff_sharesNames hnames).2 hschema, fun e he hshape => ?_⟩⟩
    exact hbefore e he ((shape?_eq_some_iff_sharesNames hnames).1 hshape)

/-- **The first match.**  A schema is found under a name if and only if it has properties, and the
    name is that of the first schema, in the order of the document, that has properties of the
    same names.  The name is a key of the schemas, and the schema under it is not reported for a
    reference. -/
theorem nameOf?_iff_first (schemas : List (String × Value)) (hnodup : (Entries.keys schemas).Nodup)
    (query : Value) (name : String) :
    ((ofSchemas schemas).nameOf? query = some name ↔
      ∃ properties, HasProperties query properties ∧
        ∃ before schema after, schemas = before ++ (name, schema) :: after ∧
          SharesNames properties schema ∧ ∀ e ∈ before, ¬ SharesNames properties e.2) ∧
    ((ofSchemas schemas).nameOf? query = some name →
      ∃ schema, Entries.get? schemas name = some schema ∧ ∀ (scope : Scope) reference,
        (scope.declare name schema).result ≠ .error (.unresolved reference)) := by
  refine ⟨nameOf?_ofSchemas_eq_some_iff, fun h => ?_⟩
  obtain ⟨properties, -, before, schema, after, hschemas, ⟨own, hown, -⟩, -⟩ :=
    nameOf?_ofSchemas_eq_some_iff.1 h
  have hmem : (name, schema) ∈ schemas := by
    rw [hschemas]
    exact List.mem_append_right _ List.mem_cons_self
  exact ⟨schema, (Entries.get?_eq_some_iff hnodup).2 hmem,
    fun scope reference => Scope.declare_ne_unresolved hown.own reference⟩

/-- Properties of a point, in one order. -/
def pointProperties : List (String × Value) := [("x", .obj []), ("y", .obj [])]

/-- A reference, an object without properties, and two schemas with the same properties. -/
def pointSchemas : List (String × Value) :=
  [("Alias", .obj [("$ref", .str "#/components/schemas/Point"),
      ("properties", .obj pointProperties)]),
    ("Nothing", .obj [("properties", .obj [])]),
    ("Point", .obj [("properties", .obj pointProperties)]),
    ("Vector", .obj [("properties", .obj pointProperties.reverse)])]

/-- The properties in the other order are found under the name of the first of the two. -/
theorem nameOf?_iff_first_point :
    let query : Value := .obj [("properties", .obj pointProperties.reverse)]
    (Entries.keys pointSchemas).Nodup ∧
    (ofSchemas pointSchemas).nameOf? query = some "Point" ∧
    ∃ schema, Entries.get? pointSchemas "Point" = some schema ∧ ∀ (scope : Scope) reference,
      (scope.declare "Point" schema).result ≠ .error (.unresolved reference) := by
  intro query
  have hnodup : (Entries.keys pointSchemas).Nodup := by decide
  obtain ⟨hfirst, hdeclared⟩ := nameOf?_iff_first pointSchemas hnodup query "Point"
  have hpoint : HasProperties (.obj [("properties", .obj pointProperties)]) pointProperties :=
    ⟨rfl, rfl, List.cons_ne_nil _ _⟩
  have hfound : (ofSchemas pointSchemas).nameOf? query = some "Point" := by
    refine hfirst.2 ⟨pointProperties.reverse, ⟨rfl, rfl, nofun⟩, pointSchemas.take 2, _,
      pointSchemas.drop 3, rfl, ⟨pointProperties, hpoint, ?_⟩, ?_⟩
    · simp [Entries.keys]
    · intro e he
      have hbefore : e = pointSchemas[0] ∨ e = pointSchemas[1] := by
        simpa [pointSchemas] using he
      rcases hbefore with rfl | rfl
      · rintro ⟨own, hown, -⟩
        have href : reference? pointSchemas[0].2 = some "#/components/schemas/Point" := rfl
        cases href.symm.trans hown.own
      · rintro ⟨own, hown, -⟩
        have hget : pointSchemas[1].2.field? "properties" = some (.obj []) := rfl
        exact hown.ne_nil (Value.obj.inj (Option.some.inj (hget.symm.trans hown.get))).symm
  exact ⟨hnodup, hfound, hdeclared hfound⟩

end ShapeTable

end ApiTypes
