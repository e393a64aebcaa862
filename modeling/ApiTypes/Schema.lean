/-
  The type of a schema.

  A schema is read by the first of its keywords in the order reference,
  `nullable`, `oneOf`, `anyOf`, `allOf`, `enum`, array, object, primitive; what
  fits none of them has the type `unknown`.

  * `Scope.typeOf` gives the type of a schema. A reference is followed one step,
    unless its name is being expanded already or its target has no type; then
    only the name is written. Every expansion takes a name of the document's
    components that was not being expanded before, so the recursion ends;
  * `Scope.typeByName` is for places where a reference is never followed;
  * branches that only say "this reference, or nothing" collapse to the name
    (`collapsed?`);
  * an inline property that has the shape of a named schema is written by that
    name, and the name is noted in the outcome.
-/
import ApiTypes.Json.Writer
import ApiTypes.Outcome
import ApiTypes.Shape
import ApiTypes.TypeExpr

namespace ApiTypes

open Json (Value given?)

/-! ## Keywords -/

/-- The keywords that give a schema a form, even when they are empty. -/
def formKeys : List String :=
  ["properties", "items", "enum", "oneOf", "anyOf", "allOf", "additionalProperties"]

/-- A schema that says nothing about its values: no form, and no type but null. -/
def isEmptySchema (schema : Value) : Bool :=
  match schema, reference? schema with
  | .obj fields, none =>
    (match Entries.get? fields "type" with
      | none => true
      | some .null => true
      | some (.str s) => s == "null"
      | some _ => false) && !formKeys.any (Entries.has fields)
  | _, _ => false

/-- The name of the references among branches, if all references have one name and
all other branches are empty. -/
def collapsed? (branches : List Value) : Option String :=
  let names := (branches.filterMap reference?).map Reference.name
  if branches.all fun b => (reference? b).isSome || isEmptySchema b then
    match names with
    | [] => none
    | name :: rest => if rest.all (· = name) then some name else none
  else none

/-- How the branches of a schema are combined. -/
inductive Combination where
  | union
  | intersection
  deriving DecidableEq, Repr

/-- The type that combines branches. -/
def Combination.combine : Combination → List TypeExpr → TypeExpr
  | union => .union
  | intersection => .intersection

/-- The first of the keywords with branches that has any. -/
def branches? (fields : List (String × Value)) : Option (Combination × List Value) :=
  [("oneOf", Combination.union), ("anyOf", .union), ("allOf", .intersection)].findSome?
    fun (key, combination) =>
      match Entries.get? fields key with
      | some (.arr (b :: rest)) => some (combination, b :: rest)
      | _ => none

/-- A constant of an enumeration. -/
def Literal.ofValue : Value → Literal
  | .str s => .text s
  | v => .written (Json.write v)

/-- The constants of an enumeration that has any. -/
def constants? (fields : List (String × Value)) : Option (List Literal) :=
  match Entries.get? fields "enum" with
  | some (.arr (v :: rest)) => some ((v :: rest).map Literal.ofValue)
  | _ => none

/-- The type of a schema that only names it. -/
def primitive (name : String) : TypeExpr :=
  match name with
  | "string" => .keyword .string
  | "number" => .keyword .number
  | "integer" => .keyword .number
  | "boolean" => .keyword .boolean
  | "null" => .keyword .null
  | _ => .unknown

/-- What the type of a schema says about its form. -/
inductive Form where
  | array
  | object
  | plain (type : TypeExpr)

/-- The form of a schema: one with properties and no type is an object. -/
def Form.ofFields (fields : List (String × Value)) : Form :=
  match Entries.get? fields "type" with
  | some (.str "array") => array
  | some (.str "object") => object
  | some (.str name) => plain (primitive name)
  | none | some .null =>
    if (given? (Entries.get? fields "properties")).isSome then object else plain .unknown
  | some _ => plain .unknown

/-- The names that an object schema requires. -/
def requiredNames (fields : List (String × Value)) : Except Failure (List String) := do
  let names ← Document.elementsOf (Entries.get? fields "required")
  if names.any fun v => v.fields?.isSome || v.items?.isSome then throw .malformed
  else return names.filterMap Value.text?

theorem sizeOf_lt_of_branches? {fields : List (String × Value)} {combination : Combination}
    {branches : List Value} (h : branches? fields = some (combination, branches)) :
    sizeOf branches < sizeOf fields := by
  obtain ⟨⟨key, c⟩, -, hk⟩ := List.exists_of_findSome?_eq_some h
  dsimp only at hk
  split at hk
  · next hget =>
    have := Json.sizeOf_lt_of_get? hget
    simp only [Option.some.injEq, Prod.mk.injEq] at hk
    rw [← hk.2]
    simp only [Value.arr.sizeOf_spec] at this
    omega
  · simp at hk

/-! ## Types -/

/-- What the references and shapes of a schema are looked up in. -/
structure Scope where
  document : Value
  shapes : ShapeTable

/-- The scope of a document with the shapes of its own schemas. -/
def Scope.ofDocument (document : Value) : Except Failure Scope := do
  return ⟨document, .ofSchemas (← components document .schemas)⟩

namespace Scope

mutual

/-- The type of a schema while the names in `visiting` are being expanded. -/
def typeOf (scope : Scope) (visiting : List String) (schema : Value) : Outcome TypeExpr :=
  match schema with
  | .obj fields =>
    match reference? (.obj fields) with
    | some reference =>
      let name := Reference.name reference
      if _hv : name ∈ visiting then return .named name
      else
        match _hr : resolve scope.document reference with
        | .error e => .ofExcept (.error e)
        | .ok none => return .named name
        | .ok (some target) =>
          if (target.field? "type").isSome then scope.typeOf (name :: visiting) target
          else return .named name
    | none => do
      let base ← scope.typeOfFields visiting fields
      return if (given? (Entries.get? fields "nullable")).isSome then .orNull base else base
  | _ => return .unknown
termination_by (unseen scope.document visiting, sizeOf schema, 0)
decreasing_by
  · exact Prod.Lex.left _ _ (unseen_lt _hv (name_mem_componentNames _hr))
  · refine Prod.Lex.right _ (Prod.Lex.left _ _ ?_)
    simp only [Value.obj.sizeOf_spec]
    omega

/-- The type of a schema by name if it is a reference. -/
def typeByName (scope : Scope) (visiting : List String) (schema : Value) : Outcome TypeExpr :=
  match reference? schema with
  | some reference => return .named (Reference.name reference)
  | none => scope.typeOf visiting schema
termination_by (unseen scope.document visiting, sizeOf schema, 1)
decreasing_by
  exact Prod.Lex.right _ (Prod.Lex.right _ (by decide))

/-- The type of a schema that is no reference, apart from `nullable`. -/
def typeOfFields (scope : Scope) (visiting : List String) (fields : List (String × Value)) :
    Outcome TypeExpr :=
  match _hb : branches? fields with
  | some (combination, branches) =>
    match collapsed? branches with
    | some name =>
      if name ≠ "" then return .named name
      else combination.combine <$> scope.typesOf visiting branches
    | none => combination.combine <$> scope.typesOf visiting branches
  | none =>
    match constants? fields with
    | some constants => return .literals constants
    | none =>
      match Form.ofFields fields with
      | .plain type => return type
      | .array =>
        match _hi : Entries.get? fields "items" with
        | some (.obj items) => .array <$> scope.typeByName visiting (.obj items)
        | _ => return .array .unknown
      | .object => scope.typeOfObject visiting fields
termination_by (unseen scope.document visiting, sizeOf fields, 3)
decreasing_by
  · exact Prod.Lex.right _ (Prod.Lex.left _ _ (sizeOf_lt_of_branches? _hb))
  · exact Prod.Lex.right _ (Prod.Lex.left _ _ (sizeOf_lt_of_branches? _hb))
  · exact Prod.Lex.right _ (Prod.Lex.left _ _ (Json.sizeOf_lt_of_get? _hi))
  · exact Prod.Lex.right _ (Prod.Lex.right _ (by decide))

/-- The types of several schemas. -/
def typesOf (scope : Scope) (visiting : List String) (schemas : List Value) :
    Outcome (List TypeExpr) :=
  match schemas with
  | [] => return []
  | schema :: rest => do
    let type ← scope.typeOf visiting schema
    let types ← scope.typesOf visiting rest
    return type :: types
termination_by (unseen scope.document visiting, sizeOf schemas, 0)
decreasing_by
  all_goals
    refine Prod.Lex.right _ (Prod.Lex.left _ _ ?_)
    simp only [List.cons.sizeOf_spec]
    omega

/-- The type of an object schema: its properties with an index for further ones,
or a record if it has no properties. -/
def typeOfObject (scope : Scope) (visiting : List String) (fields : List (String × Value)) :
    Outcome TypeExpr :=
  match _hp : Entries.get? fields "properties" with
  | some (.obj (property :: rest)) => do
    let required ← Outcome.ofExcept (requiredNames fields)
    let properties ← scope.propertiesOf visiting required (property :: rest)
    match _ha : Entries.get? fields "additionalProperties" with
    | some (.bool true) => return .object properties (some .unknown)
    | some (.obj additional) =>
      let index ← scope.typeByName visiting (.obj additional)
      return .object properties (some index)
    | _ => return .object properties none
  | _ =>
    match _ha : Entries.get? fields "additionalProperties" with
    | some (.bool false) => return .record (.keyword .never)
    | some (.obj additional) => .record <$> scope.typeByName visiting (.obj additional)
    | _ => return .record .unknown
termination_by (unseen scope.document visiting, sizeOf fields, 2)
decreasing_by
  · refine Prod.Lex.right _ (Prod.Lex.left _ _ ?_)
    have := Json.sizeOf_lt_of_get? _hp
    simp only [Value.obj.sizeOf_spec] at this
    omega
  · exact Prod.Lex.right _ (Prod.Lex.left _ _ (Json.sizeOf_lt_of_get? _ha))
  · exact Prod.Lex.right _ (Prod.Lex.left _ _ (Json.sizeOf_lt_of_get? _ha))

/-- The properties of an object type. -/
def propertiesOf (scope : Scope) (visiting required : List String)
    (properties : List (String × Value)) : Outcome (List (PropertyHead × TypeExpr)) :=
  match properties with
  | [] => return []
  | (key, schema) :: rest => do
    let type ← scope.propertyType visiting schema
    let others ← scope.propertiesOf visiting required rest
    let comment :=
      if (reference? schema).isSome then none
      else Comment.ofProperty? (schema.field? "description")
    return (⟨comment, key, key ∉ required⟩, type) :: others
termination_by (unseen scope.document visiting, sizeOf properties, 0)
decreasing_by
  all_goals
    refine Prod.Lex.right _ (Prod.Lex.left _ _ ?_)
    simp only [List.cons.sizeOf_spec, Prod.mk.sizeOf_spec]
    omega

/-- The type of a property: the name of a reference, the name of a schema with the
same shape, or the type of its own schema. -/
def propertyType (scope : Scope) (visiting : List String) (schema : Value) :
    Outcome TypeExpr :=
  match reference? schema with
  | some reference => return .named (Reference.name reference)
  | none =>
    match scope.shapes.nameOf? schema with
    | some name => do
      Outcome.note name
      if name ≠ "" then return .named name else scope.typeOf visiting schema
    | none => scope.typeOf visiting schema
termination_by (unseen scope.document visiting, sizeOf schema, 1)
decreasing_by
  all_goals exact Prod.Lex.right _ (Prod.Lex.right _ (by decide))

end

/-! ## Declarations -/

/-- The type of a named schema and the code that declares it. A schema that is a
reference is followed one step, and must lead to a schema with a type. -/
def declare (scope : Scope) (name : String) (schema : Value) : Outcome (TypeExpr × String) := do
  let resolved ← Outcome.ofExcept (resolveSchema scope.document schema)
  let type ← scope.typeOf [name] resolved
  let description ← Outcome.ofExcept (Document.get resolved "description")
  let comment ← Outcome.ofExcept (Comment.blockOf "" description)
  return (type, comment ++ exportType name type)

end Scope

end ApiTypes
