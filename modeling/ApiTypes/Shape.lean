/-
  Recognising a named schema by its shape.

  The shape of an object schema is the set of its property names; the types of
  the properties do not matter. `ShapeTable.ofSchemas` lists the shapes of a
  document's schemas with the name of the first schema of each shape, and
  `ShapeTable.nameOf?` looks an inline schema up.
-/
import ApiTypes.NameSet
import ApiTypes.Reference

namespace ApiTypes

open Json (Value)

/-- The property names of an object schema that has properties; a reference has
no shape of its own. -/
def shape? (schema : Value) : Option NameSet :=
  match schema, reference? schema with
  | .obj fields, none =>
    match Entries.get? fields "properties" with
    | some (.obj []) => none
    | some (.obj properties) => some (.ofList (properties.map (·.1)))
    | _ => none
  | _, _ => none

/-- Shapes with the name of a schema for each, in order of appearance. -/
structure ShapeTable where
  rows : List (NameSet × String)

namespace ShapeTable

/-- The name that the table has for a shape. -/
def find? (table : ShapeTable) (shape : NameSet) : Option String :=
  (table.rows.find? (·.1 = shape)).map (·.2)

/-- The table with one more schema; a shape keeps the name it has. -/
def add (table : ShapeTable) (name : String) (schema : Value) : ShapeTable :=
  match shape? schema with
  | none => table
  | some shape => if (table.find? shape).isSome then table else ⟨table.rows ++ [(shape, name)]⟩

/-- The shapes of named schemas. -/
def ofSchemas (schemas : List (String × Value)) : ShapeTable :=
  schemas.foldl (fun table (name, schema) => table.add name schema) ⟨[]⟩

/-- The named schema with the property names of an inline one. -/
def nameOf? (table : ShapeTable) (schema : Value) : Option String :=
  (shape? schema).bind table.find?

end ShapeTable

end ApiTypes
