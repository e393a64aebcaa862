/-
  Declarations: named pieces of generated code with the names that they use.
-/
import ApiTypes.Dependency
import ApiTypes.Schema

namespace ApiTypes

open Json (Value)

/-- A declared type: its name, its code, the names it depends on, and its type if
it is one type. -/
structure Declaration where
  name : String
  code : String
  dependencies : NameSet
  type : Option TypeExpr

/-- The declaration of a component schema, with what it depends on. -/
def declareSchema (scope : Scope) (name : String) (schema : Value) :
    Except Failure Declaration := do
  let outcome := scope.declare name schema
  let (type, code) ← outcome.result
  let referred ← dependencies scope.document schema
  return ⟨name, code, referred.union (.ofList outcome.matched), some type⟩

/-- The declaration of a type for the schema of a message, under its description. -/
def declarePayload (scope : Scope) (name : String) (schema : Value)
    (description : Option Value) : Except Failure Declaration := do
  let outcome := scope.typeByName [] schema
  let type ← outcome.result
  let comment ← Comment.blockOf "" description
  let referred ← dependencies scope.document schema
  return ⟨name, comment ++ exportType name type, referred.union (.ofList outcome.matched),
    some type⟩

end ApiTypes
