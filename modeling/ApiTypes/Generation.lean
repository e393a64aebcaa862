/-
  Everything generated for one document.

  * each component schema is declared under its name; a schema that refers to
    something that is missing or has no type is reported among the `errors`, and
    the others are not affected;
  * each endpoint is declared under its name behind `endpoint:`;
  * the URLs of the endpoints form the tree of constants.
-/
import ApiTypes.Endpoint
import ApiTypes.UrlTree

namespace ApiTypes

open Json (Value)

/-- What is generated for a document: declarations by key, endpoints, the tree of
URLs, and the schemas that could not be declared with the cause. -/
structure Generation where
  declarations : List (String × Declaration)
  endpoints : List Endpoint
  urlTree : List (String × UrlTree)
  errors : List (String × Failure)

namespace Generation

/-- What the keys of endpoint declarations start with. -/
def endpointMark : String := "endpoint:"

/-- The name of the endpoint that a key stands for, if it stands for one. -/
def endpointName? (key : String) : Option String :=
  if endpointMark.toList.isPrefixOf key.toList then
    some (String.ofList (key.toList.drop endpointMark.toList.length))
  else none

/-- The declarations of schemas. -/
def schemaDeclarations (g : Generation) : List (String × Declaration) :=
  g.declarations.filter fun (key, _) => (endpointName? key).isNone

/-- The declarations of endpoints, by the endpoint's name. -/
def endpointDeclarations (g : Generation) : List (String × Declaration) :=
  g.declarations.filterMap fun (key, d) => (endpointName? key).map fun name => (name, d)

/-- Declares one more schema, or notes why it cannot be declared. -/
def addSchema (scope : Scope)
    (done : List (String × Declaration) × List (String × Failure)) (name : String)
    (schema : Value) :
    Except Failure (List (String × Declaration) × List (String × Failure)) :=
  match declareSchema scope name schema with
  | .ok declaration => .ok (Entries.set done.1 name declaration, done.2)
  | .error .malformed => .error .malformed
  | .error cause => .ok (done.1, Entries.set done.2 name cause)

/-- The declaration of an endpoint. -/
def declarationOf (endpoint : Endpoint) : Except Failure Declaration := do
  return ⟨endpoint.name, ← endpoint.code, endpoint.dependencies, none⟩

/-- Generates everything for a document in normal form. -/
def ofDocument (document : Value) (skip : Value) : Except Failure Generation := do
  let scope ← Scope.ofDocument document
  let schemas ← components document .schemas
  let (declared, errors) ← schemas.foldlM (fun done (name, schema) =>
    addSchema scope done name schema) ([], [])
  let endpoints ← endpointsOf scope skip
  let made ← endpoints.mapM declarationOf
  return {
    declarations := made.foldl (fun written d =>
      Entries.set written (endpointMark ++ d.name) d) declared
    endpoints := endpoints
    urlTree := UrlTree.build (endpoints.map fun e => ⟨e.name, e.folder, e.path⟩)
    errors := errors }

end Generation

end ApiTypes
