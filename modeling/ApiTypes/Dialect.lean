/-
  The two dialects of API documents, and the form that both are brought to.

  A document says by a text under `openapi` or `swagger` which dialect it is in.
  `normalize` gives it the form of the newer one, with `paths`, with components
  of the three kinds, and with `tags`. In a document of the older dialect

  * `definitions`, `parameters` and `responses` become components;
  * the body parameter of an operation becomes its JSON request body
    (`convertOperation`);
  * the schema of a response becomes its JSON content (`convertResponse`).
-/
import ApiTypes.Document

namespace ApiTypes

open Json (Value given?)

/-- The dialect of a document. -/
inductive Dialect where
  | openApi
  | swagger
  deriving DecidableEq, Repr

namespace Dialect

/-- The key under which a document of the dialect has its version. -/
def marker : Dialect → String
  | openApi => "openapi"
  | swagger => "swagger"

/-- Whether a document carries the marker of the dialect. -/
def marks (dialect : Dialect) (document : Value) : Bool :=
  ((document.field? dialect.marker).bind Value.text?).isSome

/-- The dialect of a document; the newer one wins if it carries both markers. -/
def of? (document : Value) : Option Dialect :=
  if openApi.marks document then some openApi
  else if swagger.marks document then some swagger
  else none

end Dialect

/-- The version that a document states under a marker, or `unknown`. -/
def statedVersion (document : Value) : Except Failure Value := do
  let newer := given? (← Document.get document "openapi")
  let older := given? (← Document.get document "swagger")
  return (newer.or older).getD (.str "unknown")

/-! ## Older documents -/

/-- The media type of the content that types are made for. -/
def jsonMedia : String := "application/json"

/-- The methods of a path that operations stand under. -/
def methods : List String := ["get", "post", "put", "patch", "delete", "head", "options"]

/-- The value, or an empty list for one that is left out or empty. -/
def orNoItems (v : Option Value) : Value := (given? v).getD (.arr [])

/-- The content of a message with one JSON schema. -/
def jsonContent (schema : Value) : Value :=
  .obj [(jsonMedia, .obj [("schema", schema)])]

/-- A response with its schema as JSON content; a reference, or a response without
a schema, is left as it is. -/
def convertResponse (response : Value) : Value :=
  match response with
  | .obj fields =>
    match Entries.has fields "$ref", Entries.get? fields "schema" with
    | false, some schema =>
      .obj (Entries.set (fields.filter (·.1 ≠ "schema")) "content" (jsonContent schema))
    | _, _ => response
  | _ => response

/-- A parameter that stands for the body of the request. -/
def isBodyParameter (parameter : Value) : Bool :=
  match parameter.field? "in" with
  | some (.str "body") => true
  | _ => false

/-- The request body that a body parameter with an object schema describes. -/
def requestBody? (parameter : Value) : Option Value :=
  match parameter.field? "schema" with
  | some (.obj schema) =>
    let description := given? (parameter.field? "description")
    some (.obj (
      [("required", .bool (given? (parameter.field? "required")).isSome),
        ("content", jsonContent (.obj schema))] ++
        (description.map fun d => ("description", d)).toList))
  | _ => none

/-- An operation with its first body parameter as request body and its responses
converted. -/
def convertOperation (fields : List (String × Value)) :
    Except Failure (List (String × Value)) := do
  let parameters ← Document.elementsOf (Entries.get? fields "parameters")
  let withBody :=
    match (parameters.find? isBodyParameter).bind requestBody? with
    | some body =>
      let others := parameters.eraseP isBodyParameter
      Entries.set (Entries.set fields "parameters" (.arr others)) "requestBody" body
    | none => fields
  return match Entries.get? fields "responses" with
    | some (.obj responses) =>
      Entries.set withBody "responses"
        (.obj (responses.map fun (status, r) => (status, convertResponse r)))
    | _ => withBody

/-- The entry of a path with its operations converted. -/
def convertPathItem (fields : List (String × Value)) : Except Failure (List (String × Value)) :=
  methods.foldlM (fun item method => do
    match Entries.get? item method with
    | some (.obj operation) => return Entries.set item method (.obj (← convertOperation operation))
    | _ => return item) fields

/-- The entries of a path table that are objects, converted. -/
def convertPaths (paths : List (String × Value)) : Except Failure (List (String × Value)) :=
  paths.filterMapM fun (path, item) => do
    match item with
    | .obj fields => return some (path, .obj (← convertPathItem fields))
    | _ => return none

/-! ## Normal form -/

/-- A document in normal form. -/
def normalForm (version info paths schemas parameters responses tags : Value) : Value :=
  .obj [("openapi", version), ("info", info), ("paths", paths),
    ("components",
      .obj [("schemas", schemas), ("parameters", parameters), ("responses", responses)]),
    ("tags", tags)]

/-- The normal form of a document of the newer dialect. -/
def normalizeNewer (document : Value) : Except Failure Value := do
  let get (key : String) := Document.get document key
  let components := Document.orEmpty (← get "components")
  let kind (key : String) := Document.orEmpty <$> Document.get components key
  return normalForm ((← get "openapi").getD .null) (Document.orEmpty (← get "info"))
    (Document.orEmpty (← get "paths")) (← kind "schemas") (← kind "parameters")
    (← kind "responses") (orNoItems (← get "tags"))

/-- The normal form of a document of the older dialect. -/
def normalizeOlder (document : Value) : Except Failure Value := do
  let get (key : String) := Document.get document key
  let paths ← convertPaths (← Document.getFields document "paths")
  let responses ← Document.getFields document "responses"
  return normalForm (.str "3.0.0") (Document.orEmpty (← get "info")) (.obj paths)
    (Document.orEmpty (← get "definitions")) (Document.orEmpty (← get "parameters"))
    (.obj (responses.map fun (name, r) => (name, convertResponse r)))
    (orNoItems (← get "tags"))

/-- The normal form of a document. -/
def normalize (document : Value) : Except Failure Value :=
  match Dialect.of? document with
  | some .openApi => normalizeNewer document
  | some .swagger => normalizeOlder document
  | none => .error .unsupportedDocument

end ApiTypes
