/-
  The endpoints of an API: one for each path and method.

  * `operations` lists the operations of a document, paths in document order and
    methods in a fixed one;
  * `endpointsOf` gives each a unique name and declares the types of its
    parameters, request body and responses;
  * `Endpoint.code` is the text of an endpoint's file, without its imports.
-/
import ApiTypes.Endpoint.Collision
import ApiTypes.Parameter
import ApiTypes.Payload

namespace ApiTypes

open Json (Value given?)

/-! ## Operations -/

/-- An operation of a document, with the entry of its path. -/
structure Operation where
  path : String
  method : String
  pathItem : List (String × Value)
  fields : List (String × Value)

/-- The operations under one path. -/
def operationsOf (path : String) (pathItem : Value) : List Operation :=
  match pathItem with
  | .obj item =>
    methods.filterMap fun method =>
      match Entries.get? item method with
      | some (.obj fields) => some ⟨path, method, item, fields⟩
      | _ => none
  | _ => []

/-- The operations of a document. -/
def operations (document : Value) : Except Failure (List Operation) := do
  return (← Document.getFields document "paths").flatMap fun (path, item) =>
    operationsOf path item

/-- The number of leading pairs of segments that a setting skips: none unless it is
a positive whole number. A setting that is no number, or a fraction above zero,
cannot be used. -/
def pairsToSkip (setting : Value) : Except Failure Nat :=
  match setting with
  | .int n => .ok n.toNat
  | .bool b => .ok b.toNat
  | .float x => if x > 0.0 then .error .malformed else .ok 0
  | _ => .error .malformed

/-- What an operation brings along for its name. -/
def Operation.proposal (operation : Operation) (skip : Nat) : Endpoint.Proposal :=
  ⟨Naming.name operation.path skip, Naming.folder operation.path skip, operation.method,
    operation.path⟩

/-- What an operation says about itself: its description, or else its summary. -/
def Operation.summary (operation : Operation) : Value :=
  ((given? (Entries.get? operation.fields "description")).or
    (given? (Entries.get? operation.fields "summary"))).getD (.str "")

/-! ## Endpoints -/

/-- An endpoint with everything that is declared for it. -/
structure Endpoint where
  name : String
  baseName : String
  method : String
  path : String
  folder : String
  tag : Value
  summary : Value
  parameters : List (Parameter.Location × Declaration)
  requestBody : Option Declaration
  responses : List (String × Declaration)

namespace Endpoint

/-- The first tag of an operation, or `default`. -/
def firstTag (tags : Option Value) : Except Failure Value :=
  match given? tags with
  | none => .ok (.str "default")
  | some (.arr (tag :: _)) => .ok tag
  | some (.str s) => .ok (.str (Text.ofPoints ((Text.codePoints s).take 1)))
  | some _ => .error .malformed

/-- The endpoint of an operation under its unique name. -/
def ofOperation (scope : Scope) (skip : Nat) (operation : Operation) (name : String) :
    Except Failure Endpoint := do
  let parameters ← Parameter.collect scope.document operation.pathItem operation.fields
  let proposal := operation.proposal skip
  let get (key : String) := Entries.get? operation.fields key
  return {
    name := name
    baseName := proposal.baseName
    method := operation.method
    path := operation.path
    folder := proposal.folder
    tag := ← firstTag (get "tags")
    summary := operation.summary
    parameters := ← Parameter.declareAll scope parameters name
    requestBody := ← Payload.requestBody? scope (.obj operation.fields) name
    responses := ← Payload.responses scope (.obj operation.fields) name }

/-- The declarations of an endpoint: parameters, request body, responses. -/
def declarations (endpoint : Endpoint) : List Declaration :=
  endpoint.parameters.map (·.2) ++ endpoint.requestBody.toList ++ endpoint.responses.map (·.2)

/-- The names that declarations depend on together. -/
def dependenciesOf (declarations : List Declaration) : NameSet :=
  declarations.foldl (fun names d => names.union d.dependencies) .empty

/-- The names that an endpoint depends on. -/
def dependencies (endpoint : Endpoint) : NameSet := dependenciesOf endpoint.declarations

/-- The lines at the top of the code of an endpoint: its summary, with a line that names it. -/
def headingOf (summary method path : String) : String :=
  let line := "Endpoint: " ++ Text.upper method ++ " " ++ path
  if summary = "" then line else summary ++ "\n" ++ line

/-- The code of an endpoint: a comment that names it, and its declarations. A summary that is
no text cannot be put into the comment. -/
def codeOf (summary : Value) (method path : String) (declarations : List Declaration) :
    Except Failure String := do
  let heading := headingOf (← Comment.lines (some summary)) method path
  return Text.join "\n\n" (Comment.body "" heading :: declarations.map Declaration.code)

/-- The code of an endpoint. -/
def code (endpoint : Endpoint) : Except Failure String :=
  codeOf endpoint.summary endpoint.method endpoint.path endpoint.declarations

end Endpoint

/-- The endpoints of a document, in the order of its operations. The setting for
the skipped segments is looked at only if there are any. -/
def endpointsOf (scope : Scope) (skip : Value) : Except Failure (List Endpoint) := do
  match ← operations scope.document with
  | [] => return []
  | found =>
    let pairs ← pairsToSkip skip
    let names := Endpoint.resolve (found.map (·.proposal pairs))
    (found.zip names).mapM fun (operation, name) =>
      Endpoint.ofOperation scope pairs operation name

end ApiTypes
