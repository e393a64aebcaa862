/-
  Request bodies and responses.

  Types are made for JSON content only. A reference in place of a request body
  is not followed; one in place of a response is, one step.
-/
import ApiTypes.Declaration
import ApiTypes.Dialect

namespace ApiTypes.Payload

open Json (Value)

/-- The JSON schema of a message, if it has one that is an object. -/
def schema? (message : Value) : Except Failure (Option Value) := do
  let content := Document.orEmpty (← Document.get message "content")
  let media := Document.orEmpty (← Document.get content jsonMedia)
  match ← Document.get media "schema" with
  | some (.obj schema) => return some (.obj schema)
  | _ => return none

/-- The declaration of a message under a name, if it has a JSON schema. -/
def declare? (scope : Scope) (message : Value) (name : String) :
    Except Failure (Option Declaration) := do
  match ← schema? message with
  | none => return none
  | some schema => return some (← declarePayload scope name schema (message.field? "description"))

/-- The declaration of the request body of an operation. -/
def requestBody? (scope : Scope) (operation : Value) (endpoint : String) :
    Except Failure (Option Declaration) := do
  match ← Document.get operation "requestBody" with
  | some (.obj body) =>
    if (reference? (.obj body)).isSome then return none
    else declare? scope (.obj body) (endpoint ++ "_RequestBody")
  | _ => return none

/-- A response, or the entry that it refers to, if that is an object. -/
def response? (scope : Scope) (response : Value) : Except Failure (Option Value) :=
  match reference? response, response with
  | some reference, _ => resolve scope.document reference
  | none, .obj fields => .ok (some (.obj fields))
  | none, _ => .ok none

/-- The declarations of the responses of an operation, by their status. -/
def responses (scope : Scope) (operation : Value) (endpoint : String) :
    Except Failure (List (String × Declaration)) := do
  let declared ← (← Document.getFields operation "responses").filterMapM
    fun (status, response) => do
      match ← response? scope response with
      | none => return none
      | some response =>
        return (← declare? scope response (endpoint ++ "_" ++ status ++ "Response")).map
          fun declaration => (status, declaration)
  return Entries.ofList declared

end ApiTypes.Payload
