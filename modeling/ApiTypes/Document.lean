/-
  Looking things up in a document.

  A member that is left out or empty counts as an empty object or list; a value
  of another kind, where members or elements are wanted, makes the document
  `malformed`.
-/
import ApiTypes.Failure
import ApiTypes.Json.Value
import ApiTypes.Text.CodePoints

namespace ApiTypes.Document

open Json (Value given?)

/-- The member with the key; only an object can be asked. -/
def get (v : Value) (key : String) : Except Failure (Option Value) :=
  match v with
  | .obj fields => .ok (Entries.get? fields key)
  | _ => .error .malformed

/-- The value, or an empty object for one that is left out or empty. -/
def orEmpty (v : Option Value) : Value := (given? v).getD (.obj [])

/-- The members; only an object has any. -/
def fields (v : Value) : Except Failure (List (String × Value)) :=
  match v with
  | .obj fields => .ok fields
  | _ => .error .malformed

/-- The members of the object under the key, none if it is left out or empty. -/
def getFields (v : Value) (key : String) : Except Failure (List (String × Value)) := do
  fields (orEmpty (← get v key))

/-- The elements of a value: the items of a list, the characters of a text or the
keys of an object. -/
def elements (v : Value) : Except Failure (List Value) :=
  match v with
  | .arr items => .ok items
  | .str s => .ok ((Text.codePoints s).map fun point => .str (Text.ofPoints [point]))
  | .obj fields => .ok (fields.map fun (k, _) => .str k)
  | _ => .error .malformed

/-- The elements of a value, none if it is left out or empty. -/
def elementsOf (v : Option Value) : Except Failure (List Value) :=
  match given? v with
  | none => .ok []
  | some v => elements v

end ApiTypes.Document
