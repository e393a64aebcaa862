/-
  JSON values.

  An object keeps its members in document order, and whole numbers, of any size,
  are kept apart from fractions.

  * `Value.isEmpty`: null, false, zero and the empty text, list and object; a
    setting or keyword with such a value counts as left out in most places
    (`given?`);
  * `sizeOf_lt_of_get?`: a member is smaller than the object, on which every walk
    through a document ends.
-/
import ApiTypes.Entries

namespace ApiTypes.Json

/-- A JSON value. -/
inductive Value where
  | null
  | bool (b : Bool)
  | int (n : Int)
  | float (x : Float)
  | str (s : String)
  | arr (items : List Value)
  | obj (fields : List (String × Value))
  deriving Inhabited

/-- A member is smaller than the members together. -/
theorem sizeOf_lt_of_get? {fields : List (String × Value)} {key : String} {v : Value}
    (h : Entries.get? fields key = some v) : sizeOf v < sizeOf fields := by
  have := List.sizeOf_lt_of_mem (Entries.mem_of_get? h)
  simp only [Prod.mk.sizeOf_spec] at this
  omega

theorem sizeOf_fields_lt (fields : List (String × Value)) :
    sizeOf fields < sizeOf (Value.obj fields) := by
  simp only [Value.obj.sizeOf_spec]
  omega

theorem sizeOf_fields_lt_of_get? {fields members : List (String × Value)} {key : String}
    (h : Entries.get? fields key = some (.obj members)) : sizeOf members < sizeOf fields :=
  Nat.lt_trans (sizeOf_fields_lt members) (sizeOf_lt_of_get? h)

/-! ## Values -/

namespace Value

/-- The values that count as left out. -/
def isEmpty : Value → Bool
  | null => true
  | bool b => !b
  | int n => n == 0
  | float x => x == 0.0
  | str s => s == ""
  | arr items => items.isEmpty
  | obj fields => fields.isEmpty

/-- The member of an object with the key; other values have no members. -/
def field? (v : Value) (key : String) : Option Value :=
  match v with
  | obj fields => Entries.get? fields key
  | _ => none

/-- The text of a text value. -/
def text? : Value → Option String
  | str s => some s
  | _ => none

/-- The members of an object. -/
def fields? : Value → Option (List (String × Value))
  | obj fields => some fields
  | _ => none

/-- The items of a list. -/
def items? : Value → Option (List Value)
  | arr items => some items
  | _ => none

end Value

/-- A value that may be missing counts as given when it is there and not empty. -/
def given? : Option Value → Option Value
  | some v => if v.isEmpty then none else some v
  | none => none

end ApiTypes.Json
