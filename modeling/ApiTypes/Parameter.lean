/-
  The parameters of an operation.

  * `Parameter.collect` merges the parameters of a path with those of an
    operation. References are followed one step; a parameter of the operation
    replaces one of the path that has the same name and location, in its place;
  * `Parameter.declare` declares an object type with one property for each
    parameter of a list.

  Names and locations are compared as scalars: numbers by their value, however
  they are written.
-/
import ApiTypes.Declaration

namespace ApiTypes

open Json (Value given?)

/-! ## Scalars -/

/-- A scalar up to the way it is written: a number is an odd number times a power
of two, and a truth value is the number one or zero. -/
inductive Scalar where
  | null
  | text (s : String)
  | number (negative : Bool) (odd : Nat) (exponent : Int)
  | infinity (negative : Bool)
  | notANumber
  deriving DecidableEq, Repr

namespace Scalar

/-- The odd part and the power of two of `n · 2 ^ exponent`. -/
def oddPart (n : Nat) (exponent : Int) : Nat × Int :=
  if n = 0 then (0, 0)
  else if n % 2 = 0 then oddPart (n / 2) (exponent + 1)
  else (n, exponent)
termination_by n

/-- The number `n · 2 ^ exponent` with a sign. -/
def ofBinary (negative : Bool) (n : Nat) (exponent : Int) : Scalar :=
  let (odd, power) := oddPart n exponent
  number (negative && odd != 0) odd power

/-- The scalar of a value; lists and objects have none. -/
def ofValue? : Value → Option Scalar
  | .null => some null
  | .bool b => some (ofBinary false b.toNat 0)
  | .int n => some (ofBinary (n < 0) n.natAbs 0)
  | .float x =>
    some (match Decimal.Reading.ofFloat x with
      | .finite negative b => ofBinary negative b.mantissa b.exponent
      | .infinite negative => infinity negative
      | .undefined => notANumber)
  | .str s => some (text s)
  | .arr _ | .obj _ => none

end Scalar

namespace Parameter

/-! ## Collecting -/

/-- What tells parameters apart: name and location. -/
structure Key where
  name : Scalar
  location : Scalar
  deriving DecidableEq, Repr

/-- The key of a parameter with a name, located in the query if it does not say. -/
def key (name : Value) (fields : List (String × Value)) : Except Failure Key :=
  match Scalar.ofValue? name, Scalar.ofValue? ((Entries.get? fields "in").getD (.str "query")) with
  | some name, some location => .ok ⟨name, location⟩
  | _, _ => .error .malformed

/-- A parameter in place of the one with the same key, or behind all others. -/
def put (merged : List (Key × Value)) (key : Key) (parameter : Value) : List (Key × Value) :=
  match merged with
  | [] => [(key, parameter)]
  | (k, p) :: rest =>
    if k = key then (k, parameter) :: rest else (k, p) :: put rest key parameter

/-- A parameter, or the entry that it refers to; nothing if there is none. -/
def target (document parameter : Value) : Except Failure (Option Value) :=
  match reference? parameter with
  | some reference => resolve document reference
  | none => .ok (some parameter)

/-- Merges one more element of a parameter list; elements without a name are left
out. -/
def merge (document : Value) (merged : List (Key × Value)) (parameter : Value) :
    Except Failure (List (Key × Value)) := do
  match ← target document parameter with
  | some (.obj fields) =>
    match Entries.get? fields "name" with
    | some name => return put merged (← key name fields) (.obj fields)
    | none => return merged
  | _ => return merged

/-- The parameters of an operation: those of its path and its own. -/
def collect (document : Value) (pathItem operation : List (String × Value)) :
    Except Failure (List Value) := do
  let ofPath ← Document.elementsOf (Entries.get? pathItem "parameters")
  let own ← Document.elementsOf (Entries.get? operation "parameters")
  let merged ← (ofPath ++ own).foldlM (merge document) []
  return merged.map (·.2)

/-! ## Locations -/

/-- Where a parameter is sent. -/
inductive Location where
  | path
  | query
  | header
  deriving DecidableEq, Repr

namespace Location

/-- All locations, in the order of their declarations. -/
def all : List Location := [path, query, header]

/-- The word for the location in a document. -/
def word : Location → String
  | path => "path"
  | query => "query"
  | header => "header"

/-- The end of the name of a declaration for the location. -/
def ending : Location → String
  | path => "PathParams"
  | query => "QueryParams"
  | header => "HeaderParams"

end Location

/-- Whether a parameter says that it is at the location. -/
def isAt (location : Location) (parameter : Value) : Bool :=
  (parameter.field? "in").bind Value.text? == some location.word

/-! ## Declarations -/

/-- The type of a parameter: that of its schema, or else the one that its own
`type` and `items` say. -/
def typeOf (scope : Scope) (parameter : Value) : Outcome TypeExpr :=
  match parameter.field? "schema" with
  | some (.obj schema) => scope.typeByName [] (.obj schema)
  | _ =>
    match parameter.field? "type", parameter.field? "items" with
    | some (.str "array"), some (.obj items) => .array <$> scope.typeByName [] (.obj items)
    | some (.str "integer"), _ | some (.str "number"), _ => return .keyword .number
    | some (.str "boolean"), _ => return .keyword .boolean
    | _, _ => return .keyword .string

/-- A parameter may be left out only if it says so and is not part of the path. -/
def isOptional (parameter : Value) : Bool :=
  (match parameter.field? "required" with
    | some (.bool false) => true
    | _ => false) && !isAt .path parameter

/-- The property of a parameter and the names it depends on. -/
def property (scope : Scope) (parameter : Value) :
    Except Failure ((PropertyHead × TypeExpr) × NameSet) := do
  match (← Document.get parameter "name").bind Value.text? with
  | none => throw .malformed
  | some name =>
    let outcome := typeOf scope parameter
    let type ← outcome.result
    let source := (given? (parameter.field? "schema")).or (parameter.field? "items")
    let referred ← dependencies scope.document (source.getD .null)
    let head := ⟨Comment.ofProperty? (parameter.field? "description"), name, isOptional parameter⟩
    return ((head, type), referred.union (.ofList outcome.matched))

/-- The declaration of an object type with a property for each parameter. -/
def declare (scope : Scope) (parameters : List Value) (name : String) :
    Except Failure Declaration := do
  let properties ← parameters.mapM (property scope)
  let type := TypeExpr.object (properties.map (·.1)) none
  let names := properties.foldl (fun names p => names.union p.2) NameSet.empty
  return ⟨name, exportType name type, names, some type⟩

/-- The declarations of the parameters of an endpoint, one for each location that
has any. -/
def declareAll (scope : Scope) (parameters : List Value) (endpoint : String) :
    Except Failure (List (Location × Declaration)) :=
  Location.all.filterMapM fun location =>
    match parameters.filter (isAt location) with
    | [] => return none
    | located => do
      return some (location, ← declare scope located (endpoint ++ "_" ++ location.ending))

end Parameter

end ApiTypes
