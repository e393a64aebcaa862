/-
  One call for the type of a schema.

  The type of a schema is made from the types of schemas that it holds.  Here it is written
  down what is made of them, where the calls for these schemas are left open and may be made
  in any monad.

  * `Scope.fieldsWith`: the type of a schema that is no reference, apart from `nullable`;
  * `Kept`: a relation between two monads that is kept, step by step.  If the calls for the
    schemas that a schema holds are related, so is what is made of them (`Kept.fieldsWith`);
  * `Scope.typeOfFields_eq`: with calls of `typeOf` this is what `typeOf` makes.
-/
import ApiTypes.Proofs.Reachable

namespace ApiTypes

open Json (Value)

/-! ## One call -/

namespace Scope

section

variable {m : Type → Type} [Monad m]

/-- The type of a schema by name if it is a reference, by a call if not. -/
def typeByNameWith (call : Value → m TypeExpr) (schema : Value) : m TypeExpr :=
  match reference? schema with
  | some reference => return .named (Reference.name reference)
  | none => call schema

/-- The types of several schemas, by a call for each. -/
def typesWith (call : Value → m TypeExpr) : List Value → m (List TypeExpr)
  | [] => return []
  | schema :: rest => do
    let type ← call schema
    let types ← typesWith call rest
    return type :: types

/-- The type that combines branches, by a call for each. -/
def combinationWith (call : Value → m TypeExpr) (combination : Combination)
    (branches : List Value) : m TypeExpr := do
  let types ← typesWith call branches
  return combination.combine types

variable [MonadLiftT Outcome m]

/-- The type of a property, by a call if it is neither a reference nor has the shape of a named
    schema. -/
def propertyTypeWith (scope : Scope) (call : Value → m TypeExpr) (schema : Value) : m TypeExpr :=
  match reference? schema with
  | some reference => return .named (Reference.name reference)
  | none =>
    match scope.shapes.nameOf? schema with
    | some name => do
      liftM (Outcome.note name)
      if name ≠ "" then return .named name else call schema
    | none => call schema

/-- The properties of an object type. -/
def propertiesWith (scope : Scope) (call : Value → m TypeExpr) (required : List String) :
    List (String × Value) → m (List (PropertyHead × TypeExpr))
  | [] => return []
  | (key, schema) :: rest => do
    let type ← scope.propertyTypeWith call schema
    let others ← scope.propertiesWith call required rest
    let comment :=
      if (reference? schema).isSome then none
      else Comment.ofProperty? (schema.field? "description")
    return (⟨comment, key, key ∉ required⟩, type) :: others

/-- The type of an object schema. -/
def objectWith (scope : Scope) (call : Value → m TypeExpr) (fields : List (String × Value)) :
    m TypeExpr :=
  match Entries.get? fields "properties" with
  | some (.obj (property :: rest)) => do
    let required ← liftM (Outcome.ofExcept (requiredNames fields))
    let properties ← scope.propertiesWith call required (property :: rest)
    match Entries.get? fields "additionalProperties" with
    | some (.bool true) => return .object properties (some .unknown)
    | some (.obj additional) =>
      let index ← typeByNameWith call (.obj additional)
      return .object properties (some index)
    | _ => return .object properties none
  | _ =>
    match Entries.get? fields "additionalProperties" with
    | some (.bool false) => return .record (.keyword .never)
    | some (.obj additional) => do
      let index ← typeByNameWith call (.obj additional)
      return .record index
    | _ => return .record .unknown

/-- The type of a schema that is no reference, apart from `nullable`, where the types of the
    schemas that it holds are made by calls. -/
def fieldsWith (scope : Scope) (call : Value → m TypeExpr) (fields : List (String × Value)) :
    m TypeExpr :=
  match branches? fields with
  | some (combination, branches) =>
    match collapsed? branches with
    | some name =>
      if name ≠ "" then return .named name else combinationWith call combination branches
    | none => combinationWith call combination branches
  | none =>
    match constants? fields with
    | some constants => return .literals constants
    | none =>
      match Form.ofFields fields with
      | .plain type => return type
      | .array =>
        match Entries.get? fields "items" with
        | some (.obj items) => do
          let type ← typeByNameWith call (.obj items)
          return .array type
        | _ => return .array .unknown
      | .object => scope.objectWith call fields

end

end Scope

/-! ## Calls in two monads -/

theorem holds_of_branches? {fields : List (String × Value)} {combination : Combination}
    {branches : List Value} {b : Value} (h : branches? fields = some (combination, branches))
    (hb : b ∈ branches) : Holds fields b := by
  obtain ⟨⟨key, c⟩, hmem, hkey⟩ := List.exists_of_findSome?_eq_some h
  dsimp only at hkey
  split at hkey
  · next first rest hget =>
    obtain ⟨-, rfl⟩ := Prod.mk.inj (Option.some.inj hkey)
    have hbranches : key ∈ ["oneOf", "anyOf", "allOf"] := List.mem_map_of_mem (f := (·.1)) hmem
    exact .branch hbranches hget hb
  · cases hkey

section

variable {m n : Type → Type} [Monad m] [Monad n] [MonadLiftT Outcome m] [MonadLiftT Outcome n]

/-- A relation that is kept where something is done in two monads, step by step. -/
structure Kept (R : (α : Type) → m α → n α → Prop) : Prop where
  pure : ∀ {α : Type} (a : α), R _ (pure a : m α) (pure a)
  lift : ∀ {α : Type} (x : Outcome α), R _ (liftM x : m α) (liftM x)
  bind : ∀ {α β : Type} {x : m α} {y : n α} {f : α → m β} {g : α → n β},
    R _ x y → (∀ a, R _ (f a) (g a)) → R _ (x >>= f) (y >>= g)

namespace Kept

variable {R : (α : Type) → m α → n α → Prop} {scope : Scope} {call : Value → m TypeExpr}
  {call' : Value → n TypeExpr} {schema : Value} {schemas : List Value}
  {fields properties : List (String × Value)}

theorem typeByNameWith (hR : Kept R) (hcall : R _ (call schema) (call' schema)) :
    R _ (Scope.typeByNameWith call schema) (Scope.typeByNameWith call' schema) := by
  unfold Scope.typeByNameWith
  split
  · exact hR.pure _
  · exact hcall

theorem typesWith (hR : Kept R) (hcall : ∀ s ∈ schemas, R _ (call s) (call' s)) :
    R _ (Scope.typesWith call schemas) (Scope.typesWith call' schemas) := by
  induction schemas with
  | nil => exact hR.pure _
  | cons schema rest ih =>
    obtain ⟨hschema, hrest⟩ := List.forall_mem_cons.1 hcall
    exact hR.bind hschema fun _ => hR.bind (ih hrest) fun _ => hR.pure _

theorem combinationWith (hR : Kept R) (combination : Combination)
    (hcall : ∀ s ∈ schemas, R _ (call s) (call' s)) :
    R _ (Scope.combinationWith call combination schemas)
      (Scope.combinationWith call' combination schemas) :=
  hR.bind (hR.typesWith hcall) fun _ => hR.pure _

theorem propertyTypeWith (hR : Kept R) (hcall : R _ (call schema) (call' schema)) :
    R _ (scope.propertyTypeWith call schema) (scope.propertyTypeWith call' schema) := by
  unfold Scope.propertyTypeWith
  split
  · exact hR.pure _
  split
  · refine hR.bind (hR.lift _) fun _ => ?_
    split
    · exact hR.pure _
    · exact hcall
  · exact hcall

theorem propertiesWith (hR : Kept R) (required : List String)
    (hcall : ∀ p ∈ properties, R _ (call p.2) (call' p.2)) :
    R _ (scope.propertiesWith call required properties)
      (scope.propertiesWith call' required properties) := by
  induction properties with
  | nil => exact hR.pure _
  | cons p rest ih =>
    obtain ⟨hp, hrest⟩ := List.forall_mem_cons.1 hcall
    exact hR.bind (hR.propertyTypeWith hp) fun _ => hR.bind (ih hrest) fun _ => hR.pure _

theorem objectWith (hR : Kept R) (hcall : ∀ s, Holds fields s → R _ (call s) (call' s)) :
    R _ (scope.objectWith call fields) (scope.objectWith call' fields) := by
  have hindex {additional : List (String × Value)} (f : TypeExpr → TypeExpr)
      (hget : Entries.get? fields "additionalProperties" = some (.obj additional)) :
      R _ (Scope.typeByNameWith call (.obj additional) >>= fun index => Pure.pure (f index))
        (Scope.typeByNameWith call' (.obj additional) >>= fun index => Pure.pure (f index)) :=
    hR.bind (hR.typeByNameWith (hcall _ (.additional hget))) fun _ => hR.pure _
  unfold Scope.objectWith
  split
  · next property rest hget =>
    refine hR.bind (hR.lift _) fun required => hR.bind ?_ fun properties => ?_
    · exact hR.propertiesWith required fun p hp => hcall _ (.property hget hp)
    split
    · exact hR.pure _
    · next hget => exact hindex _ hget
    · exact hR.pure _
  · split
    · exact hR.pure _
    · next hget => exact hindex _ hget
    · exact hR.pure _

/-- If the calls for the schemas that a schema holds are related, so is what is made of
    them. -/
theorem fieldsWith (hR : Kept R) (call : Value → m TypeExpr) (call' : Value → n TypeExpr)
    (hcall : ∀ s, Holds fields s → R _ (call s) (call' s)) :
    R _ (scope.fieldsWith call fields) (scope.fieldsWith call' fields) := by
  unfold Scope.fieldsWith
  split
  · next combination branches hbranches =>
    have hbranch (b : Value) (hb : b ∈ branches) : R _ (call b) (call' b) :=
      hcall b (holds_of_branches? hbranches hb)
    split
    · split
      · exact hR.pure _
      · exact hR.combinationWith combination hbranch
    · exact hR.combinationWith combination hbranch
  split
  · exact hR.pure _
  split
  · exact hR.pure _
  · split
    · next hget => exact hR.bind (hR.typeByNameWith (hcall _ (.items hget))) fun _ => hR.pure _
    · exact hR.pure _
  · exact hR.objectWith hcall

end Kept

end

namespace Scope

variable {scope : Scope} {visiting : List String} {schema target : Value} {schemas : List Value}
  {fields properties : List (String × Value)} {reference : String} {depth : Nat}

/-! ## The calls of `typeOf` -/

theorem typeByName_eq :
    scope.typeByName visiting schema = typeByNameWith (scope.typeOf visiting) schema := by
  unfold typeByName typeByNameWith
  cases reference? schema <;> rfl

theorem typesOf_eq : scope.typesOf visiting schemas = typesWith (scope.typeOf visiting) schemas := by
  induction schemas with
  | nil => rw [typesOf, typesWith]
  | cons schema rest ih => rw [typesOf, typesWith, ih]

theorem propertyType_eq :
    scope.propertyType visiting schema =
      scope.propertyTypeWith (scope.typeOf visiting) schema := by
  rw [propertyType, propertyTypeWith]
  rfl

theorem propertiesOf_eq {required : List String} :
    scope.propertiesOf visiting required properties =
      scope.propertiesWith (scope.typeOf visiting) required properties := by
  induction properties with
  | nil => rw [propertiesOf, propertiesWith]
  | cons p rest ih => rw [propertiesOf, propertiesWith, propertyType_eq, ih]

theorem typeOfObject_eq :
    scope.typeOfObject visiting fields = scope.objectWith (scope.typeOf visiting) fields := by
  unfold typeOfObject objectWith
  simp only [propertiesOf_eq, typeByName_eq, Outcome.map_eq_bind]
  split
  · next property rest hget =>
    rw [hget]
    refine Outcome.bind_congr fun required _ => Outcome.bind_congr fun properties _ => ?_
    split <;> grind
  · split <;> grind

theorem typeOfFields_eq :
    scope.typeOfFields visiting fields = scope.fieldsWith (scope.typeOf visiting) fields := by
  unfold typeOfFields fieldsWith combinationWith
  simp only [typesOf_eq, typeByName_eq, typeOfObject_eq, Outcome.map_eq_bind]
  split
  · next combination branches hbranches =>
    cases hcollapsed : collapsed? branches with
    | none => simp only [hbranches, hcollapsed]
    | some name => simp only [hbranches, hcollapsed]
  · next hbranches =>
    simp only [hbranches]
    cases constants? fields with
    | some constants => rfl
    | none =>
      cases Form.ofFields fields with
      | plain type => rfl
      | array =>
        dsimp only
        split <;> grind
      | object => rfl

end Scope

end ApiTypes
