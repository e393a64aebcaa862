/-
  Scopes that agree.

  Types, dependencies and endpoints depend on a document in two ways only: its references
  are looked up, and so are the shapes of its schemas.  If two scopes agree on both, for
  the references that stand inside the document of the first one, everything comes out the
  same in both.

  * `Scope.Agrees`: the lookups give the same;
  * `Agrees.typeOf`, `Agrees.dependencies`: schemas inside the document have the same types
    and dependencies in both scopes;
  * `Agrees.declareSchema`, `Agrees.ofOperation`: they are declared alike, and the operations
    of the document have the same endpoints.
-/
import ApiTypes.Proofs.Aliases

namespace ApiTypes

open Json (Value given?)

/-- Two scopes agree if all references inside the document of the first lead to the same in
    both, and all shapes have the same names. -/
structure Scope.Agrees (scope scope' : Scope) : Prop where
  resolve : ∀ reference ∈ references scope.document,
    ApiTypes.resolve scope'.document reference = ApiTypes.resolve scope.document reference
  shape : ∀ shape, scope'.shapes.find? shape = scope.shapes.find? shape

namespace Scope

variable {scope scope' : Scope} {visiting : List String} {schema : Value} {reference : String}
  {fields : List (String × Value)}

theorem Agrees.resolve_eq (h : scope.Agrees scope') {v : Value} (hin : v.Inside scope.document)
    (href : reference? v = some reference) :
    ApiTypes.resolve scope'.document reference = ApiTypes.resolve scope.document reference :=
  h.resolve reference (mem_references hin href)

theorem Agrees.nameOf? (h : scope.Agrees scope') (schema : Value) :
    scope'.shapes.nameOf? schema = scope.shapes.nameOf? schema := by
  rw [ShapeTable.nameOf?, ShapeTable.nameOf?]
  cases shape? schema with
  | none => rfl
  | some shape => exact h.shape shape

/-! ## Types -/

/-- The type of a reference. -/
theorem typeOf_reference (href : reference? schema = some reference) :
    scope.typeOf visiting schema =
      if Reference.name reference ∈ visiting then pure (.named (Reference.name reference))
      else
        match ApiTypes.resolve scope.document reference with
        | .error e => .ofExcept (.error e)
        | .ok none => pure (.named (Reference.name reference))
        | .ok (some target) =>
          if (target.field? "type").isSome then
            scope.typeOf (Reference.name reference :: visiting) target
          else pure (.named (Reference.name reference)) := by
  cases schema with
  | obj fields =>
    simp only [typeOf, href]
    split
    · rfl
    · split <;> simp_all
  | _ => cases href

mutual

theorem Agrees.typeOf (h : scope.Agrees scope') (visiting : List String) :
    ∀ schema, schema.Inside scope.document →
      scope'.typeOf visiting schema = scope.typeOf visiting schema
  | .obj fields, hin => by
    cases href : reference? (.obj fields) with
    | none =>
      simp only [Scope.typeOf, href]
      rw [h.typeOfFields visiting fields hin]
    | some reference =>
      rw [typeOf_reference href, typeOf_reference href, h.resolve_eq hin href]
      split
      · rfl
      split
      · rfl
      · rfl
      split
      · exact h.typeOf _ _ (inside_of_resolve ‹_›)
      · rfl
  | .null, _ | .bool _, _ | .int _, _ | .float _, _ | .str _, _ | .arr _, _ => by
    rw [Scope.typeOf, Scope.typeOf]
    all_goals exact nofun
termination_by schema => (unseen scope.document visiting, sizeOf schema, 0)
decreasing_by
  · exact Prod.Lex.right _ (Prod.Lex.left _ _ (Json.sizeOf_fields_lt _))
  · exact Prod.Lex.left _ _ (unseen_lt ‹_› (name_mem_componentNames ‹_›))

theorem Agrees.typeByName (h : scope.Agrees scope') (visiting : List String) (schema : Value)
    (hin : schema.Inside scope.document) :
    scope'.typeByName visiting schema = scope.typeByName visiting schema := by
  rw [Scope.typeByName, Scope.typeByName, h.typeOf visiting schema hin]
termination_by (unseen scope.document visiting, sizeOf schema, 1)
decreasing_by
  exact Prod.Lex.right _ (Prod.Lex.right _ (by decide))

theorem Agrees.typeOfFields (h : scope.Agrees scope') (visiting : List String)
    (fields : List (String × Value)) (hin : (Value.obj fields).Inside scope.document) :
    scope'.typeOfFields visiting fields = scope.typeOfFields visiting fields := by
  unfold Scope.typeOfFields
  split
  · next combination branches hb =>
    rw [h.typesOf visiting branches fun b hmem =>
      (inside_of_mem_parts ((branches_spec hb).2 b hmem)).trans hin]
  split
  · rfl
  split
  · rfl
  · split
    · next items hi => rw [h.typeByName visiting _ ((inside_of_get? hi).trans hin)]
    · rfl
  · exact h.typeOfObject visiting fields hin
termination_by (unseen scope.document visiting, sizeOf fields, 3)
decreasing_by
  · exact Prod.Lex.right _ (Prod.Lex.left _ _ (sizeOf_lt_of_branches? ‹_›))
  · exact Prod.Lex.right _ (Prod.Lex.left _ _ (Json.sizeOf_lt_of_get? ‹_›))
  · exact Prod.Lex.right _ (Prod.Lex.right _ (by decide))

theorem Agrees.typesOf (h : scope.Agrees scope') (visiting : List String) :
    ∀ schemas : List Value, (∀ schema ∈ schemas, schema.Inside scope.document) →
      scope'.typesOf visiting schemas = scope.typesOf visiting schemas
  | [], _ => by rw [Scope.typesOf, Scope.typesOf]
  | schema :: rest, hin => by
    obtain ⟨hschema, hrest⟩ := List.forall_mem_cons.1 hin
    rw [Scope.typesOf, Scope.typesOf, h.typeOf visiting schema hschema,
      h.typesOf visiting rest hrest]
termination_by schemas => (unseen scope.document visiting, sizeOf schemas, 0)
decreasing_by
  all_goals
    refine Prod.Lex.right _ (Prod.Lex.left _ _ ?_)
    simp only [List.cons.sizeOf_spec]
    omega

theorem Agrees.typeOfObject (h : scope.Agrees scope') (visiting : List String)
    (fields : List (String × Value)) (hin : (Value.obj fields).Inside scope.document) :
    scope'.typeOfObject visiting fields = scope.typeOfObject visiting fields := by
  have hadditional {additional : List (String × Value)}
      (ha : Entries.get? fields "additionalProperties" = some (.obj additional)) :
      scope'.typeByName visiting (.obj additional) = scope.typeByName visiting (.obj additional) :=
    h.typeByName visiting _ ((inside_of_get? ha).trans hin)
  unfold Scope.typeOfObject
  split
  · next property rest hp =>
    have hproperties (required : List String) :
        scope'.propertiesOf visiting required (property :: rest) =
          scope.propertiesOf visiting required (property :: rest) :=
      h.propertiesOf visiting required _ fun e he =>
        (inside_of_mem_parts (property_mem_parts hp he)).trans hin
    simp only [hproperties]
    split
    · rfl
    · next additional ha => rw [hadditional ha]
    · rfl
  · split
    · rfl
    · next additional ha => rw [hadditional ha]
    · rfl
termination_by (unseen scope.document visiting, sizeOf fields, 2)
decreasing_by
  · exact Prod.Lex.right _ (Prod.Lex.left _ _ (Json.sizeOf_lt_of_get? ‹_›))
  · exact Prod.Lex.right _ (Prod.Lex.left _ _ (Json.sizeOf_fields_lt_of_get? ‹_›))

theorem Agrees.propertiesOf (h : scope.Agrees scope') (visiting required : List String) :
    ∀ properties : List (String × Value), (∀ e ∈ properties, e.2.Inside scope.document) →
      scope'.propertiesOf visiting required properties =
        scope.propertiesOf visiting required properties
  | [], _ => by rw [Scope.propertiesOf, Scope.propertiesOf]
  | (key, schema) :: rest, hin => by
    obtain ⟨hschema, hrest⟩ := List.forall_mem_cons.1 hin
    rw [Scope.propertiesOf, Scope.propertiesOf, h.propertyType visiting schema hschema,
      h.propertiesOf visiting required rest hrest]
termination_by properties => (unseen scope.document visiting, sizeOf properties, 0)
decreasing_by
  all_goals
    refine Prod.Lex.right _ (Prod.Lex.left _ _ ?_)
    simp only [List.cons.sizeOf_spec, Prod.mk.sizeOf_spec]
    omega

theorem Agrees.propertyType (h : scope.Agrees scope') (visiting : List String) (schema : Value)
    (hin : schema.Inside scope.document) :
    scope'.propertyType visiting schema = scope.propertyType visiting schema := by
  have hschema := h.typeOf visiting schema hin
  unfold Scope.propertyType
  rw [h.nameOf? schema, hschema]
termination_by (unseen scope.document visiting, sizeOf schema, 1)
decreasing_by
  exact Prod.Lex.right _ (Prod.Lex.right _ (by decide))

end

/-! ## Dependencies -/

/-- The walk at a reference. -/
theorem collect_reference {document : Value} {found : List String} {rest : List Value}
    (href : reference? schema = some reference) :
    collect document found (schema :: rest) =
      if Reference.name reference ∈ found then collect document found rest
      else
        match ApiTypes.resolve document reference with
        | .error e => .error e
        | .ok none => collect document (Reference.name reference :: found) rest
        | .ok (some target) =>
          collect document (Reference.name reference :: found) (target :: rest) := by
  cases schema with
  | obj fields =>
    simp only [ApiTypes.collect, href]
    split
    · rfl
    · split <;> simp_all
  | _ => cases href

theorem Agrees.collect (h : scope.Agrees scope') {found : List String} {pending : List Value}
    (hin : ∀ p ∈ pending, p.Inside scope.document) :
    ApiTypes.collect scope'.document found pending =
      ApiTypes.collect scope.document found pending := by
  fun_induction ApiTypes.collect scope.document found pending with
  | case1 found => rw [ApiTypes.collect]
  | case2 found fields rest href ih =>
    obtain ⟨hfields, hrest⟩ := List.forall_mem_cons.1 hin
    simp only [ApiTypes.collect, href]
    refine ih fun p hp => ?_
    rcases List.mem_append.1 hp with hp | hp
    · exact (inside_of_mem_parts hp).trans hfields
    · exact hrest p hp
  | case3 found fields rest reference href name hmem ih =>
    rw [collect_reference href, if_pos hmem, ih (List.forall_mem_cons.1 hin).2]
  | case4 found fields rest reference href name hnew e hres =>
    rw [collect_reference href, if_neg hnew, h.resolve_eq (hin _ List.mem_cons_self) href, hres]
  | case5 found fields rest reference href name hnew hres ih =>
    rw [collect_reference href, if_neg hnew, h.resolve_eq (hin _ List.mem_cons_self) href, hres]
    exact ih (List.forall_mem_cons.1 hin).2
  | case6 found fields rest reference href name hnew target hres ih =>
    rw [collect_reference href, if_neg hnew, h.resolve_eq (hin _ List.mem_cons_self) href, hres]
    exact ih (List.forall_mem_cons.2 ⟨inside_of_resolve hres, (List.forall_mem_cons.1 hin).2⟩)
  | case7 found v rest hleaf ih =>
    rw [ApiTypes.collect]
    · exact ih (List.forall_mem_cons.1 hin).2
    · exact hleaf

theorem Agrees.dependencies (h : scope.Agrees scope') (hin : schema.Inside scope.document) :
    ApiTypes.dependencies scope'.document schema = ApiTypes.dependencies scope.document schema := by
  rw [ApiTypes.dependencies, ApiTypes.dependencies, h.collect (List.forall_mem_singleton.2 hin)]

/-- The dependencies of a schema that may be left out. -/
theorem Agrees.dependencies_getD (h : scope.Agrees scope') {source : Option Value}
    (hin : ∀ v, source = some v → v.Inside scope.document) :
    ApiTypes.dependencies scope'.document (source.getD .null) =
      ApiTypes.dependencies scope.document (source.getD .null) := by
  cases source with
  | none => simp [ApiTypes.dependencies, ApiTypes.collect]
  | some v => exact h.dependencies (hin v rfl)

/-! ## Declarations -/

theorem Agrees.resolveSchema (h : scope.Agrees scope') (hin : schema.Inside scope.document) :
    ApiTypes.resolveSchema scope'.document schema =
      ApiTypes.resolveSchema scope.document schema := by
  unfold ApiTypes.resolveSchema require
  split
  · rfl
  · next reference href => rw [h.resolve_eq hin href]

theorem Agrees.declare (h : scope.Agrees scope') (name : String)
    (hin : schema.Inside scope.document) :
    scope'.declare name schema = scope.declare name schema := by
  unfold Scope.declare
  rw [h.resolveSchema hin]
  refine Outcome.bind_congr fun resolved hresolved => ?_
  rw [h.typeOf _ _ ((resolveSchema_eq_ok_iff.1 hresolved).inside hin)]

/-- **Schemas.**  They are declared alike in both scopes. -/
theorem Agrees.declareSchema (h : scope.Agrees scope') (name : String)
    (hin : schema.Inside scope.document) :
    ApiTypes.declareSchema scope' name schema = ApiTypes.declareSchema scope name schema := by
  rw [ApiTypes.declareSchema, ApiTypes.declareSchema, h.declare name hin, h.dependencies hin]

theorem Agrees.declarePayload (h : scope.Agrees scope') (name : String)
    (description : Option Value) (hin : schema.Inside scope.document) :
    ApiTypes.declarePayload scope' name schema description =
      ApiTypes.declarePayload scope name schema description := by
  rw [ApiTypes.declarePayload, ApiTypes.declarePayload, h.typeByName [] schema hin,
    h.dependencies hin]

/-! ## Parameters -/

section

variable {parameter : Value} {parameters : List Value}

theorem Agrees.parameterType (h : scope.Agrees scope') (hin : parameter.Inside scope.document) :
    Parameter.typeOf scope' parameter = Parameter.typeOf scope parameter := by
  unfold Parameter.typeOf
  split
  · next hs => rw [h.typeByName [] _ ((inside_of_field? hs).trans hin)]
  · split
    · next hi => rw [h.typeByName [] _ ((inside_of_field? hi).trans hin)]
    all_goals rfl

theorem Agrees.property (h : scope.Agrees scope') (hin : parameter.Inside scope.document) :
    Parameter.property scope' parameter = Parameter.property scope parameter := by
  unfold Parameter.property
  refine Steps.bind_congr fun name _ => ?_
  split
  · rfl
  · have hreferred : ApiTypes.dependencies scope'.document
          (((given? (parameter.field? "schema")).or (parameter.field? "items")).getD .null) =
        ApiTypes.dependencies scope.document
          (((given? (parameter.field? "schema")).or (parameter.field? "items")).getD .null) := by
      refine h.dependencies_getD fun v hv => ?_
      rcases Option.or_eq_some_iff.1 hv with hv | ⟨-, hv⟩
      · exact (inside_of_field? (eq_some_of_given? hv)).trans hin
      · exact (inside_of_field? hv).trans hin
    dsimp only
    rw [h.parameterType hin, hreferred]

theorem Agrees.declareAll (h : scope.Agrees scope') (endpoint : String)
    (hin : ∀ p ∈ parameters, p.Inside scope.document) :
    Parameter.declareAll scope' parameters endpoint =
      Parameter.declareAll scope parameters endpoint := by
  unfold Parameter.declareAll
  refine Steps.filterMapM_congr fun location _ => ?_
  split
  · rfl
  · have hproperties : (parameters.filter (Parameter.isAt location)).mapM
          (Parameter.property scope') =
        (parameters.filter (Parameter.isAt location)).mapM (Parameter.property scope) :=
      Steps.mapM_congr fun p hp => h.property (hin p (List.mem_of_mem_filter hp))
    rw [Parameter.declare, Parameter.declare, hproperties]

theorem Agrees.collectParameters (h : scope.Agrees scope')
    {pathItem operation : List (String × Value)}
    (hpath : (Value.obj pathItem).Inside scope.document)
    (hop : (Value.obj operation).Inside scope.document) :
    Parameter.collect scope'.document pathItem operation =
      Parameter.collect scope.document pathItem operation := by
  unfold Parameter.collect
  refine Steps.bind_congr fun ofPath hofPath => Steps.bind_congr fun own hown => ?_
  rw [Steps.foldlM_congr]
  intro parameter hparameter merged
  have htarget : Parameter.target scope'.document parameter =
      Parameter.target scope.document parameter := by
    unfold Parameter.target
    split
    · next reference href =>
      refine h.resolve_eq ?_ href
      cases parameter with
      | obj fields => exact Parameter.inside_of_mem_stated hofPath hown hpath hop hparameter
      | _ => cases href
    · rfl
  rw [Parameter.merge, Parameter.merge, htarget]

end

/-! ## Messages -/

section

variable {message operation : Value}

theorem Agrees.declare? (h : scope.Agrees scope') (name : String)
    (hin : message.Inside scope.document) :
    Payload.declare? scope' message name = Payload.declare? scope message name := by
  unfold Payload.declare?
  refine Steps.bind_congr fun found hfound => ?_
  cases found with
  | none => rfl
  | some schema =>
    dsimp only
    rw [h.declarePayload name _ ((Payload.inside_of_schema? hfound).trans hin)]

theorem Agrees.requestBody? (h : scope.Agrees scope') (endpoint : String)
    (hin : operation.Inside scope.document) :
    Payload.requestBody? scope' operation endpoint =
      Payload.requestBody? scope operation endpoint := by
  unfold Payload.requestBody?
  refine Steps.bind_congr fun found hfound => ?_
  split
  · rw [h.declare? _ ((inside_of_get hfound).trans hin)]
  · rfl

theorem Agrees.response? (h : scope.Agrees scope') {response : Value}
    (hin : response.Inside scope.document) :
    Payload.response? scope' response = Payload.response? scope response := by
  unfold Payload.response?
  split
  · next reference href => exact h.resolve_eq hin href
  · rfl
  · rfl

theorem Agrees.responses (h : scope.Agrees scope') (endpoint : String)
    (hin : operation.Inside scope.document) :
    Payload.responses scope' operation endpoint = Payload.responses scope operation endpoint := by
  unfold Payload.responses
  refine Steps.bind_congr fun entries hentries => ?_
  rw [Steps.filterMapM_congr]
  rintro ⟨status, response⟩ hmem
  obtain ⟨v, hv, hresponse⟩ := inside_of_getFields hentries hmem
  have hinside := hresponse.trans ((inside_of_get hv).trans hin)
  dsimp only
  rw [h.response? hinside]
  refine Steps.bind_congr fun found hfound => ?_
  cases found with
  | none => rfl
  | some stated =>
    dsimp only
    rw [h.declare? _ (Payload.inside_of_response? hfound hinside)]

end

/-! ## Endpoints -/

/-- **Operations.**  They have the same endpoints in both scopes. -/
theorem Agrees.ofOperation (h : scope.Agrees scope') {operation : Operation} (pairs : Nat)
    (name : String) (hitem : (Value.obj operation.pathItem).Inside scope.document)
    (hfields : (Value.obj operation.fields).Inside scope.document) :
    Endpoint.ofOperation scope' pairs operation name =
      Endpoint.ofOperation scope pairs operation name := by
  unfold Endpoint.ofOperation
  rw [h.collectParameters hitem hfields]
  refine Steps.bind_congr fun parameters hparameters => ?_
  rw [h.declareAll name fun p hp =>
      Parameter.inside_of_mem_collect hparameters hitem hfields hp,
    h.requestBody? name hfields, h.responses name hfields]

/-- **All endpoints.**  They are the same if the operations are. -/
theorem Agrees.endpointsOf (h : scope.Agrees scope')
    (hoperations : operations scope'.document = operations scope.document) (skip : Value) :
    ApiTypes.endpointsOf scope' skip = ApiTypes.endpointsOf scope skip := by
  unfold ApiTypes.endpointsOf
  rw [hoperations]
  refine Steps.bind_congr fun found hfound => ?_
  split
  · rfl
  · refine Steps.bind_congr fun pairs _ => Steps.mapM_congr ?_
    rintro ⟨operation, name⟩ hmem
    obtain ⟨hitem, hfields⟩ := inside_of_mem_operations hfound (List.of_mem_zip hmem).1
    exact h.ofOperation pairs name hitem hfields

end Scope

end ApiTypes
