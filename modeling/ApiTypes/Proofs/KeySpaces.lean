/-
  Schemas and endpoints share one map of declarations.

  The key of an endpoint's declaration starts with `endpoint:`, and the declarations are
  told apart by that again.  A schema can have such a name too.

  * `schemaPart`, `endpointPart`: the map split by its keys; the endpoints are written into
    the one part only (`schemaPart_foldl_set`, `endpointPart_foldl_set`);
  * `exists_declareSchema_iff`: a schema is declared if its type can be written, unless
    something is malformed;
  * `declarations_split_iff`: the split gives back what was declared for schemas and for
    endpoints, if and only if no declared schema has the name of a key.
-/
import ApiTypes.Proofs.Imports

namespace ApiTypes.Generation

open Json (Value)

/-! ## The parts of the map -/

/-- The declarations whose keys are not those of endpoints. -/
def schemaPart (declarations : List (String × Declaration)) : List (String × Declaration) :=
  declarations.filter fun (key, _) => (endpointName? key).isNone

/-- The declarations whose keys are those of endpoints, by the endpoint's name. -/
def endpointPart (declarations : List (String × Declaration)) : List (String × Declaration) :=
  declarations.filterMap fun (key, d) => (endpointName? key).map fun name => (name, d)

theorem endpointName?_mark (name : String) : endpointName? (endpointMark ++ name) = some name :=
  endpointName?_eq_some_iff.2 rfl

/-- Writing the declaration of an endpoint leaves the schemas as they are. -/
theorem schemaPart_set (declarations : List (String × Declaration)) (name : String)
    (d : Declaration) :
    schemaPart (Entries.set declarations (endpointMark ++ name) d) = schemaPart declarations := by
  unfold schemaPart
  induction declarations with
  | nil => simp [Entries.set, endpointName?_mark]
  | cons e rest ih =>
    obtain ⟨key, old⟩ := e
    rw [Entries.set]
    by_cases hkey : key = endpointMark ++ name
    · simp [hkey, endpointName?_mark]
    · rw [if_neg hkey, List.filter_cons, List.filter_cons, ih]

/-- Writing the declaration of an endpoint writes it among those of endpoints. -/
theorem endpointPart_set (declarations : List (String × Declaration)) (name : String)
    (d : Declaration) :
    endpointPart (Entries.set declarations (endpointMark ++ name) d) =
      Entries.set (endpointPart declarations) name d := by
  unfold endpointPart
  induction declarations with
  | nil => simp [Entries.set, endpointName?_mark]
  | cons e rest ih =>
    obtain ⟨key, old⟩ := e
    rw [Entries.set]
    by_cases hkey : key = endpointMark ++ name
    · simp [hkey, endpointName?_mark, Entries.set]
    · rw [if_neg hkey, List.filterMap_cons, List.filterMap_cons, ih]
      dsimp only
      cases hname : endpointName? key with
      | none => rfl
      | some other =>
        have hne : other ≠ name := by
          rintro rfl
          exact hkey (endpointName?_eq_some_iff.1 hname)
        simp [Entries.set, hne]

section

variable (made : List Declaration) (declarations : List (String × Declaration))

theorem schemaPart_foldl_set : schemaPart (made.foldl (fun written d =>
      Entries.set written (endpointMark ++ d.name) d) declarations) =
    schemaPart declarations := by
  induction made generalizing declarations with
  | nil => rfl
  | cons d rest ih => rw [List.foldl_cons, ih, schemaPart_set]

theorem endpointPart_foldl_set : endpointPart (made.foldl (fun written d =>
      Entries.set written (endpointMark ++ d.name) d) declarations) =
    made.foldl (fun written d => Entries.set written d.name d) (endpointPart declarations) := by
  induction made generalizing declarations with
  | nil => rfl
  | cons d rest ih => rw [List.foldl_cons, List.foldl_cons, ih, endpointPart_set]

end

/-- The map has no part for endpoints if no key is that of one. -/
theorem endpointPart_eq_nil {declarations : List (String × Declaration)}
    (h : schemaPart declarations = declarations) : endpointPart declarations = [] := by
  rw [endpointPart, List.filterMap_eq_nil_iff]
  rintro ⟨key, d⟩ he
  have hplain := List.filter_eq_self.1 h (key, d) he
  dsimp only at hplain ⊢
  rw [Option.isNone_iff_eq_none.1 hplain]
  rfl

theorem schemaPart_eq_self_iff {declarations : List (String × Declaration)} :
    schemaPart declarations = declarations ↔
      ∀ name ∈ Entries.keys declarations, ∀ rest, name ≠ endpointMark ++ rest := by
  rw [schemaPart, List.filter_eq_self, Entries.keys, List.forall_mem_map]
  refine forall₂_congr fun e _ => ?_
  simp only [Option.isNone_iff_eq_none, Option.eq_none_iff_forall_ne_some, ne_eq,
    endpointName?_eq_some_iff]

/-! ## Schemas -/

theorem eq_malformed_of_getFields {v : Value} {key : String} {cause : Failure}
    (h : Document.getFields v key = .error cause) : cause = .malformed := by
  rcases Steps.bind_eq_error.1 h with h | ⟨found, -, h⟩
  · cases v <;> cases h <;> rfl
  · generalize Document.orEmpty found = o at h
    cases o <;> cases h <;> rfl

theorem eq_malformed_of_resolve {document : Value} {reference : String} {cause : Failure}
    (h : resolve document reference = .error cause) : cause = .malformed := by
  unfold resolve at h
  split at h
  · cases h
  · rcases Steps.bind_eq_error.1 h with h | ⟨entries, -, h⟩
    · rcases Steps.bind_eq_error.1 h with h | ⟨found, -, h⟩
      · cases document <;> cases h <;> rfl
      · exact eq_malformed_of_getFields h
    · split at h <;> cases h

theorem eq_malformed_of_collect {document : Value} {found : List String} {pending : List Value}
    {cause : Failure} (h : collect document found pending = .error cause) :
    cause = .malformed := by
  fun_induction collect document found pending with
  | case1 found => cases h
  | case4 found fields rest reference href name hnew e hres =>
    obtain rfl := Except.error.inj h
    exact eq_malformed_of_resolve hres
  | case2 _ _ _ _ ih | case3 _ _ _ _ _ _ _ ih | case5 _ _ _ _ _ _ _ _ ih
  | case6 _ _ _ _ _ _ _ _ _ ih | case7 _ _ _ _ ih => exact ih h

/-- Dependencies cannot be found only where something is malformed. -/
theorem eq_malformed_of_dependencies {document schema : Value} {cause : Failure}
    (h : dependencies document schema = .error cause) : cause = .malformed := by
  rw [dependencies] at h
  cases hfound : collect document [] [schema] with
  | error e =>
    rw [hfound] at h
    obtain rfl := Except.error.inj h
    exact eq_malformed_of_collect hfound
  | ok names =>
    rw [hfound] at h
    cases h

/-- A schema is declared if and only if its type can be written, unless something is
    malformed. -/
theorem exists_declareSchema_iff {scope : Scope} {name : String} {schema : Value}
    (h : declareSchema scope name schema ≠ .error .malformed) :
    (∃ d, declareSchema scope name schema = .ok d) ↔
      ∃ written, (scope.declare name schema).result = .ok written := by
  constructor
  · rintro ⟨d, hd⟩
    obtain ⟨written, hwritten, -⟩ := Steps.bind_eq_ok.1 hd
    exact ⟨written, hwritten⟩
  · rintro ⟨written, hwritten⟩
    cases hdeclared : declareSchema scope name schema with
    | ok d => exact ⟨d, rfl⟩
    | error cause =>
      refine absurd ?_ h
      rcases Steps.bind_eq_error.1 hdeclared with hcause | ⟨written', -, hcause⟩
      · cases hwritten.symm.trans hcause
      · rcases Steps.bind_eq_error.1 hcause with hcause | ⟨referred, -, hcause⟩
        · rw [hdeclared, eq_malformed_of_dependencies hcause]
        · cases hcause

/-! ## Generations -/

variable {document skip : Value} {g : Generation}

/-- **Schemas and endpoints apart.**  A schema is declared if its type can be written.  Those
    declarations are the map's part for schemas, up to the ones under keys of endpoints,
    which stand before the endpoints in the other part until an endpoint of that name takes
    their place.  Each endpoint is declared, and the two parts are what was declared for
    schemas and for endpoints if and only if no declared schema has the name of a key. -/
theorem declarations_split_iff (h : ofDocument document skip = .ok g) :
    ∃ scope schemas made, Scope.ofDocument document = .ok scope ∧
      components document .schemas = .ok schemas ∧
      (∀ e ∈ schemas, (∃ d, declareSchema scope e.1 e.2 = .ok d) ↔
        ∃ written, (scope.declare e.1 e.2).result = .ok written) ∧
      List.Forall₂ (fun e d => declarationOf e = .ok d) g.endpoints made ∧
      g.schemaDeclarations = schemaPart (declaredSchemas scope schemas) ∧
      g.endpointDeclarations = made.foldl (fun written d => Entries.set written d.name d)
        (endpointPart (declaredSchemas scope schemas)) ∧
      ((g.schemaDeclarations = declaredSchemas scope schemas ∧
          g.endpointDeclarations = made.map fun d => (d.name, d)) ↔
        ∀ name ∈ Entries.keys (declaredSchemas scope schemas), ∀ rest,
          name ≠ "endpoint:" ++ rest) := by
  obtain ⟨scope, schemas, hscope, hschemas, hne, -, ⟨made, hmade, hdeclarations⟩, -, -⟩ :=
    ofDocument_eq_ok_iff.1 h
  have hschemaPart : g.schemaDeclarations = schemaPart (declaredSchemas scope schemas) := by
    rw [schemaDeclarations, hdeclarations]
    exact schemaPart_foldl_set _ _
  have hendpointPart : g.endpointDeclarations = made.foldl (fun written d =>
      Entries.set written d.name d) (endpointPart (declaredSchemas scope schemas)) := by
    rw [endpointDeclarations, hdeclarations]
    exact endpointPart_foldl_set _ _
  refine ⟨scope, schemas, made, hscope, hschemas, fun e he => exists_declareSchema_iff (hne e he),
    Steps.mapM_eq_ok.1 hmade, hschemaPart, hendpointPart, ?_⟩
  constructor
  · rintro ⟨hsame, -⟩
    exact schemaPart_eq_self_iff.1 (hschemaPart.symm.trans hsame)
  · intro hplain
    have hsame := schemaPart_eq_self_iff.2 hplain
    refine ⟨hschemaPart.trans hsame, ?_⟩
    rw [hendpointPart, endpointPart_eq_nil hsame]
    have hnodup : (made.map Declaration.name).Nodup := map_name_of_mapM hmade ▸ nodup_names h
    exact Entries.foldl_set_eq_append hnodup fun d _ => List.not_mem_nil

/-- The schemas of users and of teams are declared, and so is the endpoint. -/
theorem declarations_split_iff_teams : ∃ g, ofDocument Output.teams (.int 0) = .ok g ∧
    Entries.keys g.schemaDeclarations = ["User", "Team"] ∧
    ∃ scope made, Scope.ofDocument Output.teams = .ok scope ∧
      List.Forall₂ (fun e d => declarationOf e = .ok d) g.endpoints made ∧
      g.schemaDeclarations = declaredSchemas scope Output.teamSchemas ∧
      g.endpointDeclarations = made.map fun d => (d.name, d) := by
  obtain ⟨g, hgen, hkeys, -⟩ := Output.exists_generation_teams
  obtain ⟨scope, schemas, made, hscope, hschemas, -, hmade, -, -, hiff⟩ :=
    declarations_split_iff hgen
  have hteams : components Output.teams .schemas = .ok Output.teamSchemas := by cbv
  obtain rfl := Except.ok.inj (hteams.symm.trans hschemas)
  have hplain : ∀ name ∈ Entries.keys (declaredSchemas scope Output.teamSchemas), ∀ rest,
      name ≠ "endpoint:" ++ rest := by
    intro name hname rest heq
    have hmark : endpointName? name = some rest := endpointName?_eq_some_iff.2 heq
    have hnames : ∀ name ∈ Entries.keys Output.teamSchemas, endpointName? name = none := by decide
    rw [hnames name (mem_keys_of_mem_declaredSchemas hname)] at hmark
    cases hmark
  exact ⟨g, hgen, hkeys, scope, made, hscope, hmade, hiff.2 hplain⟩

/-- A document with nothing but a schema, under the key of an endpoint. -/
def strayDocument : Value :=
  .obj [("components", .obj [("schemas", .obj [("endpoint:b", Output.userSchema)])])]

/-- The scope of the document. -/
def strayScope : Scope := ⟨strayDocument, ⟨[]⟩⟩

/-- Declarations do not always come apart: the schema has been declared, and counts as an
    endpoint that the document does not have. -/
theorem declarations_mixed_stray : ∃ g d, ofDocument strayDocument (.int 0) = .ok g ∧
    Scope.ofDocument strayDocument = .ok strayScope ∧
    declaredSchemas strayScope [("endpoint:b", Output.userSchema)] = [("endpoint:b", d)] ∧
    g.endpoints = [] ∧ g.schemaDeclarations = [] ∧ g.endpointDeclarations = [("b", d)] := by
  have hscope : Scope.ofDocument strayDocument = .ok strayScope := by cbv
  have hcomponents (kind : ComponentKind) :
      ∃ entries, components strayScope.document kind = .ok entries :=
    exists_components_of_schemas rfl kind
  obtain ⟨d, hd⟩ := Output.exists_declareSchema_userSchema hcomponents "endpoint:b"
  have hadd : addSchema strayScope ([], []) "endpoint:b" Output.userSchema =
      .ok ([("endpoint:b", d)], []) := by
    rw [addSchema, hd]
    rfl
  have hgen : ofDocument strayDocument (.int 0) = .ok ⟨[("endpoint:b", d)], [], [], []⟩ :=
    Steps.bind_eq_ok.2 ⟨strayScope, hscope, Steps.bind_eq_ok.2
      ⟨[("endpoint:b", Output.userSchema)], rfl, Steps.bind_eq_ok.2
        ⟨_, Steps.bind_eq_ok.2 ⟨_, hadd, rfl⟩, Steps.bind_eq_ok.2 ⟨[], rfl, rfl⟩⟩⟩⟩
  have hmark : endpointName? "endpoint:b" = some "b" := endpointName?_mark "b"
  refine ⟨_, d, hgen, hscope, ?_, rfl, ?_, ?_⟩
  · rw [declaredSchemas, List.filterMap_cons, declared?, hd]
    rfl
  · simp [schemaDeclarations, hmark]
  · simp [endpointDeclarations, hmark]

end ApiTypes.Generation
