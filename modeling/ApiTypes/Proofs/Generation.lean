/-
  What a generation holds.

  * `declaredSchemas`, `failedSchemas`: what is declared for the schemas of a document, and
    why others are not (`foldlM_addSchema_eq_ok_iff`); `ofDocument_eq_ok_iff`: the generation
    that these are part of;
  * the declarations of schemas are those that `declareSchema` makes for entries of
    the components (`exists_schema_of_mem`);
  * the endpoints are those that `Endpoint.ofOperation` makes for the operations,
    under names that are pairwise distinct (`exists_operation_of_mem`,
    `nodup_names`); each is declared under its name (`get?_endpointDeclarations`).
-/
import ApiTypes.Generation
import ApiTypes.Proofs.Declarations
import ApiTypes.Proofs.EndpointNames

namespace ApiTypes.Generation

open Json (Value)

variable {document skip : Value} {g : Generation} {name key : String} {d : Declaration}

/-! ## Keys -/

theorem endpointName?_eq_some_iff : endpointName? key = some name ↔ key = endpointMark ++ name := by
  unfold endpointName?
  split
  · next hprefix =>
    obtain ⟨rest, hrest⟩ := List.isPrefixOf_iff_prefix.1 hprefix
    rw [← hrest, List.drop_left, Option.some.injEq, ← String.toList_inj, ← String.toList_inj,
      String.toList_append, ← hrest, String.toList_ofList]
    exact List.append_right_inj _ |>.symm
  · next hprefix =>
    refine ⟨nofun, fun h => absurd ?_ hprefix⟩
    rw [h, String.toList_append, List.isPrefixOf_iff_prefix]
    exact List.prefix_append _ _

theorem mem_schemaDeclarations :
    (name, d) ∈ g.schemaDeclarations ↔
      (name, d) ∈ g.declarations ∧ endpointName? name = none := by
  rw [schemaDeclarations, List.mem_filter, Option.isNone_iff_eq_none]

theorem get?_filterMap_endpointName? (declarations : List (String × Declaration)) :
    Entries.get? (declarations.filterMap fun (key, d) =>
        (endpointName? key).map fun name => (name, d)) name =
      Entries.get? declarations (endpointMark ++ name) := by
  induction declarations with
  | nil => rfl
  | cons e rest ih =>
    obtain ⟨k, d⟩ := e
    cases hk : endpointName? k with
    | none =>
      have hne : k ≠ endpointMark ++ name := fun h =>
        absurd (hk.symm.trans (endpointName?_eq_some_iff.2 h)) nofun
      simp only [List.filterMap_cons, hk, Option.map_none, Entries.get?, if_neg hne]
      exact ih
    | some n =>
      obtain rfl := endpointName?_eq_some_iff.1 hk
      simp only [List.filterMap_cons, hk, Option.map_some, Entries.get?]
      by_cases hn : n = name
      · rw [if_pos hn, if_pos (congrArg _ hn)]
      · have hne : endpointMark ++ n ≠ endpointMark ++ name := fun h =>
          hn (Option.some.inj (hk.symm.trans (endpointName?_eq_some_iff.2 h)))
        rw [if_neg hn, if_neg hne, ih]

/-! ## Schemas -/

theorem scope_document {scope : Scope} (h : Scope.ofDocument document = .ok scope) :
    scope.document = document := by
  obtain ⟨schemas, -, h⟩ := Steps.bind_eq_ok.1 h
  obtain rfl := Except.ok.inj h
  rfl

/-- What is declared for a schema, under its name. -/
def declared? (scope : Scope) (e : String × Value) : Option (String × Declaration) :=
  (declareSchema scope e.1 e.2).toOption.map fun d => (e.1, d)

/-- What is declared for the schemas of a document, by their names. -/
def declaredSchemas (scope : Scope) (schemas : List (String × Value)) :
    List (String × Declaration) := Entries.ofList (schemas.filterMap (declared? scope))

/-- Why a schema is not declared, under its name. -/
def failed? (scope : Scope) (e : String × Value) : Option (String × Failure) :=
  match declareSchema scope e.1 e.2 with
  | .ok _ => none
  | .error cause => some (e.1, cause)

/-- Why schemas of a document are not declared, by their names. -/
def failedSchemas (scope : Scope) (schemas : List (String × Value)) :
    List (String × Failure) := Entries.ofList (schemas.filterMap (failed? scope))

section

variable {scope : Scope} {schemas : List (String × Value)}

theorem declared?_eq_some_iff {e : String × Value} {e' : String × Declaration} :
    declared? scope e = some e' ↔ e'.1 = e.1 ∧ declareSchema scope e.1 e.2 = .ok e'.2 := by
  obtain ⟨name', d'⟩ := e'
  rw [declared?]
  cases declareSchema scope e.1 e.2 with
  | error cause => exact iff_of_false nofun fun h => absurd h.2 nofun
  | ok d =>
    constructor
    · rintro ⟨⟩
      exact ⟨rfl, rfl⟩
    · rintro ⟨rfl, hd⟩
      obtain rfl := Except.ok.inj hd
      rfl

theorem fst_of_declared? {e : String × Value} {e' : String × Declaration}
    (h : declared? scope e = some e') : e'.1 = e.1 :=
  (declared?_eq_some_iff.1 h).1

theorem fst_of_failed? {e : String × Value} {e' : String × Failure}
    (h : failed? scope e = some e') : e'.1 = e.1 := by
  unfold failed? at h
  split at h <;> cases h
  rfl

/-- The schemas that are declared keep their order. -/
theorem declaredSchemas_eq (hnodup : (Entries.keys schemas).Nodup) :
    declaredSchemas scope schemas = schemas.filterMap (declared? scope) :=
  Entries.ofList_eq_self
    ((Entries.keys_filterMap_sublist fun _ _ => fst_of_declared?).nodup hnodup)

/-- The schemas that are reported keep their order. -/
theorem failedSchemas_eq (hnodup : (Entries.keys schemas).Nodup) :
    failedSchemas scope schemas = schemas.filterMap (failed? scope) :=
  Entries.ofList_eq_self
    ((Entries.keys_filterMap_sublist fun _ _ => fst_of_failed?).nodup hnodup)

/-- **One schema.**  Its declaration is written, or why there is none. -/
theorem addSchema_eq_ok_iff {schema : Value}
    {done next : List (String × Declaration) × List (String × Failure)} :
    addSchema scope done name schema = .ok next ↔
      declareSchema scope name schema ≠ .error .malformed ∧
      next = ((declared? scope (name, schema)).elim done.1 fun e => Entries.set done.1 e.1 e.2,
        (failed? scope (name, schema)).elim done.2 fun e => Entries.set done.2 e.1 e.2) := by
  unfold addSchema
  rw [declared?, failed?]
  cases hdeclared : declareSchema scope name schema with
  | ok d =>
    refine ⟨fun h => ⟨nofun, (Except.ok.inj h).symm⟩, ?_⟩
    rintro ⟨-, rfl⟩
    rfl
  | error cause =>
    by_cases hcause : cause = .malformed
    · subst hcause
      exact ⟨fun h => absurd h nofun, fun h => absurd rfl h.1⟩
    · have hne : (Except.error cause : Except Failure Declaration) ≠ .error .malformed :=
        fun heq => hcause (Except.error.inj heq)
      cases cause with
      | malformed => exact absurd rfl hcause
      | _ =>
        refine ⟨fun h => ⟨hne, (Except.ok.inj h).symm⟩, ?_⟩
        rintro ⟨-, rfl⟩
        rfl

/-- **All schemas.**  What is declared for them is written, one after another, and so is why
    the others are not. -/
theorem foldlM_addSchema_eq_ok_iff
    {done result : List (String × Declaration) × List (String × Failure)} :
    schemas.foldlM (fun done (e : String × Value) => addSchema scope done e.1 e.2) done =
        .ok result ↔
      (∀ e ∈ schemas, declareSchema scope e.1 e.2 ≠ .error .malformed) ∧
      result = ((schemas.filterMap (declared? scope)).foldl
          (fun written (e : String × Declaration) => Entries.set written e.1 e.2) done.1,
        (schemas.filterMap (failed? scope)).foldl
          (fun written (e : String × Failure) => Entries.set written e.1 e.2) done.2) := by
  induction schemas generalizing done with
  | nil =>
    refine ⟨fun h => ⟨nofun, (Except.ok.inj h).symm⟩, ?_⟩
    rintro ⟨-, rfl⟩
    rfl
  | cons e rest ih =>
    rw [List.foldlM_cons, Steps.bind_eq_ok, List.forall_mem_cons, List.filterMap_cons,
      List.filterMap_cons]
    constructor
    · rintro ⟨next, hnext, h⟩
      obtain ⟨hne, rfl⟩ := addSchema_eq_ok_iff.1 hnext
      obtain ⟨hrest, rfl⟩ := ih.1 h
      refine ⟨⟨hne, hrest⟩, ?_⟩
      cases declared? scope e <;> cases failed? scope e <;> rfl
    · rintro ⟨⟨hne, hrest⟩, rfl⟩
      refine ⟨_, addSchema_eq_ok_iff.2 ⟨hne, rfl⟩, ih.2 ⟨hrest, ?_⟩⟩
      cases declared? scope e <;> cases failed? scope e <;> rfl

end

/-! ## Declarations of endpoints -/

theorem declarationOf_eq_ok_iff {e : Endpoint} : declarationOf e = .ok d ↔
    ∃ code, e.code = .ok code ∧ d = ⟨e.name, code, e.dependencies, none⟩ := by
  refine Steps.bind_eq_ok.trans (exists_congr fun code => and_congr_right fun _ => ?_)
  exact ⟨fun h => (Except.ok.inj h).symm, fun h => congrArg Except.ok h.symm⟩

theorem name_of_declarationOf {e : Endpoint} (h : declarationOf e = .ok d) : d.name = e.name := by
  obtain ⟨code, -, rfl⟩ := declarationOf_eq_ok_iff.1 h
  rfl

/-- Endpoints are declared under their names. -/
theorem map_name_of_mapM {endpoints : List Endpoint} {made : List Declaration}
    (h : endpoints.mapM declarationOf = .ok made) :
    made.map Declaration.name = endpoints.map Endpoint.name := by
  have hsame : List.Forall₂ (· = ·) (endpoints.map Endpoint.name)
      (made.map Declaration.name) := by
    rw [List.forall₂_map_left_iff, List.forall₂_map_right_iff]
    exact (Steps.mapM_eq_ok.1 h).imp fun e d hd => (name_of_declarationOf hd).symm
  rw [List.forall₂_eq_eq_eq] at hsame
  exact hsame.symm

/-- An endpoint is declared if what its operation says about itself is a text, or nothing. -/
theorem exists_declarationOf_eq_ok {e : Endpoint} {summary : String}
    (h : Comment.lines (some e.summary) = .ok summary) : ∃ d, declarationOf e = .ok d :=
  ⟨_, Steps.bind_eq_ok.2 ⟨_, Steps.bind_eq_ok.2 ⟨summary, h, rfl⟩, rfl⟩⟩

/-! ## Generations -/

/-- **A generation.**  Schemas are declared first, then endpoints. -/
theorem ofDocument_eq_ok_iff : ofDocument document skip = .ok g ↔
    ∃ scope schemas, Scope.ofDocument document = .ok scope ∧
      components document .schemas = .ok schemas ∧
      (∀ e ∈ schemas, declareSchema scope e.1 e.2 ≠ .error .malformed) ∧
      endpointsOf scope skip = .ok g.endpoints ∧
      (∃ made, g.endpoints.mapM declarationOf = .ok made ∧
        g.declarations = made.foldl (fun written d =>
          Entries.set written (endpointMark ++ d.name) d) (declaredSchemas scope schemas)) ∧
      g.urlTree = UrlTree.build (g.endpoints.map fun e => ⟨e.name, e.folder, e.path⟩) ∧
      g.errors = failedSchemas scope schemas := by
  constructor
  · intro h
    obtain ⟨scope, hscope, h⟩ := Steps.bind_eq_ok.1 h
    obtain ⟨schemas, hschemas, h⟩ := Steps.bind_eq_ok.1 h
    obtain ⟨⟨declared, errors⟩, hdeclared, h⟩ := Steps.bind_eq_ok.1 h
    obtain ⟨endpoints, hendpoints, h⟩ := Steps.bind_eq_ok.1 h
    obtain ⟨made, hmade, h⟩ := Steps.bind_eq_ok.1 h
    obtain rfl := Except.ok.inj h
    obtain ⟨hne, heq⟩ := foldlM_addSchema_eq_ok_iff.1 hdeclared
    obtain ⟨rfl, rfl⟩ := Prod.mk.inj heq
    exact ⟨scope, schemas, hscope, hschemas, hne, hendpoints, ⟨made, hmade, rfl⟩, rfl, rfl⟩
  · rintro ⟨scope, schemas, hscope, hschemas, hne, hendpoints, ⟨made, hmade, hdeclarations⟩,
      hurls, herrors⟩
    refine Steps.bind_eq_ok.2 ⟨scope, hscope, Steps.bind_eq_ok.2 ⟨schemas, hschemas,
      Steps.bind_eq_ok.2 ⟨_, foldlM_addSchema_eq_ok_iff.2 ⟨hne, rfl⟩,
        Steps.bind_eq_ok.2 ⟨g.endpoints, hendpoints, Steps.bind_eq_ok.2 ⟨made, hmade, ?_⟩⟩⟩⟩⟩
    obtain ⟨declarations, endpoints, urlTree, errors⟩ := g
    dsimp only at hdeclarations hurls herrors
    rw [hdeclarations, hurls, herrors]
    rfl

/-- What is declared has been declared for a schema. -/
def Declared (scope : Scope) (schemas : List (String × Value))
    (declared : List (String × Declaration)) : Prop :=
  ∀ e ∈ declared, ∃ schema, (e.1, schema) ∈ schemas ∧ declareSchema scope e.1 schema = .ok e.2

theorem declared_declaredSchemas (scope : Scope) (schemas : List (String × Value)) :
    Declared scope schemas (declaredSchemas scope schemas) := by
  intro e he
  obtain ⟨⟨name, schema⟩, hmem, hdeclared⟩ :=
    List.mem_filterMap.1 (Entries.mem_of_mem_ofList he)
  obtain ⟨rfl, hd⟩ := declared?_eq_some_iff.1 hdeclared
  exact ⟨schema, hmem, hd⟩

/-- Only schemas of the document are declared. -/
theorem mem_keys_of_mem_declaredSchemas {scope : Scope} {schemas : List (String × Value)}
    {name : String} (h : name ∈ Entries.keys (declaredSchemas scope schemas)) :
    name ∈ Entries.keys schemas := by
  obtain ⟨e, he, rfl⟩ := List.mem_map.1 h
  obtain ⟨schema, hschema, -⟩ := declared_declaredSchemas scope schemas e he
  exact List.mem_map_of_mem hschema

/-- The parts of a generation. -/
theorem exists_of_ofDocument (h : ofDocument document skip = .ok g) :
    ∃ scope schemas declared, scope.document = document ∧
      components document .schemas = .ok schemas ∧ Declared scope schemas declared ∧
      endpointsOf scope skip = .ok g.endpoints ∧
      ∃ made, g.endpoints.mapM declarationOf = .ok made ∧
        g.declarations = made.foldl (fun written d =>
          Entries.set written (endpointMark ++ d.name) d) declared := by
  obtain ⟨scope, schemas, hscope, hschemas, -, hendpoints, hdeclarations, -⟩ :=
    ofDocument_eq_ok_iff.1 h
  exact ⟨scope, schemas, _, scope_document hscope, hschemas,
    declared_declaredSchemas scope schemas, hendpoints, hdeclarations⟩

/-- No two declarations have the same key. -/
theorem nodup_keys_declarations (h : ofDocument document skip = .ok g) :
    (Entries.keys g.declarations).Nodup := by
  obtain ⟨scope, schemas, -, -, -, -, ⟨made, -, hdeclarations⟩, -⟩ := ofDocument_eq_ok_iff.1 h
  rw [hdeclarations]
  exact Entries.nodup_keys_foldl_set (Entries.nodup_keys_ofList _)

/-- A declaration of a schema is made for an entry of the components. -/
theorem exists_schema_of_mem (h : ofDocument document skip = .ok g)
    (hmem : (name, d) ∈ g.schemaDeclarations) :
    ∃ scope schemas schema, scope.document = document ∧
      components document .schemas = .ok schemas ∧ (name, schema) ∈ schemas ∧
      declareSchema scope name schema = .ok d := by
  obtain ⟨scope, schemas, declared, hdoc, hschemas, hdeclared, -, made, -, hall⟩ :=
    exists_of_ofDocument h
  obtain ⟨hmem, hname⟩ := mem_schemaDeclarations.1 hmem
  rw [hall] at hmem
  rcases Entries.mem_of_mem_foldl_set hmem with ⟨d, -, hd⟩ | hmem
  · obtain ⟨rfl, -⟩ := Prod.mk.inj hd
    exact absurd (hname.symm.trans (endpointName?_eq_some_iff.2 rfl)) nofun
  · obtain ⟨schema, hschema, hd⟩ := hdeclared _ hmem
    exact ⟨scope, schemas, schema, hdoc, hschemas, hschema, hd⟩

/-! ## Endpoints -/

/-- The endpoints belong to the operations, one to one and in order, under names that
    have been resolved. -/
theorem endpointsOf_spec {scope : Scope} {endpoints : List Endpoint}
    (h : endpointsOf scope skip = .ok endpoints) :
    ∃ found pairs, operations scope.document = .ok found ∧
      (found ≠ [] → pairsToSkip skip = .ok pairs) ∧
      List.Forall₂ (fun entry e => Endpoint.ofOperation scope pairs entry.1 entry.2 = .ok e)
        (found.zip (Endpoint.resolve (found.map (·.proposal pairs)))) endpoints := by
  obtain ⟨found, hfound, h⟩ := Steps.bind_eq_ok.1 h
  split at h
  · obtain rfl := Except.ok.inj h
    exact ⟨[], 0, hfound, fun hne => absurd rfl hne, .nil⟩
  · obtain ⟨pairs, hpairs, h⟩ := Steps.bind_eq_ok.1 h
    exact ⟨found, pairs, hfound, fun _ => hpairs, Steps.mapM_eq_ok.1 h⟩

/-- The endpoints belong to the operations, one to one and in order. -/
theorem forall₂_endpointsOf {scope : Scope} {endpoints : List Endpoint}
    (h : endpointsOf scope skip = .ok endpoints) :
    ∃ found pairs, operations scope.document = .ok found ∧
      List.Forall₂ (fun operation e =>
        ∃ name, Endpoint.ofOperation scope pairs operation name = .ok e) found endpoints := by
  obtain ⟨found, pairs, hfound, -, hall⟩ := endpointsOf_spec h
  have hlength : found.length ≤ (Endpoint.resolve (found.map (·.proposal pairs))).length :=
    Nat.le_of_eq (by rw [Endpoint.length_resolve, List.length_map])
  refine ⟨found, pairs, hfound, ?_⟩
  rw [← List.map_fst_zip hlength, List.forall₂_map_left_iff]
  exact hall.imp fun entry e hof => ⟨entry.2, hof⟩

/-- An endpoint is made of an operation, under the name that has been resolved for it. -/
theorem exists_made_of_mem {scope : Scope} {endpoints : List Endpoint}
    (h : endpointsOf scope skip = .ok endpoints) {e : Endpoint} (he : e ∈ endpoints) :
    ∃ found pairs operation, operations scope.document = .ok found ∧
      (operation, e.name) ∈ found.zip (Endpoint.resolve (found.map (·.proposal pairs))) ∧
      Endpoint.ofOperation scope pairs operation e.name = .ok e := by
  obtain ⟨found, pairs, hfound, -, hall⟩ := endpointsOf_spec h
  obtain ⟨⟨operation, name⟩, hmem, hof⟩ := Steps.exists_mem_of_forall₂_right hall he
  obtain rfl := (Endpoint.ofOperation_spec hof).1
  exact ⟨found, pairs, operation, hfound, hmem, hof⟩

/-- Endpoints are declared if what their operations say about themselves are texts. -/
theorem exists_mapM_declarationOf {scope : Scope} {found : List Operation}
    {endpoints : List Endpoint} (h : endpointsOf scope skip = .ok endpoints)
    (hfound : operations scope.document = .ok found)
    (hsummary : ∀ operation ∈ found, ∃ summary,
      Comment.lines (some operation.summary) = .ok summary) :
    ∃ made, endpoints.mapM declarationOf = .ok made := by
  refine Steps.exists_mapM_eq_ok fun e he => ?_
  obtain ⟨found', pairs, operation, hfound', hmem, hof⟩ := exists_made_of_mem h he
  obtain rfl := Except.ok.inj (hfound.symm.trans hfound')
  obtain ⟨summary, hlines⟩ := hsummary operation (List.of_mem_zip hmem).1
  exact exists_declarationOf_eq_ok ((Endpoint.summary_of_ofOperation hof).symm ▸ hlines)

/-- An endpoint belongs to an operation and has a name that extends the one made from
    the operation's path. -/
theorem exists_operation_of_mem (h : ofDocument document skip = .ok g) {e : Endpoint}
    (he : e ∈ g.endpoints) :
    ∃ scope found operation pairs, scope.document = document ∧
      operations document = .ok found ∧ operation ∈ found ∧
      Endpoint.ofOperation scope pairs operation e.name = .ok e ∧
      Endpoint.Extends (Naming.name operation.path pairs) e.name ∧
      e.folder = Naming.folder operation.path pairs := by
  obtain ⟨scope, -, -, rfl, -, -, hendpoints, -⟩ := exists_of_ofDocument h
  obtain ⟨found, pairs, operation, hfound, hmem, hof⟩ := exists_made_of_mem hendpoints he
  obtain ⟨-, hfolder, -⟩ := Endpoint.ofOperation_spec hof
  have hextends := Endpoint.resolve_extends (found.map (·.proposal pairs))
  rw [List.forall₂_map_left_iff] at hextends
  exact ⟨scope, found, operation, pairs, rfl, hfound, (List.of_mem_zip hmem).1, hof,
    List.forall₂_zip hextends hmem, hfolder⟩

/-- The endpoints have the names that have been resolved. -/
theorem map_name_of_forall₂ {scope : Scope} {found : List Operation} {pairs : Nat}
    {endpoints : List Endpoint}
    (hall : List.Forall₂ (fun entry e => Endpoint.ofOperation scope pairs entry.1 entry.2 = .ok e)
      (found.zip (Endpoint.resolve (found.map (·.proposal pairs)))) endpoints) :
    endpoints.map Endpoint.name = Endpoint.resolve (found.map (·.proposal pairs)) := by
  have hlength : (Endpoint.resolve (found.map (·.proposal pairs))).length ≤ found.length :=
    Nat.le_of_eq (by rw [Endpoint.length_resolve, List.length_map])
  have hnames : List.Forall₂ (· = ·) (Endpoint.resolve (found.map (·.proposal pairs)))
      (endpoints.map Endpoint.name) := by
    rw [← List.map_snd_zip hlength, List.forall₂_map_left_iff, List.forall₂_map_right_iff]
    exact hall.imp fun entry e hof => (Endpoint.ofOperation_spec hof).1.symm
  rw [List.forall₂_eq_eq_eq] at hnames
  exact hnames.symm

theorem nodup_names_endpointsOf {scope : Scope} {endpoints : List Endpoint}
    (h : endpointsOf scope skip = .ok endpoints) : (endpoints.map Endpoint.name).Nodup := by
  obtain ⟨found, pairs, -, -, hall⟩ := endpointsOf_spec h
  rw [map_name_of_forall₂ hall]
  exact Endpoint.nodup_resolve _

/-- There are endpoints if one can be made of each operation, whatever its name. -/
theorem exists_endpointsOf_eq_ok {scope : Scope} {found : List Operation}
    (hfound : operations scope.document = .ok found)
    (hmade : ∀ operation ∈ found, ∀ name,
      ∃ e, Endpoint.ofOperation scope 0 operation name = .ok e) :
    ∃ endpoints, endpointsOf scope (.int 0) = .ok endpoints ∧
      endpoints.map Endpoint.name = Endpoint.resolve (found.map (·.proposal 0)) := by
  obtain ⟨endpoints, hendpoints⟩ : ∃ endpoints,
      (found.zip (Endpoint.resolve (found.map (·.proposal 0)))).mapM
        (fun entry => Endpoint.ofOperation scope 0 entry.1 entry.2) = .ok endpoints :=
    Steps.exists_mapM_eq_ok fun entry hentry =>
      hmade entry.1 (List.of_mem_zip hentry).1 entry.2
  refine ⟨endpoints, Steps.bind_eq_ok.2 ⟨found, hfound, ?_⟩,
    map_name_of_forall₂ (Steps.mapM_eq_ok.1 hendpoints)⟩
  cases found with
  | nil => exact hendpoints
  | cons operation rest => exact Steps.bind_eq_ok.2 ⟨0, rfl, hendpoints⟩

theorem nodup_names (h : ofDocument document skip = .ok g) :
    (g.endpoints.map Endpoint.name).Nodup := by
  obtain ⟨scope, -, -, -, -, -, hendpoints, -⟩ := exists_of_ofDocument h
  exact nodup_names_endpointsOf hendpoints

/-- An endpoint is declared under its name. -/
theorem get?_declarations (h : ofDocument document skip = .ok g) {e : Endpoint}
    (he : e ∈ g.endpoints) :
    ∃ d, declarationOf e = .ok d ∧
      Entries.get? g.declarations (endpointMark ++ e.name) = some d := by
  obtain ⟨scope, schemas, declared, -, -, -, -, made, hmade, hall⟩ := exists_of_ofDocument h
  have hnodup : (made.map Declaration.name).Nodup := map_name_of_mapM hmade ▸ nodup_names h
  obtain ⟨d, hmem, hd⟩ := Steps.exists_mem_of_forall₂_right (Steps.mapM_eq_ok.1 hmade).flip he
  refine ⟨d, hd, ?_⟩
  rw [hall, ← name_of_declarationOf hd]
  refine @Entries.get?_foldl_set_of_mem _ _ (fun d => endpointMark ++ d.name) id _ _ _ ?_ hmem
  refine List.pairwise_map.2 ((List.pairwise_map.1 hnodup).imp fun hne heq => hne ?_)
  exact Option.some.inj
    ((endpointName?_eq_some_iff.2 rfl).symm.trans (endpointName?_eq_some_iff.2 heq))

theorem get?_endpointDeclarations (h : ofDocument document skip = .ok g) {e : Endpoint}
    (he : e ∈ g.endpoints) :
    ∃ d, declarationOf e = .ok d ∧ Entries.get? g.endpointDeclarations e.name = some d := by
  obtain ⟨d, hd, hget⟩ := get?_declarations h he
  exact ⟨d, hd, (get?_filterMap_endpointName? _).trans hget⟩

/-- Without schemas, none is declared. -/
theorem schemaDeclarations_eq_nil (h : ofDocument document skip = .ok g)
    (hnone : components document .schemas = .ok []) : g.schemaDeclarations = [] := by
  refine List.eq_nil_iff_forall_not_mem.2 fun ⟨name, d⟩ hmem => ?_
  obtain ⟨-, schemas, schema, -, hschemas, hschema, -⟩ := exists_schema_of_mem h hmem
  obtain rfl := Except.ok.inj (hnone.symm.trans hschemas)
  exact absurd hschema List.not_mem_nil

/-! ## Operations with nothing but an answer -/

/-- The fields of an operation that only says what it answers. -/
def answering (schema : List (String × Value)) : List (String × Value) :=
  [("responses", .obj [("200", .obj [("content", jsonContent (.obj schema))])])]

/-- Such an operation has an endpoint if a type is written for the schema. -/
theorem exists_endpoint_answering {scope : Scope}
    (hcomponents : ∀ kind, ∃ entries, components scope.document kind = .ok entries)
    {schema : List (String × Value)} {t : TypeExpr}
    (htype : (scope.typeByName [] (.obj schema)).result = .ok t) (path method endpoint : String)
    (item : List (String × Value)) (hitem : Entries.get? item "parameters" = none) :
    ∃ e, Endpoint.ofOperation scope 0 ⟨path, method, item, answering schema⟩ endpoint = .ok e ∧
      e.declarations.map Declaration.name = [endpoint ++ "_" ++ "200" ++ "Response"] := by
  obtain ⟨answer, hanswer, hname⟩ : ∃ d,
      declarePayload scope (endpoint ++ "_" ++ "200" ++ "Response") (.obj schema) none = .ok d ∧
        d.name = endpoint ++ "_" ++ "200" ++ "Response" :=
    exists_declarePayload_eq_ok hcomponents htype
  have hdeclared : Payload.declare? scope (.obj [("content", jsonContent (.obj schema))])
      (endpoint ++ "_" ++ "200" ++ "Response") = .ok (some answer) :=
    Steps.bind_eq_ok.2 ⟨some (.obj schema), rfl, Steps.bind_eq_ok.2 ⟨_, hanswer, rfl⟩⟩
  have hresponses : Payload.responses scope (.obj (answering schema)) endpoint =
      .ok [("200", answer)] := by
    refine Steps.bind_eq_ok.2 ⟨[("200", .obj [("content", jsonContent (.obj schema))])], rfl,
      Steps.bind_eq_ok.2 ⟨[("200", answer)], ?_, rfl⟩⟩
    rw [List.filterMapM_cons]
    refine Steps.bind_eq_ok.2 ⟨some ("200", answer), ?_, rfl⟩
    exact Steps.bind_eq_ok.2 ⟨some (.obj [("content", jsonContent (.obj schema))]), rfl,
      Steps.bind_eq_ok.2 ⟨_, hdeclared, rfl⟩⟩
  have hparameters : Parameter.collect scope.document item (answering schema) = .ok [] := by
    rw [Parameter.collect, hitem]
    rfl
  refine ⟨_, Steps.bind_eq_ok.2 ⟨[], hparameters, Steps.bind_eq_ok.2 ⟨_, rfl,
    Steps.bind_eq_ok.2 ⟨[], rfl, Steps.bind_eq_ok.2 ⟨none, rfl,
      Steps.bind_eq_ok.2 ⟨_, hresponses, rfl⟩⟩⟩⟩⟩, ?_⟩
  exact congrArg (fun name => [name]) hname

/-! ## Documents with nothing but paths -/

/-- An operation that says nothing about itself. -/
def bareOperation (path : String) : Operation := ⟨path, "get", [("get", .obj [])], []⟩

/-- The document with such an operation under each path. -/
def bareDocument (paths : List String) : Value :=
  .obj [("paths", .obj (paths.map fun path => (path, .obj (bareOperation path).pathItem)))]

/-- The endpoint of such an operation. -/
def bareEndpoint (path name : String) : Endpoint :=
  ⟨name, Naming.name path 0, "get", path, Naming.folder path 0, .str "default", .str "", [], none,
    []⟩

theorem operations_bareDocument (paths : List String) :
    operations (bareDocument paths) = .ok (paths.map bareOperation) := by
  have hitems : Document.getFields (bareDocument paths) "paths" =
      .ok (paths.map fun path => (path, .obj (bareOperation path).pathItem)) := by
    cases paths <;> rfl
  have hone (path : String) :
      operationsOf path (.obj (bareOperation path).pathItem) = [bareOperation path] := by cbv
  rw [operations, hitems]
  refine congrArg Except.ok ?_
  rw [List.flatMap_map]
  simp only [hone]
  exact List.map_eq_flatMap.symm

/-- Nothing but its paths is needed of a document. -/
theorem exists_generation_bare (paths : List String) :
    ∃ g, ofDocument (bareDocument paths) (.int 0) = .ok g ∧
      g.endpoints = List.zipWith bareEndpoint paths
        (Endpoint.resolve (paths.map fun path => (bareOperation path).proposal 0)) ∧
      g.schemaDeclarations = [] := by
  have hscope : Scope.ofDocument (bareDocument paths) = .ok ⟨bareDocument paths, .ofSchemas []⟩ :=
    rfl
  have hof (names : List String) : List.Forall₂
      (fun (entry : Operation × String) e =>
        Endpoint.ofOperation ⟨bareDocument paths, .ofSchemas []⟩ 0 entry.1 entry.2 = .ok e)
      ((paths.map bareOperation).zip names) (List.zipWith bareEndpoint paths names) := by
    rw [List.zip_map_left, ← List.map_uncurry_zip_eq_zipWith, List.forall₂_map_left_iff,
      List.forall₂_map_right_iff]
    exact List.forall₂_same.2 fun entry _ => rfl
  have hendpoints : endpointsOf ⟨bareDocument paths, .ofSchemas []⟩ (.int 0) =
      .ok (List.zipWith bareEndpoint paths
        (Endpoint.resolve (paths.map fun path => (bareOperation path).proposal 0))) := by
    refine Steps.bind_eq_ok.2 ⟨_, operations_bareDocument paths, ?_⟩
    cases paths with
    | nil => rfl
    | cons path rest =>
      refine Steps.bind_eq_ok.2 ⟨0, rfl, Steps.mapM_eq_ok.2 ?_⟩
      rw [List.map_map]
      exact hof _
  obtain ⟨made, hmade⟩ : ∃ made, (List.zipWith bareEndpoint paths
      (Endpoint.resolve (paths.map fun path => (bareOperation path).proposal 0))).mapM
        declarationOf = .ok made := by
    refine Steps.exists_mapM_eq_ok fun e he => ?_
    rw [← List.map_uncurry_zip_eq_zipWith] at he
    obtain ⟨entry, -, rfl⟩ := List.mem_map.1 he
    exact exists_declarationOf_eq_ok rfl
  obtain ⟨g, hgen, hg⟩ : ∃ g, ofDocument (bareDocument paths) (.int 0) = .ok g ∧
      g.endpoints = List.zipWith bareEndpoint paths
        (Endpoint.resolve (paths.map fun path => (bareOperation path).proposal 0)) :=
    ⟨_, Steps.bind_eq_ok.2 ⟨_, hscope, Steps.bind_eq_ok.2 ⟨[], rfl,
      Steps.bind_eq_ok.2 ⟨_, rfl, Steps.bind_eq_ok.2 ⟨_, hendpoints,
        Steps.bind_eq_ok.2 ⟨_, hmade, rfl⟩⟩⟩⟩⟩, rfl⟩
  exact ⟨g, hgen, hg, schemaDeclarations_eq_nil hgen rfl⟩

end ApiTypes.Generation
