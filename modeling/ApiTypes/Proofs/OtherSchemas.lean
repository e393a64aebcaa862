/-
  Documents with other component schemas.

  What is generated for a document depends on its component schemas through what is found
  under the keys that its references name, and through the first schema of each shape.

  * `withSchemas`: a document with other component schemas;
  * `ShapeTable.find?_ofSchemas`: a shape has the name of the first schema of that shape;
  * `ofDocument_withSchemas_iff`: what is generated for a document in which the same is found;
  * `insert_dangling_iff`: a dangling reference among the schemas is reported, and changes
    nothing else;
  * `reorder`: the order of the schemas does not matter, unless two have the same shape.
-/
import ApiTypes.Proofs.Agreement
import ApiTypes.Proofs.SchemaTypes

namespace ApiTypes

open Json (Value)

variable {document : Value} {schemas schemas' : List (String × Value)} {reference : String}

/-! ## Component schemas -/

/-- A document with these component schemas, and with everything else as it is. -/
def withSchemas (document : Value) (schemas : List (String × Value)) : Value :=
  match document with
  | .obj fields =>
    let others := (Document.orEmpty (Entries.get? fields "components")).fields?.getD []
    .obj (Entries.set fields "components" (.obj (Entries.set others "schemas" (.obj schemas))))
  | _ => document

theorem exists_of_components {kind : ComponentKind} (h : components document kind = .ok schemas) :
    ∃ fields others, document = .obj fields ∧
      Document.orEmpty (Entries.get? fields "components") = .obj others := by
  obtain ⟨found, hfound, h⟩ := Steps.bind_eq_ok.1 h
  cases document with
  | obj fields =>
    obtain rfl := Except.ok.inj hfound
    obtain ⟨entries, hentries, -⟩ := Steps.bind_eq_ok.1 h
    cases ho : Document.orEmpty (Entries.get? fields "components") with
    | obj others => exact ⟨fields, others, rfl, ho⟩
    | _ =>
      rw [ho] at hentries
      cases hentries
  | _ => cases hfound

/-- The components are the new schemas, and else those of the document. -/
theorem components_withSchemas (h : components document .schemas = .ok schemas)
    (schemas' : List (String × Value)) (kind : ComponentKind) :
    components (withSchemas document schemas') kind =
      if kind = .schemas then .ok schemas' else components document kind := by
  obtain ⟨fields, others, rfl, hothers⟩ := exists_of_components h
  have hnew : components (withSchemas (.obj fields) schemas') kind =
      Document.fields (Document.orEmpty
        (Entries.get? (Entries.set others "schemas" (.obj schemas')) kind.key)) := by
    rw [withSchemas, hothers, components, Document.get, Entries.get?_set_self]
    simp only [Value.fields?, Option.getD_some]
    change Document.getFields (Document.orEmpty _) kind.key = _
    rw [orEmpty_obj]
    rfl
  have hold : components (.obj fields) kind =
      Document.fields (Document.orEmpty (Entries.get? others kind.key)) := by
    rw [components, Document.get]
    change Document.getFields (Document.orEmpty _) kind.key = _
    rw [hothers]
    rfl
  rw [hnew, hold]
  split
  · next hkind =>
    subst hkind
    rw [ComponentKind.key, Entries.get?_set_self, orEmpty_obj]
    rfl
  · next hkind =>
    have hne : "schemas" ≠ kind.key := by cases kind <;> simp_all [ComponentKind.key]
    rw [Entries.get?_set_of_ne hne]

/-- The operations stay as they are. -/
theorem operations_withSchemas (document : Value) (schemas : List (String × Value)) :
    operations (withSchemas document schemas) = operations document := by
  have hpaths : Document.get (withSchemas document schemas) "paths" =
      Document.get document "paths" := by
    cases document with
    | obj fields => exact congrArg Except.ok (Entries.get?_set_of_ne (by decide))
    | _ => rfl
  rw [operations, operations, Document.getFields, Document.getFields, hpaths]

/-- A reference leads to the same if the same is found under the key that it names. -/
theorem resolve_withSchemas (h : components document .schemas = .ok schemas)
    (hget : ∀ pointer, Pointer.ofText? reference = some pointer → pointer.kind = .schemas →
      Entries.get? schemas' pointer.key = Entries.get? schemas pointer.key) :
    resolve (withSchemas document schemas') reference = resolve document reference := by
  unfold resolve
  split
  · rfl
  · next pointer hpointer =>
    rw [components_withSchemas h]
    split
    · next hkind =>
      rw [hkind, h, Steps.ok_bind, Steps.ok_bind, hget pointer hpointer hkind]
    · rfl

/-! ## Shapes -/

namespace ShapeTable

theorem find?_add (table : ShapeTable) (name : String) (schema : Value) (shape : NameSet) :
    (table.add name schema).find? shape =
      (table.find? shape).or (if shape? schema = some shape then some name else none) := by
  unfold add
  cases hschema : shape? schema with
  | none => simp
  | some own =>
    by_cases hown : own = shape
    · subst hown
      dsimp only
      rw [if_pos rfl]
      cases hfound : table.find? own with
      | some other => rw [Option.isSome_some, if_pos rfl, hfound, Option.some_or]
      | none =>
        have hnone : table.rows.find? (·.1 = own) = none := Option.map_eq_none_iff.1 hfound
        rw [Option.isSome_none, if_neg Bool.false_ne_true, find?, List.find?_append, hnone]
        simp
    · have hne : some own ≠ some shape := fun heq => hown (Option.some.inj heq)
      rw [if_neg hne, Option.or_none]
      dsimp only
      split
      · rfl
      · rw [find?, find?, List.find?_append]
        simp [hown]

/-- A shape has the name of the first schema of that shape. -/
theorem find?_ofSchemas (schemas : List (String × Value)) (shape : NameSet) :
    (ofSchemas schemas).find? shape =
      (schemas.find? fun e => shape? e.2 = some shape).map (·.1) := by
  have hall (table : ShapeTable) :
      (schemas.foldl (fun table e => table.add e.1 e.2) table).find? shape =
        (table.find? shape).or ((schemas.find? fun e => shape? e.2 = some shape).map (·.1)) := by
    induction schemas generalizing table with
    | nil => exact (Option.or_none).symm
    | cons e rest ih =>
      rw [List.foldl_cons, ih, find?_add, Option.or_assoc]
      by_cases he : shape? e.2 = some shape
      · rw [if_pos he, List.find?_cons_of_pos (by simpa using he)]
        rfl
      · rw [if_neg he, List.find?_cons_of_neg (by simpa using he), Option.none_or]
  exact hall ⟨[]⟩

end ShapeTable

/-! ## Generations -/

namespace Generation

variable {skip : Value} {g : Generation}

/-- **Other schemas.**  If the same is found under the keys and for the shapes that matter,
    schemas are declared alike, and the same endpoints are generated with other schemas. -/
theorem ofDocument_withSchemas_iff (h : ofDocument document skip = .ok g)
    (hschemas : components document .schemas = .ok schemas)
    (hget : ∀ reference ∈ references document, ∀ pointer,
      Pointer.ofText? reference = some pointer → pointer.kind = .schemas →
      Entries.get? schemas' pointer.key = Entries.get? schemas pointer.key)
    (hshapes : ∀ shape, (ShapeTable.ofSchemas schemas').find? shape =
      (ShapeTable.ofSchemas schemas).find? shape) :
    ∃ (scope scope' : Scope) (made : List Declaration),
      scope'.document = withSchemas document schemas' ∧
      (∀ e ∈ schemas, declareSchema scope' e.1 e.2 = declareSchema scope e.1 e.2 ∧
        declareSchema scope e.1 e.2 ≠ .error .malformed) ∧
      g.declarations = made.foldl (fun written d =>
        Entries.set written (endpointMark ++ d.name) d) (declaredSchemas scope schemas) ∧
      g.errors = failedSchemas scope schemas ∧
      ∀ g', ofDocument (withSchemas document schemas') skip = .ok g' ↔
        (∀ e ∈ schemas', declareSchema scope' e.1 e.2 ≠ .error .malformed) ∧
        g'.declarations = made.foldl (fun written d =>
          Entries.set written (endpointMark ++ d.name) d) (declaredSchemas scope' schemas') ∧
        g'.endpoints = g.endpoints ∧ g'.urlTree = g.urlTree ∧
        g'.errors = failedSchemas scope' schemas' := by
  obtain ⟨scope, old, hscope, hold, hne, hendpoints, ⟨made, hmade, hdeclarations⟩, hurls,
    herrors⟩ := ofDocument_eq_ok_iff.1 h
  obtain rfl := Except.ok.inj (hschemas.symm.trans hold)
  have hnew : components (withSchemas document schemas') .schemas = .ok schemas' := by
    rw [components_withSchemas hschemas, if_pos rfl]
  have hscope' : Scope.ofDocument (withSchemas document schemas') =
      .ok ⟨withSchemas document schemas', .ofSchemas schemas'⟩ :=
    Steps.bind_eq_ok.2 ⟨schemas', hnew, rfl⟩
  obtain rfl : ⟨document, .ofSchemas schemas⟩ = scope := by
    obtain ⟨found, hfound, hscope⟩ := Steps.bind_eq_ok.1 hscope
    obtain rfl := Except.ok.inj (hschemas.symm.trans hfound)
    exact Except.ok.inj hscope
  have hagrees : Scope.Agrees ⟨document, .ofSchemas schemas⟩
      ⟨withSchemas document schemas', .ofSchemas schemas'⟩ :=
    ⟨fun reference href => resolve_withSchemas hschemas (hget reference href), hshapes⟩
  have hsame : endpointsOf ⟨withSchemas document schemas', .ofSchemas schemas'⟩ skip =
      .ok g.endpoints :=
    (hagrees.endpointsOf (operations_withSchemas document schemas') skip).trans hendpoints
  refine ⟨⟨document, .ofSchemas schemas⟩, ⟨withSchemas document schemas', .ofSchemas schemas'⟩,
    made, rfl, fun e he => ⟨?_, hne e he⟩, hdeclarations, herrors, fun g' => ?_⟩
  · exact hagrees.declareSchema e.1 (inside_of_mem_components hschemas he)
  rw [ofDocument_eq_ok_iff]
  constructor
  · rintro ⟨scope', new, hscope'', hnew', hne', hendpoints', ⟨made', hmade', hdeclarations'⟩,
      hurls', herrors'⟩
    obtain rfl := Except.ok.inj (hnew.symm.trans hnew')
    obtain rfl := Except.ok.inj (hscope'.symm.trans hscope'')
    have hendpoints' := Except.ok.inj (hendpoints'.symm.trans hsame)
    rw [hendpoints'] at hmade' hurls'
    obtain rfl := Except.ok.inj (hmade.symm.trans hmade')
    exact ⟨hne', hdeclarations', hendpoints', hurls'.trans hurls.symm, herrors'⟩
  · rintro ⟨hne', hdeclarations', hendpoints', hurls', herrors'⟩
    refine ⟨_, schemas', hscope', hnew, hne', ?_, ⟨made, ?_, hdeclarations'⟩, ?_, herrors'⟩
    · rw [hendpoints', hsame]
    · rw [hendpoints', hmade]
    · rw [hendpoints', hurls', hurls]

/-! ## One schema more -/

theorem declared?_congr {scope scope' : Scope} {e : String × Value}
    (h : declareSchema scope' e.1 e.2 = declareSchema scope e.1 e.2) :
    declared? scope' e = declared? scope e := by
  rw [declared?, declared?, h]

theorem failed?_congr {scope scope' : Scope} {e : String × Value}
    (h : declareSchema scope' e.1 e.2 = declareSchema scope e.1 e.2) :
    failed? scope' e = failed? scope e := by
  rw [failed?, failed?, h]

/-- A schema fails to be declared if nothing stands behind it. -/
theorem declareSchema_of_resolveSchema {scope : Scope} {schema : Value} {cause : Failure}
    (h : resolveSchema scope.document schema = .error cause) (name : String) :
    declareSchema scope name schema = .error cause :=
  Steps.bind_eq_error.2 (Or.inl (Outcome.bind_result_eq_error.2 (Or.inl h)))

/-- A dangling reference is reported as such if its lookup comes to an end. -/
theorem resolveSchema_dangling {schema : Value} {found : Option Value}
    (href : reference? schema = some reference) (hdangling : Dangling document reference)
    (hfound : resolve document reference = .ok found) :
    resolveSchema document schema = .error (.unresolved reference) := by
  unfold resolveSchema require
  rw [href]
  dsimp only
  rw [hfound]
  cases found with
  | none => rfl
  | some target =>
    obtain ⟨fields, rfl, hdenotes⟩ := resolve_eq_some_iff.1 hfound
    have htype : (Value.field? (.obj fields) "type").isSome = false := hdangling fields hdenotes
    simp only [Steps.ok_bind, pure, Except.pure, htype]
    rfl

/-- A lookup that comes to no end ends the declaration of the schema. -/
theorem resolveSchema_malformed {schema : Value} (href : reference? schema = some reference)
    (hfound : ¬ ∃ found, resolve document reference = .ok found) :
    resolveSchema document schema = .error .malformed := by
  cases hresolve : resolve document reference with
  | ok found => exact absurd ⟨found, hresolve⟩ hfound
  | error cause =>
    obtain rfl := eq_malformed_of_resolve hresolve
    unfold resolveSchema require
    rw [href]
    dsimp only
    rw [hresolve]
    rfl

/-- A reference can be looked up if the components of the kind that it names can be. -/
theorem exists_resolve_iff : (∃ found, resolve document reference = .ok found) ↔
    ∀ pointer, Pointer.ofText? reference = some pointer →
      ∃ entries, components document pointer.kind = .ok entries := by
  constructor
  · rintro ⟨found, h⟩ pointer hpointer
    rw [resolve, hpointer] at h
    obtain ⟨entries, hentries, -⟩ := Steps.bind_eq_ok.1 h
    exact ⟨entries, hentries⟩
  · intro h
    unfold resolve
    split
    · exact ⟨none, rfl⟩
    · next pointer hpointer =>
      obtain ⟨entries, hentries⟩ := h pointer hpointer
      rw [hentries, Steps.ok_bind]
      split <;> exact ⟨_, rfl⟩

theorem exists_resolve_withSchemas_iff (h : components document .schemas = .ok schemas)
    (schemas' : List (String × Value)) :
    (∃ found, resolve (withSchemas document schemas') reference = .ok found) ↔
      ∀ pointer, Pointer.ofText? reference = some pointer →
        ∃ entries, components document pointer.kind = .ok entries := by
  rw [exists_resolve_iff]
  refine forall₂_congr fun pointer _ => ?_
  rw [components_withSchemas h]
  split
  · next hkind =>
    rw [hkind, h]
    exact iff_of_true ⟨_, rfl⟩ ⟨_, rfl⟩
  · exact Iff.rfl

section

variable {scope scope' : Scope} {before after : List (String × Value)} {name : String}
  {schema : Value}

theorem shape?_of_reference (href : reference? schema = some reference) :
    shape? schema = none := by
  unfold shape?
  rw [href]
  split
  · next h => cases h
  · rfl

/-- A reference gives no name to a shape, wherever it stands. -/
theorem find?_insert_reference (href : reference? schema = some reference) (shape : NameSet) :
    (ShapeTable.ofSchemas (before ++ (name, schema) :: after)).find? shape =
      (ShapeTable.ofSchemas (before ++ after)).find? shape := by
  rw [ShapeTable.find?_ofSchemas, ShapeTable.find?_ofSchemas, List.find?_append,
    List.find?_append, List.find?_cons_of_neg]
  simp [shape?_of_reference href]

/-- A schema that cannot be declared adds nothing to what is declared. -/
theorem declaredSchemas_insert {cause : Failure}
    (hfails : declareSchema scope' name schema = .error cause)
    (hsame : ∀ e ∈ before ++ after, declareSchema scope' e.1 e.2 = declareSchema scope e.1 e.2) :
    declaredSchemas scope' (before ++ (name, schema) :: after) =
      declaredSchemas scope (before ++ after) := by
  have hnone : declared? scope' (name, schema) = none := by
    rw [declared?, hfails]
    rfl
  have hothers : (before ++ after).filterMap (declared? scope') =
      (before ++ after).filterMap (declared? scope) :=
    List.filterMap_congr fun e he => declared?_congr (hsame e he)
  rw [declaredSchemas, declaredSchemas, List.filterMap_append, List.filterMap_cons_none hnone,
    ← List.filterMap_append, hothers]

/-- It is reported in its place. -/
theorem failedSchemas_insert {cause : Failure}
    (hfails : declareSchema scope' name schema = .error cause)
    (hsame : ∀ e ∈ before ++ after, declareSchema scope' e.1 e.2 = declareSchema scope e.1 e.2)
    (hnodup : (Entries.keys (before ++ after)).Nodup)
    (hnew : name ∉ Entries.keys (before ++ after)) :
    failedSchemas scope' (before ++ (name, schema) :: after) =
      before.filterMap (failed? scope) ++ (name, cause) :: after.filterMap (failed? scope) := by
  have hsome : failed? scope' (name, schema) = some (name, cause) := by rw [failed?, hfails]
  have hnodup' : (Entries.keys (before ++ (name, schema) :: after)).Nodup :=
    (List.perm_middle.map _).nodup_iff.2 (List.nodup_cons.2 ⟨hnew, hnodup⟩)
  obtain ⟨hbefore, hafter⟩ := List.forall_mem_append.1 hsame
  rw [failedSchemas_eq hnodup', List.filterMap_append, List.filterMap_cons_some hsome,
    List.filterMap_congr fun e he => failed?_congr (hbefore e he),
    List.filterMap_congr fun e he => failed?_congr (hafter e he)]

end

/-- **One dangling reference more.**  A reference that is dangling, under a new name to which no
    reference of the document leads, is put among the schemas.  Everything is generated as
    before, with the reference reported in its place among the errors, if and only if the
    components of the kind that it names can be looked up; otherwise nothing is. -/
theorem insert_dangling_iff (before after : List (String × Value)) (name : String)
    {schema : Value} (h : ofDocument document skip = .ok g)
    (hschemas : components document .schemas = .ok (before ++ after))
    (hnodup : (Entries.keys (before ++ after)).Nodup)
    (hnew : name ∉ Entries.keys (before ++ after))
    (hunused : ∀ reference ∈ references document, ∀ pointer,
      Pointer.ofText? reference = some pointer → pointer.kind = .schemas → pointer.key ≠ name)
    (href : reference? schema = some reference)
    (hdangling : Dangling (withSchemas document (before ++ (name, schema) :: after)) reference) :
    ∃ first last, g.errors = first ++ last ∧
      (Entries.keys first).Sublist (Entries.keys before) ∧
      (Entries.keys last).Sublist (Entries.keys after) ∧
      ∀ g', ofDocument (withSchemas document (before ++ (name, schema) :: after)) skip = .ok g' ↔
        (∀ pointer, Pointer.ofText? reference = some pointer →
          ∃ entries, components document pointer.kind = .ok entries) ∧
        g'.declarations = g.declarations ∧ g'.endpoints = g.endpoints ∧
        g'.urlTree = g.urlTree ∧ g'.errors = first ++ (name, .unresolved reference) :: last := by
  have hget : ∀ reference ∈ references document, ∀ pointer,
      Pointer.ofText? reference = some pointer → pointer.kind = .schemas →
      Entries.get? (before ++ (name, schema) :: after) pointer.key =
        Entries.get? (before ++ after) pointer.key := by
    intro reference hmem pointer hpointer hkind
    rw [Entries.get?_append, Entries.get?_append, Entries.get?,
      if_neg (hunused reference hmem pointer hpointer hkind).symm]
  obtain ⟨scope, scope', made, hdocument, hothers, hdeclarations, herrors, hiff⟩ :=
    ofDocument_withSchemas_iff h hschemas hget (find?_insert_reference href)
  have hsame : ∀ e ∈ before ++ after,
      declareSchema scope' e.1 e.2 = declareSchema scope e.1 e.2 := fun e he => (hothers e he).1
  refine ⟨before.filterMap (failed? scope), after.filterMap (failed? scope), ?_, ?_, ?_, ?_⟩
  · rw [herrors, failedSchemas_eq hnodup, List.filterMap_append]
  · exact Entries.keys_filterMap_sublist fun _ _ => fst_of_failed?
  · exact Entries.keys_filterMap_sublist fun _ _ => fst_of_failed?
  rw [← hdocument] at hdangling
  have hreported (hfound : ∃ found, resolve scope'.document reference = .ok found) :
      declareSchema scope' name schema = .error (.unresolved reference) := by
    obtain ⟨found, hfound⟩ := hfound
    exact declareSchema_of_resolveSchema (resolveSchema_dangling href hdangling hfound) name
  intro g'
  rw [hiff, ← exists_resolve_withSchemas_iff hschemas (before ++ (name, schema) :: after),
    ← hdocument]
  constructor
  · rintro ⟨hne, hdeclarations', hendpoints', hurls', herrors'⟩
    have hfound : ∃ found, resolve scope'.document reference = .ok found := by
      by_contra hfound
      refine hne (name, schema) (by simp) ?_
      exact declareSchema_of_resolveSchema (resolveSchema_malformed href hfound) name
    rw [declaredSchemas_insert (hreported hfound) hsame, ← hdeclarations] at hdeclarations'
    rw [failedSchemas_insert (hreported hfound) hsame hnodup hnew] at herrors'
    exact ⟨hfound, hdeclarations', hendpoints', hurls', herrors'⟩
  · rintro ⟨hfound, hdeclarations', hendpoints', hurls', herrors'⟩
    rw [declaredSchemas_insert (hreported hfound) hsame,
      failedSchemas_insert (hreported hfound) hsame hnodup hnew, ← hdeclarations]
    refine ⟨fun e he => ?_, hdeclarations', hendpoints', hurls', herrors'⟩
    rcases List.mem_cons.1 (List.perm_middle.mem_iff.1 he) with rfl | he
    · rw [hreported hfound]
      rintro ⟨⟩
    · rw [hsame e he]
      exact (hothers e he).2

/-- A schema and a reference to it. -/
def soundSchemas : List (String × Value) :=
  [("Account", Output.referenceTo "User")] ++ [("User", Output.userSchema)]

/-- The document of these schemas. -/
def soundDocument : Value := .obj [("components", .obj [("schemas", .obj soundSchemas)])]

/-- The scope of the document. -/
def soundScope : Scope := ⟨soundDocument, ⟨[]⟩⟩

theorem exists_generation_sound :
    ∃ g, ofDocument soundDocument (.int 0) = .ok g ∧ g.errors = [] := by
  have hscope : Scope.ofDocument soundDocument = .ok soundScope := by cbv
  have hcomponents (kind : ComponentKind) :
      ∃ entries, components soundScope.document kind = .ok entries := by
    cases kind <;> exact ⟨_, by cbv⟩
  have hdeclared (e : String × Value) (he : e ∈ soundSchemas) :
      ∃ d, declareSchema soundScope e.1 e.2 = .ok d := by
    have htype (name : String) :
        (soundScope.typeOf [name] Output.userSchema).result = .ok (.keyword .string) := by cbv
    have haccount : resolveSchema soundDocument (Output.referenceTo "User") =
        .ok Output.userSchema := by cbv
    simp only [soundSchemas, List.singleton_append, List.mem_cons, List.not_mem_nil, or_false] at he
    rcases he with rfl | rfl
    · exact exists_declareSchema_of_type hcomponents haccount (htype _) rfl
    · have huser : resolveSchema soundDocument Output.userSchema = .ok Output.userSchema := rfl
      exact exists_declareSchema_of_type hcomponents huser (htype _) rfl
  refine ⟨⟨_, [], [], _⟩, ofDocument_eq_ok_iff.2
    ⟨soundScope, soundSchemas, hscope, rfl, fun e he => ?_, rfl, ⟨[], rfl, rfl⟩, rfl, rfl⟩, ?_⟩
  · obtain ⟨d, hd⟩ := hdeclared e he
    rw [hd]
    rintro ⟨⟩
  · have hnone : soundSchemas.filterMap (failed? soundScope) = [] := by
      refine List.filterMap_eq_nil_iff.2 fun e he => ?_
      obtain ⟨d, hd⟩ := hdeclared e he
      rw [failed?, hd]
    exact congrArg Entries.ofList hnone

/-- A reference to none, between the two schemas, is reported and changes nothing else. -/
theorem insert_dangling_iff_sound : ∃ g g', ofDocument soundDocument (.int 0) = .ok g ∧
    withSchemas soundDocument aliasSchemas = aliasDocument ∧
    ofDocument aliasDocument (.int 0) = .ok g' ∧ g'.declarations = g.declarations ∧
    g'.endpoints = g.endpoints ∧ g'.urlTree = g.urlTree ∧
    g'.errors = [("Broken", .unresolved "#/components/schemas/Missing")] := by
  obtain ⟨g, hgen, hnone⟩ := exists_generation_sound
  have hreferences : references soundDocument = ["#/components/schemas/User"] := by cbv
  have huser : Pointer.ofText? "#/components/schemas/User" = some ⟨.schemas, ["User"]⟩ := by cbv
  have hmissing : Pointer.ofText? "#/components/schemas/Missing" =
      some ⟨.schemas, ["Missing"]⟩ := by cbv
  have hunused : ∀ reference ∈ references soundDocument, ∀ pointer,
      Pointer.ofText? reference = some pointer → pointer.kind = .schemas →
      pointer.key ≠ "Broken" := by
    intro reference hmem pointer hpointer _
    rw [hreferences, List.mem_singleton] at hmem
    rw [hmem, huser] at hpointer
    obtain rfl := Option.some.inj hpointer
    decide
  have hdangling : Dangling (withSchemas soundDocument aliasSchemas)
      "#/components/schemas/Missing" := dangling_of_resolve_eq_none (by cbv)
  obtain ⟨first, last, herrors, -, -, hiff⟩ :=
    insert_dangling_iff [("Account", Output.referenceTo "User")] [("User", Output.userSchema)]
      "Broken" hgen rfl (by decide) (by decide) hunused rfl hdangling
  obtain ⟨rfl, rfl⟩ := List.append_eq_nil_iff.1 (hnone ▸ herrors).symm
  refine ⟨g, ⟨g.declarations, g.endpoints, g.urlTree,
      [("Broken", .unresolved "#/components/schemas/Missing")]⟩, hgen, rfl,
    (hiff _).2 ⟨?_, rfl, rfl, rfl, rfl⟩, rfl, rfl, rfl, rfl⟩
  intro pointer hpointer
  obtain rfl := Option.some.inj (hmissing.symm.trans hpointer)
  exact ⟨soundSchemas, rfl⟩

/-- A document whose parameters are a list. -/
def listedDocument : Value :=
  .obj [("components", .obj [("schemas", .obj []), ("parameters", .arr [.int 1])])]

/-- A reference to one of them. -/
def listedReference : Value := .obj [("$ref", .str "#/components/parameters/x")]

/-- A dangling reference does not always leave everything else as it is: where its lookup
    fails, nothing is generated for the whole document. -/
theorem insert_dangling_listed : ∃ g, ofDocument listedDocument (.int 0) = .ok g ∧
    components listedDocument .schemas = .ok [] ∧ references listedDocument = [] ∧
    Dangling (withSchemas listedDocument [("A", listedReference)]) "#/components/parameters/x" ∧
    ofDocument (withSchemas listedDocument [("A", listedReference)]) (.int 0) =
      .error .malformed := by
  have hpointer : Pointer.ofText? "#/components/parameters/x" = some ⟨.parameters, ["x"]⟩ := by cbv
  refine ⟨⟨[], [], [], []⟩, rfl, rfl, by cbv, ?_, ?_⟩
  · rintro fields ⟨pointer, entries, hpointer', hentries, -⟩
    obtain rfl := Option.some.inj (hpointer.symm.trans hpointer')
    cases hentries
  · cbv

/-! ## Another order -/

/-- The names of the properties of a schema, if it has any. -/
def propertyNames (schema : Value) : List String :=
  ((schema.field? "properties").bind Value.fields?).elim [] Entries.keys

/-- No two schemas that are no references have the same names of properties, and any. -/
def ShapesDiffer (schemas : List (String × Value)) : Prop :=
  schemas.Pairwise fun e e' => reference? e.2 = none → reference? e'.2 = none →
    propertyNames e.2 ≠ [] → ¬ ∀ name, name ∈ propertyNames e.2 ↔ name ∈ propertyNames e'.2

theorem shape?_eq_some_iff {schema : Value} {shape : NameSet} :
    shape? schema = some shape ↔ reference? schema = none ∧ propertyNames schema ≠ [] ∧
      ∀ name, name ∈ shape ↔ name ∈ propertyNames schema := by
  cases schema with
  | obj fields =>
    unfold shape? propertyNames Value.field?
    cases href : reference? (.obj fields) with
    | some reference => simp
    | none =>
      cases hget : Entries.get? fields "properties" with
      | none => simp [hget]
      | some v =>
        cases v with
        | obj properties =>
          cases properties with
          | nil => simp [hget, Value.fields?, Entries.keys]
          | cons property rest =>
            have hext : NameSet.ofList ((property :: rest).map (·.1)) = shape ↔
                ∀ name, name ∈ shape ↔ name ∈ (property :: rest).map (·.1) := by
              refine ⟨?_, fun h => NameSet.ext fun name => NameSet.mem_ofList.trans (h name).symm⟩
              rintro rfl name
              exact NameSet.mem_ofList
            simpa [hget, Value.fields?, Entries.keys] using hext
        | _ => simp [hget, Value.fields?]
  | _ => simp [shape?, propertyNames, Value.field?]

/-- At most one schema has a shape. -/
theorem find?_shape_perm (hshapes : ShapesDiffer schemas) (hperm : schemas.Perm schemas')
    (shape : NameSet) :
    (ShapeTable.ofSchemas schemas').find? shape = (ShapeTable.ofSchemas schemas).find? shape := by
  have hfilter := hperm.filter fun e => decide (shape? e.2 = some shape)
  have hdiffer := List.Pairwise.filter (fun e => decide (shape? e.2 = some shape)) hshapes
  have hhas : ∀ e ∈ schemas.filter fun e => decide (shape? e.2 = some shape),
      shape? e.2 = some shape := fun e he => of_decide_eq_true (List.mem_filter.1 he).2
  rw [ShapeTable.find?_ofSchemas, ShapeTable.find?_ofSchemas, ← List.head?_filter,
    ← List.head?_filter]
  generalize schemas.filter (fun e => decide (shape? e.2 = some shape)) = found at *
  match found with
  | [] => rw [List.nil_perm.1 hfilter]
  | [e] => rw [List.singleton_perm.1 hfilter]
  | e :: e' :: rest =>
    obtain ⟨href, hne, hnames⟩ := shape?_eq_some_iff.1 (hhas e (by simp))
    obtain ⟨href', -, hnames'⟩ := shape?_eq_some_iff.1 (hhas e' (by simp))
    have hboth := (List.pairwise_cons.1 hdiffer).1 e' List.mem_cons_self
    exact absurd (fun name => (hnames name).symm.trans (hnames' name)) (hboth href href' hne)

/-- **Another order.**  If the shapes of the schemas differ, their order in the document does
    not matter: what is declared and reported under each key is the same, and so are the
    endpoints and their URLs. -/
theorem reorder (h : ofDocument document skip = .ok g)
    (hschemas : components document .schemas = .ok schemas)
    (hnodup : (Entries.keys schemas).Nodup) (hshapes : ShapesDiffer schemas)
    (hperm : schemas.Perm schemas') :
    ∃ g', ofDocument (withSchemas document schemas') skip = .ok g' ∧
      (∀ key, Entries.get? g'.declarations key = Entries.get? g.declarations key) ∧
      g'.endpoints = g.endpoints ∧ g'.urlTree = g.urlTree ∧
      ∀ key, Entries.get? g'.errors key = Entries.get? g.errors key := by
  have hnodup' : (Entries.keys schemas').Nodup := (hperm.map _).nodup_iff.1 hnodup
  obtain ⟨scope, scope', made, -, hsame, hdeclarations, herrors, hiff⟩ :=
    ofDocument_withSchemas_iff h hschemas
      (fun _ _ pointer _ _ => Entries.get?_perm hnodup hperm pointer.key)
      (find?_shape_perm hshapes hperm)
  have hall : ∀ e ∈ schemas', declareSchema scope' e.1 e.2 = declareSchema scope e.1 e.2 ∧
      declareSchema scope e.1 e.2 ≠ .error .malformed :=
    fun e he => hsame e (hperm.mem_iff.2 he)
  have hdeclared (key : String) : Entries.get? (declaredSchemas scope' schemas') key =
      Entries.get? (declaredSchemas scope schemas) key := by
    have hkeys := (Entries.keys_filterMap_sublist (f := declared? scope)
      fun _ _ => fst_of_declared?).nodup hnodup
    rw [declaredSchemas_eq hnodup', declaredSchemas_eq hnodup,
      List.filterMap_congr fun e he => declared?_congr (hall e he).1]
    exact Entries.get?_perm hkeys (hperm.filterMap _) key
  have hfailed (key : String) : Entries.get? (failedSchemas scope' schemas') key =
      Entries.get? (failedSchemas scope schemas) key := by
    have hkeys := (Entries.keys_filterMap_sublist (f := failed? scope)
      fun _ _ => fst_of_failed?).nodup hnodup
    rw [failedSchemas_eq hnodup', failedSchemas_eq hnodup,
      List.filterMap_congr fun e he => failed?_congr (hall e he).1]
    exact Entries.get?_perm hkeys (hperm.filterMap _) key
  refine ⟨⟨_, g.endpoints, g.urlTree, _⟩, (hiff _).2 ⟨fun e he => ?_, rfl, rfl, rfl, rfl⟩,
    fun key => ?_, rfl, rfl, fun key => ?_⟩
  · rw [(hall e he).1]
    exact (hall e he).2
  · rw [hdeclarations]
    exact Entries.get?_foldl_set_congr hdeclared key
  · rw [herrors]
    exact hfailed key

/-- An object with one property. -/
def objectWith (key : String) (schema : Value) : Value :=
  .obj [("type", .str "object"), ("properties", .obj [(key, schema)])]

/-- Such an object has a type if its property has one. -/
theorem succeeds_objectWith {scope : Scope} {visiting : List String} {schema : Value} (key : String)
    (h : (scope.typeOf visiting schema).Succeeds) :
    (scope.typeOf visiting (objectWith key schema)).Succeeds := by
  have hform : HasForm [("type", .str "object"), ("properties", .obj [(key, schema)])]
      .object := ⟨rfl, rfl, rfl, rfl⟩
  rw [objectWith, Scope.succeeds_typeOf_obj_iff rfl, Scope.typeOfFields_object hform,
    Scope.succeeds_object_iff]
  refine ⟨fun property rest hget => ⟨⟨[], rfl⟩, fun p hp => ?_⟩, nofun⟩
  obtain ⟨rfl, rfl⟩ := List.cons.inj (Value.obj.inj (Option.some.inj hget))
  obtain rfl := List.mem_singleton.1 hp
  exact Scope.succeeds_propertyType_iff.2 fun _ _ => h

/-- Points, and circles whose centers have the shape of points. -/
def circleSchemas : List (String × Value) :=
  [("Point", objectWith "x" Output.userSchema),
    ("Circle", objectWith "center" (objectWith "x" Output.userSchema))]

/-- The document of these schemas. -/
def circleDocument : Value := .obj [("components", .obj [("schemas", .obj circleSchemas)])]

/-- The scope of the document. -/
def centeredScope : Scope :=
  ⟨circleDocument, ⟨[(.ofList ["x"], "Point"), (.ofList ["center"], "Circle")]⟩⟩

theorem exists_generation_circles : ∃ g, ofDocument circleDocument (.int 0) = .ok g := by
  have hscope : Scope.ofDocument circleDocument = .ok centeredScope := rfl
  have hcomponents (kind : ComponentKind) :
      ∃ entries, components centeredScope.document kind = .ok entries := by
    cases kind <;> exact ⟨_, by cbv⟩
  have hdeclared (name key : String) (schema : Value)
      (htype : (centeredScope.typeOf [name] schema).Succeeds) :
      declareSchema centeredScope name (objectWith key schema) ≠ .error .malformed := by
    have hself : resolveSchema circleDocument (objectWith key schema) =
        .ok (objectWith key schema) := rfl
    obtain ⟨t, ht⟩ := succeeds_objectWith key htype
    obtain ⟨d, hd⟩ := exists_declareSchema_of_type hcomponents hself ht rfl
    rw [hd]
    rintro ⟨⟩
  have htext (name : String) : (centeredScope.typeOf [name] Output.userSchema).Succeeds :=
    ⟨.keyword .string, by cbv⟩
  refine ⟨⟨_, [], [], _⟩, ofDocument_eq_ok_iff.2
    ⟨centeredScope, circleSchemas, hscope, rfl, fun e he => ?_, rfl, ⟨[], rfl, rfl⟩, rfl, rfl⟩⟩
  simp only [circleSchemas, List.mem_cons, List.not_mem_nil, or_false] at he
  rcases he with rfl | rfl
  · exact hdeclared _ _ _ (htext _)
  · exact hdeclared _ _ _ (succeeds_objectWith "x" (htext _))

/-- Circles can come before points. -/
theorem reorder_circles : ∃ g g', ofDocument circleDocument (.int 0) = .ok g ∧
    components circleDocument .schemas = .ok circleSchemas ∧
    (Entries.keys circleSchemas).Nodup ∧ ShapesDiffer circleSchemas ∧
    circleSchemas.Perm circleSchemas.reverse ∧
    ofDocument (withSchemas circleDocument circleSchemas.reverse) (.int 0) = .ok g' ∧
    Entries.get? g'.declarations "Circle" = Entries.get? g.declarations "Circle" := by
  obtain ⟨g, hgen⟩ := exists_generation_circles
  have hnodup : (Entries.keys circleSchemas).Nodup := by decide
  have hdiffer : ShapesDiffer circleSchemas := by
    have hpoint : propertyNames (objectWith "x" Output.userSchema) = ["x"] := rfl
    have hcircle : propertyNames (objectWith "center" (objectWith "x" Output.userSchema)) =
        ["center"] := rfl
    have hne : ¬ ∀ name, name ∈ ["x"] ↔ name ∈ ["center"] := fun h =>
      absurd ((h "x").1 List.mem_cons_self) (by decide)
    refine List.pairwise_pair.2 fun _ _ _ => ?_
    rw [hpoint, hcircle]
    exact hne
  have hperm : circleSchemas.Perm circleSchemas.reverse := (List.reverse_perm _).symm
  obtain ⟨g', hgen', hall, -⟩ := reorder hgen rfl hnodup hdiffer hperm
  exact ⟨g, g', hgen, rfl, hnodup, hdiffer, hperm, hgen', hall "Circle"⟩

end Generation

end ApiTypes
