/-
  Schemas that are references.

  A component schema that is a reference is declared as what the entry behind it says, one
  step away, if that is an object with a type.  Otherwise the reference is dangling, and
  the schema is reported; nothing else is.

  * `Denotes`: a reference names an entry of the components, by one of its two spellings;
    `Dangling`: it names none that says its type;
  * `resolveSchema_eq_ok_iff`, `eq_malformed_or_of_resolveSchema`: what stands behind a
    schema, and why nothing does;
  * `Outcome.OnlyMalformed`: making a type fails only where something is malformed
    (`typeOf_onlyMalformed`), so that a dangling reference is the only cause that is
    reported (`eq_malformed_or_of_declareSchema`);
  * `declared_or_reported`: each component schema is declared or reported.
-/
import ApiTypes.Proofs.KeySpaces

namespace ApiTypes

open Generation (eq_malformed_of_resolve eq_malformed_of_dependencies)
open Json (Value)

/-! ## Targets -/

/-- A reference names an entry of the components, with these members. -/
def Denotes (document : Value) (reference : String) (fields : List (String × Value)) : Prop :=
  ∃ pointer entries, Pointer.ofText? reference = some pointer ∧
    components document pointer.kind = .ok entries ∧
    Entries.get? entries pointer.key = some (.obj fields)

/-- A reference names no entry, or none that is an object and says its type. -/
def Dangling (document : Value) (reference : String) : Prop :=
  ∀ fields, Denotes document reference fields → Entries.has fields "type" = false

/-- What a schema stands for: itself, or what it refers to if that says its type. -/
inductive StandsFor (document : Value) : Value → Value → Prop
  | self {schema} : reference? schema = none → StandsFor document schema schema
  | target {schema reference fields} : reference? schema = some reference →
      Denotes document reference fields → Entries.has fields "type" = true →
      StandsFor document schema (.obj fields)

variable {document schema resolved : Value} {reference : String} {cause : Failure}

theorem resolve_eq_some_iff {target : Value} :
    resolve document reference = .ok (some target) ↔
      ∃ fields, target = .obj fields ∧ Denotes document reference fields := by
  unfold resolve Denotes
  cases hp : Pointer.ofText? reference with
  | none => simp
  | some pointer =>
    dsimp only
    rw [Steps.bind_eq_ok]
    constructor
    · rintro ⟨entries, hentries, h⟩
      split at h
      · next fields hget =>
        obtain rfl := Option.some.inj (Except.ok.inj h)
        exact ⟨fields, rfl, pointer, entries, rfl, hentries, hget⟩
      · cases h
    · rintro ⟨fields, rfl, pointer', entries, hpointer, hentries, hget⟩
      obtain rfl := Option.some.inj hpointer
      refine ⟨entries, hentries, ?_⟩
      rw [hget]
      rfl

theorem Denotes.resolve_eq {fields : List (String × Value)}
    (h : Denotes document reference fields) :
    resolve document reference = .ok (some (.obj fields)) :=
  resolve_eq_some_iff.2 ⟨fields, rfl, h⟩

theorem Denotes.not_dangling {fields : List (String × Value)}
    (h : Denotes document reference fields) (htype : Entries.has fields "type" = true) :
    ¬ Dangling document reference :=
  fun hdangling => Bool.false_ne_true ((hdangling fields h).symm.trans htype)

/-- A reference that can be looked up without success is dangling. -/
theorem dangling_of_resolve_eq_none (h : resolve document reference = .ok none) :
    Dangling document reference := fun _ hdenotes => by
  cases h.symm.trans hdenotes.resolve_eq

/-- **Behind a schema.**  The lookup finds what the schema stands for. -/
theorem resolveSchema_eq_ok_iff :
    resolveSchema document schema = .ok resolved ↔ StandsFor document schema resolved := by
  unfold resolveSchema require
  cases href : reference? schema with
  | none =>
    constructor
    · rintro ⟨⟩
      exact .self href
    · rintro (_ | ⟨href', -, -⟩)
      · rfl
      · cases href.symm.trans href'
  | some reference =>
    dsimp only
    simp only [Steps.bind_eq_ok]
    constructor
    · rintro ⟨target, ⟨found, hfound, htarget⟩, h⟩
      split at htarget
      · obtain rfl := Except.ok.inj htarget
        obtain ⟨fields, rfl, hdenotes⟩ := resolve_eq_some_iff.1 hfound
        split at h
        · next htype =>
          obtain rfl := Except.ok.inj h
          exact .target href hdenotes htype
        · cases h
      · cases htarget
    · rintro (href' | ⟨href', hdenotes, htype⟩)
      · cases href.symm.trans href'
      · obtain rfl := Option.some.inj (href.symm.trans href')
        refine ⟨_, ⟨_, hdenotes.resolve_eq, rfl⟩, if_pos htype⟩

/-- A dangling reference is the only cause for which nothing stands behind a schema, but for
    what is malformed. -/
theorem eq_malformed_or_of_resolveSchema (h : resolveSchema document schema = .error cause) :
    cause = .malformed ∨ ∃ reference, reference? schema = some reference ∧
      Dangling document reference ∧ cause = .unresolved reference := by
  unfold resolveSchema require at h
  split at h
  · cases h
  · next reference href =>
    rcases Steps.bind_eq_error.1 h with h | ⟨target, htarget, h⟩
    · rcases Steps.bind_eq_error.1 h with h | ⟨found, hfound, h⟩
      · exact Or.inl (eq_malformed_of_resolve h)
      · split at h
        · cases h
        · obtain rfl := Except.error.inj h
          exact Or.inr ⟨reference, href, dangling_of_resolve_eq_none hfound, rfl⟩
    · obtain ⟨found, hfound, htarget⟩ := Steps.bind_eq_ok.1 htarget
      split at htarget
      · obtain rfl := Except.ok.inj htarget
        split at h
        · cases h
        · next htype =>
          obtain rfl := Except.error.inj h
          refine Or.inr ⟨reference, href, fun fields hdenotes => ?_, rfl⟩
          obtain rfl := Option.some.inj (Except.ok.inj (hfound.symm.trans hdenotes.resolve_eq))
          exact Bool.eq_false_iff.2 htype
      · cases htarget

/-! ## Failures -/

namespace Outcome

variable {α β : Type} {x : Outcome α}

/-- An outcome that fails only where something is malformed. -/
def OnlyMalformed (x : Outcome α) : Prop :=
  ∀ cause, x.result = .error cause → cause = .malformed

theorem onlyMalformed_pure (a : α) : (pure a : Outcome α).OnlyMalformed := nofun

theorem OnlyMalformed.bind {f : α → Outcome β} (hx : x.OnlyMalformed)
    (hf : ∀ a, (f a).OnlyMalformed) : (x >>= f).OnlyMalformed := by
  intro cause h
  rcases bind_result_eq_error.1 h with h | ⟨a, -, h⟩
  · exact hx cause h
  · exact hf a cause h

theorem OnlyMalformed.map {f : α → β} (hx : x.OnlyMalformed) : (f <$> x).OnlyMalformed :=
  hx.bind fun a => onlyMalformed_pure (f a)

end Outcome

theorem onlyMalformed_get (v : Value) (key : String) :
    (Outcome.ofExcept (Document.get v key)).OnlyMalformed := by
  intro cause h
  cases v <;> cases h <;> rfl

theorem onlyMalformed_blockOf (indent : String) (description : Option Value) :
    (Outcome.ofExcept (Comment.blockOf indent description)).OnlyMalformed := by
  intro cause h
  unfold Outcome.ofExcept Comment.blockOf Comment.lines at h
  split at h <;> cases h
  rfl

theorem onlyMalformed_requiredNames (fields : List (String × Value)) :
    (Outcome.ofExcept (requiredNames fields)).OnlyMalformed := by
  intro cause h
  rcases Steps.bind_eq_error.1 h with h | ⟨names, -, h⟩
  · unfold Document.elementsOf Document.elements at h
    split at h
    · cases h
    · split at h <;> cases h
      rfl
  · split at h <;> cases h
    rfl

namespace Scope

open Outcome (onlyMalformed_pure)

mutual

theorem typeOf_onlyMalformed (scope : Scope) (visiting : List String) :
    ∀ schema, (scope.typeOf visiting schema).OnlyMalformed
  | .obj fields => by
    cases href : reference? (.obj fields) with
    | none =>
      simp only [typeOf, href]
      exact (typeOfFields_onlyMalformed scope visiting fields).bind fun _ => onlyMalformed_pure _
    | some reference =>
      simp only [typeOf, href]
      split
      · exact onlyMalformed_pure _
      split
      · next e hres =>
        intro cause h
        obtain rfl := Except.error.inj h
        exact eq_malformed_of_resolve hres
      · exact onlyMalformed_pure _
      split
      · exact typeOf_onlyMalformed scope _ _
      · exact onlyMalformed_pure _
  | .null | .bool _ | .int _ | .float _ | .str _ | .arr _ => by
    rw [typeOf]
    · exact onlyMalformed_pure _
    · exact nofun
termination_by schema => (unseen scope.document visiting, sizeOf schema, 0)
decreasing_by
  · exact Prod.Lex.right _ (Prod.Lex.left _ _ (Json.sizeOf_fields_lt _))
  · exact Prod.Lex.left _ _ (unseen_lt ‹_› (name_mem_componentNames ‹_›))

theorem typeByName_onlyMalformed (scope : Scope) (visiting : List String) (schema : Value) :
    (scope.typeByName visiting schema).OnlyMalformed := by
  unfold typeByName
  split
  · exact onlyMalformed_pure _
  · exact typeOf_onlyMalformed scope visiting schema
termination_by (unseen scope.document visiting, sizeOf schema, 1)
decreasing_by
  exact Prod.Lex.right _ (Prod.Lex.right _ (by decide))

theorem typeOfFields_onlyMalformed (scope : Scope) (visiting : List String)
    (fields : List (String × Value)) : (scope.typeOfFields visiting fields).OnlyMalformed := by
  unfold typeOfFields
  split
  · next combination branches hb =>
    have hbranches := (typesOf_onlyMalformed scope visiting branches).map (f := combination.combine)
    split
    · split
      · exact onlyMalformed_pure _
      · exact hbranches
    · exact hbranches
  split
  · exact onlyMalformed_pure _
  split
  · exact onlyMalformed_pure _
  · split
    · exact (typeByName_onlyMalformed scope visiting _).map
    · exact onlyMalformed_pure _
  · exact typeOfObject_onlyMalformed scope visiting fields
termination_by (unseen scope.document visiting, sizeOf fields, 3)
decreasing_by
  · exact Prod.Lex.right _ (Prod.Lex.left _ _ (sizeOf_lt_of_branches? ‹_›))
  · exact Prod.Lex.right _ (Prod.Lex.left _ _ (Json.sizeOf_lt_of_get? ‹_›))
  · exact Prod.Lex.right _ (Prod.Lex.right _ (by decide))

theorem typesOf_onlyMalformed (scope : Scope) (visiting : List String) :
    ∀ schemas, (scope.typesOf visiting schemas).OnlyMalformed
  | [] => by
    rw [typesOf]
    exact onlyMalformed_pure _
  | schema :: rest => by
    rw [typesOf]
    exact (typeOf_onlyMalformed scope visiting schema).bind fun _ =>
      (typesOf_onlyMalformed scope visiting rest).bind fun _ => onlyMalformed_pure _
termination_by schemas => (unseen scope.document visiting, sizeOf schemas, 0)
decreasing_by
  all_goals
    refine Prod.Lex.right _ (Prod.Lex.left _ _ ?_)
    simp only [List.cons.sizeOf_spec]
    omega

theorem typeOfObject_onlyMalformed (scope : Scope) (visiting : List String)
    (fields : List (String × Value)) : (scope.typeOfObject visiting fields).OnlyMalformed := by
  unfold typeOfObject
  split
  · next property rest hp =>
    refine (onlyMalformed_requiredNames fields).bind fun required => ?_
    refine (propertiesOf_onlyMalformed scope visiting required (property :: rest)).bind
      fun properties => ?_
    split
    · exact onlyMalformed_pure _
    · exact (typeByName_onlyMalformed scope visiting _).bind fun _ => onlyMalformed_pure _
    · exact onlyMalformed_pure _
  · split
    · exact onlyMalformed_pure _
    · exact (typeByName_onlyMalformed scope visiting _).map
    · exact onlyMalformed_pure _
termination_by (unseen scope.document visiting, sizeOf fields, 2)
decreasing_by
  · exact Prod.Lex.right _ (Prod.Lex.left _ _ (Json.sizeOf_fields_lt_of_get? ‹_›))
  all_goals exact Prod.Lex.right _ (Prod.Lex.left _ _ (Json.sizeOf_lt_of_get? ‹_›))

theorem propertiesOf_onlyMalformed (scope : Scope) (visiting required : List String) :
    ∀ properties, (scope.propertiesOf visiting required properties).OnlyMalformed
  | [] => by
    rw [propertiesOf]
    exact onlyMalformed_pure _
  | (key, schema) :: rest => by
    rw [propertiesOf]
    exact (propertyType_onlyMalformed scope visiting schema).bind fun _ =>
      (propertiesOf_onlyMalformed scope visiting required rest).bind fun _ => onlyMalformed_pure _
termination_by properties => (unseen scope.document visiting, sizeOf properties, 0)
decreasing_by
  all_goals
    refine Prod.Lex.right _ (Prod.Lex.left _ _ ?_)
    simp only [List.cons.sizeOf_spec, Prod.mk.sizeOf_spec]
    omega

theorem propertyType_onlyMalformed (scope : Scope) (visiting : List String) (schema : Value) :
    (scope.propertyType visiting schema).OnlyMalformed := by
  unfold propertyType
  split
  · exact onlyMalformed_pure _
  have hschema := typeOf_onlyMalformed scope visiting schema
  split
  · refine Outcome.OnlyMalformed.bind nofun fun _ => ?_
    split
    · exact onlyMalformed_pure _
    · exact hschema
  · exact hschema
termination_by (unseen scope.document visiting, sizeOf schema, 1)
decreasing_by
  all_goals exact Prod.Lex.right _ (Prod.Lex.right _ (by decide))

end

end Scope

/-! ## Declarations -/

section

variable {scope : Scope} {name : String}

/-- A dangling reference is the only cause for which a schema is not declared, but for what is
    malformed. -/
theorem eq_malformed_or_of_declareSchema (h : declareSchema scope name schema = .error cause) :
    cause = .malformed ∨ ∃ reference, reference? schema = some reference ∧
      Dangling scope.document reference ∧ cause = .unresolved reference := by
  rcases Steps.bind_eq_error.1 h with h | ⟨written, -, h⟩
  · rcases Outcome.bind_result_eq_error.1 h with h | ⟨resolved, -, h⟩
    · exact eq_malformed_or_of_resolveSchema h
    · refine Or.inl (Outcome.OnlyMalformed.bind ?_ (fun t => ?_) cause h)
      · exact scope.typeOf_onlyMalformed [name] resolved
      · exact (onlyMalformed_get resolved "description").bind fun description =>
          (onlyMalformed_blockOf "" description).bind fun _ => Outcome.onlyMalformed_pure _
  · rcases Steps.bind_eq_error.1 h with h | ⟨referred, -, h⟩
    · exact Or.inl (eq_malformed_of_dependencies h)
    · cases h

/-- A schema is declared under its name, with the type of what it stands for. -/
theorem exists_of_declareSchema {d : Declaration} (h : declareSchema scope name schema = .ok d) :
    d.name = name ∧ ∃ resolved t, StandsFor scope.document schema resolved ∧
      (scope.typeOf [name] resolved).result = .ok t ∧ d.type = some t := by
  obtain ⟨t, code, referred, hdeclare, -, rfl⟩ := declareSchema_eq_ok_iff.1 h
  obtain ⟨resolved, -, -, hresolved, ht, -⟩ := Scope.declare_eq_ok_iff.1 hdeclare
  exact ⟨rfl, resolved, t, resolveSchema_eq_ok_iff.1 hresolved, ht, rfl⟩

/-- A schema is declared if what it stands for has a type, and no description. -/
theorem exists_declareSchema_of_type
    (hcomponents : ∀ kind, ∃ entries, components scope.document kind = .ok entries) {t : TypeExpr}
    (hresolved : resolveSchema scope.document schema = .ok resolved)
    (htype : (scope.typeOf [name] resolved).result = .ok t)
    (hdescription : Document.get resolved "description" = .ok none) :
    ∃ d, declareSchema scope name schema = .ok d := by
  have hwritten : (scope.declare name schema).result = .ok (t, "" ++ exportType name t) :=
    Scope.declare_eq_ok_iff.2 ⟨resolved, none, "", hresolved, htype, hdescription, rfl, rfl⟩
  exact exists_declareSchema_eq_ok hcomponents hwritten

/-- **One schema.**  It is declared or reported, and reported exactly if it is a dangling
    reference. -/
theorem declareSchema_spec (h : declareSchema scope name schema ≠ .error .malformed) :
    (∃ reference, reference? schema = some reference ∧ Dangling scope.document reference ∧
        declareSchema scope name schema = .error (.unresolved reference)) ∨
      ∃ d resolved t, declareSchema scope name schema = .ok d ∧ d.name = name ∧
        StandsFor scope.document schema resolved ∧
        (scope.typeOf [name] resolved).result = .ok t ∧ d.type = some t := by
  cases hdeclared : declareSchema scope name schema with
  | ok d =>
    obtain ⟨hname, resolved, t, hresolved, ht, htype⟩ := exists_of_declareSchema hdeclared
    exact Or.inr ⟨d, resolved, t, rfl, hname, hresolved, ht, htype⟩
  | error cause =>
    rcases eq_malformed_or_of_declareSchema hdeclared with rfl | ⟨reference, href, hdangling, rfl⟩
    · exact absurd hdeclared h
    · exact Or.inl ⟨reference, href, hdangling, rfl⟩

end

/-- What a schema of a document stands for is in the document too. -/
theorem StandsFor.inside (h : StandsFor document schema resolved) (hin : schema.Inside document) :
    resolved.Inside document := by
  obtain _ | ⟨-, hdenotes, -⟩ := h
  · exact hin
  · exact inside_of_resolve hdenotes.resolve_eq

/-- A schema that refers to something is no dangling reference if it stands for anything. -/
theorem StandsFor.not_dangling (h : StandsFor document schema resolved)
    (href : reference? schema = some reference) : ¬ Dangling document reference := by
  obtain href' | ⟨href', hdenotes, htype⟩ := h
  · cases href.symm.trans href'
  · obtain rfl := Option.some.inj (href.symm.trans href')
    exact hdenotes.not_dangling htype

/-! ## Generations -/

namespace Generation

variable {skip : Value} {g : Generation} {schemas : List (String × Value)}

/-- **Declared or reported.**  Each component schema is declared or reported.  It is reported
    if and only if it is a dangling reference, with that reference as the cause, and in the
    order of the document; every other one is declared under its name, with the type of what
    it stands for. -/
theorem declared_or_reported (h : ofDocument document skip = .ok g)
    (hschemas : components document .schemas = .ok schemas)
    (hnodup : (Entries.keys schemas).Nodup)
    (hplain : ∀ name ∈ Entries.keys schemas, ∀ rest, name ≠ "endpoint:" ++ rest) :
    ∃ scope, Scope.ofDocument document = .ok scope ∧
      (Entries.keys g.errors).Sublist (Entries.keys schemas) ∧
      ∀ name schema, (name, schema) ∈ schemas →
        (name ∈ Entries.keys g.errors ↔ name ∉ Entries.keys g.schemaDeclarations) ∧
        (name ∈ Entries.keys g.errors ↔
          ∃ reference, reference? schema = some reference ∧ Dangling document reference) ∧
        (∀ reference, reference? schema = some reference → Dangling document reference →
          (Entries.get? g.errors name).map Failure.message =
            some ("Failed to resolve reference: " ++ reference)) ∧
        ((∀ reference, reference? schema = some reference → ¬ Dangling document reference) →
          ∃ d resolved t, Entries.get? g.schemaDeclarations name = some d ∧ d.name = name ∧
            StandsFor document schema resolved ∧
            (scope.typeOf [name] resolved).result = .ok t ∧ d.type = some t) := by
  obtain ⟨scope, schemas', hscope, hschemas', hne, -, ⟨made, -, hdeclarations⟩, -, herrors⟩ :=
    ofDocument_eq_ok_iff.1 h
  obtain rfl := Except.ok.inj (hschemas.symm.trans hschemas')
  obtain rfl := scope_document hscope
  have hdeclared : g.schemaDeclarations = schemas.filterMap (declared? scope) := by
    rw [← declaredSchemas_eq hnodup, schemaDeclarations, hdeclarations]
    refine (schemaPart_foldl_set _ _).trans (schemaPart_eq_self_iff.2 fun name hname => ?_)
    exact hplain name (mem_keys_of_mem_declaredSchemas hname)
  rw [failedSchemas_eq hnodup] at herrors
  rw [hdeclared, herrors]
  refine ⟨scope, hscope, Entries.keys_filterMap_sublist fun _ _ => fst_of_failed?, ?_⟩
  intro name schema hmem
  have hmissing {α : Type} {entries : List (String × α)} :
      name ∈ Entries.keys entries ↔ Entries.get? entries name ≠ none :=
    Iff.symm (not_congr Entries.get?_eq_none_iff |>.trans not_not)
  have hreport := Entries.get?_filterMap_of_mem (fun e _ => @fst_of_failed? scope e _) hnodup
    hmem
  have hdeclare := Entries.get?_filterMap_of_mem (fun e _ => @fst_of_declared? scope e _)
    hnodup hmem
  rw [failed?] at hreport
  rw [declared?] at hdeclare
  rw [hmissing, hmissing]
  rcases declareSchema_spec (hne _ hmem) with
    ⟨reference, href, hdangling, heq⟩ | ⟨d, resolved, t, heq, hname, hstands, ht, htype⟩
  · rw [heq] at hreport hdeclare
    have hreport' : Entries.get? (schemas.filterMap (failed? scope)) name =
      some (.unresolved reference) := hreport
    have hdeclare' : Entries.get? (schemas.filterMap (declared? scope)) name = none := hdeclare
    rw [hreport', hdeclare']
    refine ⟨by simp, iff_of_true (Option.some_ne_none _) ⟨reference, href, hdangling⟩, ?_, ?_⟩
    · intro reference' href' _
      obtain rfl := Option.some.inj (href.symm.trans href')
      rfl
    · exact fun hgood => absurd hdangling (hgood reference href)
  · rw [heq] at hreport hdeclare
    have hreport' : Entries.get? (schemas.filterMap (failed? scope)) name = none := hreport
    have hdeclare' : Entries.get? (schemas.filterMap (declared? scope)) name = some d := hdeclare
    rw [hreport', hdeclare']
    refine ⟨by simp, iff_of_false (fun hn => hn rfl) ?_, ?_, ?_⟩
    · rintro ⟨reference, href, hdangling⟩
      exact hstands.not_dangling href hdangling
    · exact fun reference href hdangling => absurd hdangling (hstands.not_dangling href)
    · exact fun _ => ⟨d, resolved, t, rfl, hname, hstands, ht, htype⟩

/-- A schema, a reference to it, and a reference to none. -/
def aliasSchemas : List (String × Value) :=
  [("Account", Output.referenceTo "User"), ("Broken", Output.referenceTo "Missing"),
    ("User", Output.userSchema)]

/-- The document of these schemas. -/
def aliasDocument : Value := .obj [("components", .obj [("schemas", .obj aliasSchemas)])]

/-- The scope of the document. -/
def aliasScope : Scope := ⟨aliasDocument, ⟨[]⟩⟩

theorem exists_generation_aliases : ∃ g, ofDocument aliasDocument (.int 0) = .ok g := by
  have hscope : Scope.ofDocument aliasDocument = .ok aliasScope := by cbv
  have hcomponents (kind : ComponentKind) :
      ∃ entries, components aliasScope.document kind = .ok entries := by
    cases kind <;> exact ⟨_, by cbv⟩
  have htype (name : String) (schema : Value)
      (hresolved : resolveSchema aliasDocument schema = .ok Output.userSchema) :
      declareSchema aliasScope name schema ≠ .error .malformed := by
    have htype : (aliasScope.typeOf [name] Output.userSchema).result = .ok (.keyword .string) := by
      cbv
    obtain ⟨d, hd⟩ := exists_declareSchema_of_type hcomponents hresolved htype rfl
    rw [hd]
    rintro ⟨⟩
  have hbroken : declareSchema aliasScope "Broken" (Output.referenceTo "Missing") =
      .error (.unresolved "#/components/schemas/Missing") := by cbv
  have haccount : resolveSchema aliasDocument (Output.referenceTo "User") =
      .ok Output.userSchema := by cbv
  refine ⟨⟨_, [], [], _⟩, ofDocument_eq_ok_iff.2
    ⟨aliasScope, aliasSchemas, hscope, rfl, ?_, rfl, ⟨[], rfl, rfl⟩, rfl, rfl⟩⟩
  intro e he
  simp only [aliasSchemas, List.mem_cons, List.not_mem_nil, or_false] at he
  rcases he with rfl | rfl | rfl
  · exact htype _ _ haccount
  · rw [hbroken]
    rintro ⟨⟩
  · exact htype _ _ rfl

/-- The reference to the schema is declared, the other one is reported. -/
theorem declared_or_reported_aliases : ∃ g, ofDocument aliasDocument (.int 0) = .ok g ∧
    components aliasDocument .schemas = .ok aliasSchemas ∧ (Entries.keys aliasSchemas).Nodup ∧
    (∀ name ∈ Entries.keys aliasSchemas, ∀ rest, name ≠ "endpoint:" ++ rest) ∧
    (Entries.get? g.errors "Broken").map Failure.message =
      some "Failed to resolve reference: #/components/schemas/Missing" ∧
    ∃ d, Entries.get? g.schemaDeclarations "Account" = some d ∧ d.name = "Account" ∧
      d.type = some (.keyword .string) := by
  obtain ⟨g, hgen⟩ := exists_generation_aliases
  have hplain : ∀ name ∈ Entries.keys aliasSchemas, ∀ rest, name ≠ "endpoint:" ++ rest := by
    intro name hname rest heq
    have hmark : endpointName? name = some rest := endpointName?_eq_some_iff.2 heq
    have hnames : ∀ name ∈ Entries.keys aliasSchemas, endpointName? name = none := by decide
    cases (hnames name hname).symm.trans hmark
  have hnodup : (Entries.keys aliasSchemas).Nodup := by decide
  have hresolve : resolve aliasDocument "#/components/schemas/User" =
      .ok (some Output.userSchema) := by cbv
  have hmissing : resolve aliasDocument "#/components/schemas/Missing" = .ok none := by cbv
  obtain ⟨scope, hscope, -, hall⟩ := declared_or_reported hgen rfl hnodup hplain
  obtain rfl : aliasScope = scope := Except.ok.inj hscope
  refine ⟨g, hgen, rfl, hnodup, hplain, ?_, ?_⟩
  · obtain ⟨-, -, hreport, -⟩ :=
      hall "Broken" (Output.referenceTo "Missing") (by simp [aliasSchemas])
    exact hreport _ rfl (dangling_of_resolve_eq_none hmissing)
  · obtain ⟨-, -, -, hdeclare⟩ :=
      hall "Account" (Output.referenceTo "User") (by simp [aliasSchemas])
    have hdenotes : Denotes aliasDocument "#/components/schemas/User"
        [("type", .str "string")] := by
      obtain ⟨fields, heq, hdenotes⟩ := resolve_eq_some_iff.1 hresolve
      obtain rfl := Value.obj.inj heq
      exact hdenotes
    obtain ⟨d, resolved, t, hd, hname, hstands, ht, htype⟩ := hdeclare fun reference href =>
      Option.some.inj href ▸ hdenotes.not_dangling rfl
    have hresolved : resolved = Output.userSchema := by
      refine Except.ok.inj ((resolveSchema_eq_ok_iff.2 hstands).symm.trans ?_)
      exact resolveSchema_eq_ok_iff.2 (.target rfl hdenotes rfl)
    have hstring : (aliasScope.typeOf ["Account"] Output.userSchema).result =
        .ok (.keyword .string) := by cbv
    rw [hresolved, hstring] at ht
    exact ⟨d, hd, hname, htype.trans (congrArg some (Except.ok.inj ht).symm)⟩

end Generation

end ApiTypes
