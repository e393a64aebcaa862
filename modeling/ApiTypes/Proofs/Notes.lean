/-
  Where the texts of a document stand.

  Descriptions, summaries and paths go into the comments of generated code as they are.

  * `SchemaNote`, `OperationNote`: the texts that the declaration of a schema and the code of an
    endpoint have in comments, by what the document holds;
  * `SchemaNote.within`, `OperationNote.within`: they stand there, descriptions of properties at any
    depth (`Scope.Describes`) among them;
  * `Scope.note_closes_iff`: the comment of a text ends with it if and only if the text has no `*/`;
  * `not_note_closes_early`: a description with `*/`, of which the rest stands outside.
-/
import ApiTypes.Proofs.CommentEnds
import ApiTypes.Proofs.NestedTypes
import ApiTypes.Proofs.TypeNames

namespace ApiTypes

open Json (Value given?)
open Text

/-! ## Notes in code -/

namespace Note

/-- The note stands in the code. -/
def Stands (n : Note) (code : String) : Prop := ∃ before after, code = before ++ n.written ++ after

/-- Wherever the note stands in the code, its comment ends with it. -/
def Closes (n : Note) (code : String) : Prop :=
  ∀ before after, code = before ++ n.written ++ after →
    Comment.behind? (n.written ++ after).toList = some after.toList

variable {n : Note} {code : String}

theorem stands_iff : n.Stands code ↔ Within n.written code := within_iff.symm

theorem Stands.closes_iff (h : n.Stands code) :
    n.Closes code ↔ ¬ ['*', '/'] <:+: n.text.toList := by
  obtain ⟨before, after, hcode⟩ := h
  exact ⟨fun hcloses => (behind?_written_iff n after).1 (hcloses before after hcode),
    fun hplain _ after _ => (behind?_written_iff n after).2 hplain⟩

/-- The comment of a property stands in an object type. -/
theorem within_object {properties : List (PropertyHead × TypeExpr)} {index : Option TypeExpr}
    {head : PropertyHead} {t : TypeExpr} {text : String} (h : (head, t) ∈ properties)
    (hcomment : head.comment = some text) :
    Within (Note.line text).written (TypeExpr.object properties index).text := by
  have hline : Comment.line text ∈ head.lines t.text := by simp [PropertyHead.lines, hcomment]
  have hwritten : Comment.line text = "  " ++ (Note.line text).written := by
    simp [Comment.line, written, ← String.append_assoc]
  refine Within.trans ?_ (TypeExpr.within_object h hline)
  rw [hwritten]
  exact within_append_left _ _

theorem within_blockOf {s comment : String} {description : Option Value}
    (hdescription : description = some (.str s)) (hs : s ≠ "")
    (h : Comment.blockOf "" description = .ok comment) : Within (Note.block s).written comment := by
  subst hdescription
  have hblock : Comment.blockOf "" (some (.str s)) = .ok (Comment.body "" s ++ "\n") := by
    have hgiven : given? (some (Value.str s)) = some (.str s) :=
      if_neg (by simpa [Value.isEmpty] using hs)
    rw [Comment.blockOf, Comment.lines, hgiven]
    simp [Functor.map, Except.map, Comment.block, hs]
  obtain rfl := Except.ok.inj (hblock.symm.trans h)
  exact within_append_right _ _

end Note

/-! ## Descriptions of properties -/

namespace Scope

variable {scope : Scope} {t : TypeExpr}

/-- A schema is made with an object schema, of which a property that is no reference has the
    description. -/
def Describes (scope : Scope) (start : List String × Value) (text : String) : Prop :=
  ∃ visiting fields properties property,
    Relation.ReflTransGen scope.Needs start (visiting, .obj fields) ∧ HasForm fields .object ∧
    Entries.get? fields "properties" = some (.obj properties) ∧ property ∈ properties ∧
    reference? property.2 = none ∧
    Comment.ofProperty? (property.2.field? "description") = some text

/-- The description of a property stands in the type. -/
theorem Describes.within {start : List String × Value} {text : String}
    (hdescribes : scope.Describes start text)
    (h : (scope.typeOf start.1 start.2).result = .ok t) :
    Within (Note.line text).written t.text := by
  obtain ⟨visiting, fields, properties, property, hneeds, hform, hget, hmem, href, htext⟩ :=
    hdescribes
  obtain ⟨t', ht', hwithin⟩ := within_of_needs hneeds h
  obtain ⟨base, hbase, rfl⟩ := (typeOf_result_eq_ok hform.reference).1 ht'
  obtain ⟨first, rest, rfl⟩ := List.exists_cons_of_ne_nil (List.ne_nil_of_mem hmem)
  rw [typeOfFields_object hform] at hbase
  obtain ⟨required, types, index, rfl, htypes, -⟩ := exists_of_typeOfObject hbase hget
  obtain ⟨⟨head, type⟩, htyped, -, hcomment⟩ :=
    Steps.exists_mem_of_forall₂_right (propertiesOf_spec htypes).flip hmem
  have hcomment := (hcomment href).trans htext
  exact ((Note.within_object htyped hcomment).trans (within_nullable _ _)).trans hwithin

end Scope

/-! ## Schemas and messages -/

section

variable {scope : Scope} {name : String} {schema message parameter : Value} {n : Note}
  {d : Declaration}

/-- The texts that the declaration of a schema has in comments: the description of the schema that
    it resolves to, and those of properties. -/
inductive SchemaNote (scope : Scope) (name : String) (schema : Value) : Note → Prop
  | description {resolved s} : resolveSchema scope.document schema = .ok resolved →
      resolved.field? "description" = some (.str s) → s ≠ "" →
      SchemaNote scope name schema (.block s)
  | property {resolved text} : resolveSchema scope.document schema = .ok resolved →
      scope.Describes ([name], resolved) text → SchemaNote scope name schema (.line text)

theorem SchemaNote.within (hn : SchemaNote scope name schema n)
    (h : declareSchema scope name schema = .ok d) : Within n.written d.code := by
  obtain ⟨type, code, referred, hdeclare, -, rfl⟩ := declareSchema_eq_ok_iff.1 h
  obtain ⟨resolved, description, comment, hresolved, htype, hdescription, hcomment, rfl⟩ :=
    Scope.declare_eq_ok_iff.1 hdeclare
  cases hn with
  | description hresolved' hs hne =>
    obtain rfl := Except.ok.inj (hresolved.symm.trans hresolved')
    have hdescription := (eq_field?_of_get hdescription).trans hs
    exact (Note.within_blockOf hdescription hne hcomment).trans (within_append_right _ _)
  | property hresolved' hdescribes =>
    obtain rfl := Except.ok.inj (hresolved.symm.trans hresolved')
    exact ((hdescribes.within htype).trans (within_append _ _ _)).trans (within_append_left _ _)

/-- The texts that the declaration of a message has in comments. -/
inductive MessageNote (scope : Scope) (message : Value) : Note → Prop
  | description {schema s} : Payload.schema? message = .ok (some schema) →
      message.field? "description" = some (.str s) → s ≠ "" → MessageNote scope message (.block s)
  | property {schema text} : Payload.schema? message = .ok (some schema) →
      reference? schema = none → scope.Describes ([], schema) text →
      MessageNote scope message (.line text)

theorem MessageNote.within {declared : Option Declaration} (hn : MessageNote scope message n)
    (h : Payload.declare? scope message name = .ok declared) :
    ∃ d, declared = some d ∧ Within n.written d.code := by
  obtain ⟨schema, hschema⟩ : ∃ schema, Payload.schema? message = .ok (some schema) := by
    cases hn with
    | description hschema => exact ⟨_, hschema⟩
    | property hschema => exact ⟨_, hschema⟩
  rw [Payload.declare?, hschema, Steps.ok_bind] at h
  obtain ⟨d, hd, h⟩ := Steps.bind_eq_ok.1 h
  refine ⟨d, (Except.ok.inj h).symm, ?_⟩
  obtain ⟨type, comment, referred, htype, hcomment, -, rfl⟩ := declarePayload_eq_ok_iff.1 hd
  cases hn with
  | description hschema' hs hne =>
    exact (Note.within_blockOf hs hne hcomment).trans (within_append_right _ _)
  | property hschema' href hdescribes =>
    obtain rfl := Option.some.inj (Except.ok.inj (hschema.symm.trans hschema'))
    rw [Scope.typeByName_of_reference?_eq_none href] at htype
    exact ((hdescribes.within htype).trans (within_append _ _ _)).trans (within_append_left _ _)

/-! ## Parameters -/

namespace Parameter

/-- The schema that the type of a parameter is made of: its own, or that of its items. -/
def typedBy? (parameter : Value) : Option Value :=
  match parameter.field? "schema" with
  | some (.obj schema) => some (.obj schema)
  | _ =>
    match parameter.field? "type", parameter.field? "items" with
    | some (.str "array"), some (.obj items) => some (.obj items)
    | _, _ => none

theorem within_typeOf {t : TypeExpr} (hschema : typedBy? parameter = some schema)
    (h : (typeOf scope parameter).result = .ok t) :
    ∃ t', (scope.typeByName [] schema).result = .ok t' ∧ Within t'.text t.text := by
  unfold typedBy? at hschema
  unfold typeOf at h
  split at hschema
  · next fields hfields =>
    obtain rfl := Option.some.inj hschema
    rw [hfields] at h
    exact ⟨t, h, Within.refl _⟩
  · next hnone =>
    split at hschema
    · next items htype hitems =>
      obtain rfl := Option.some.inj hschema
      split at h
      · next fields hfields => exact absurd hfields (hnone fields)
      · rw [htype, hitems] at h
        obtain ⟨t', ht', rfl⟩ := Outcome.map_result_eq_ok.1 h
        exact ⟨t', ht', TypeExpr.within_of_mem_children List.mem_cons_self⟩
    · cases hschema

theorem property_spec {head : PropertyHead} {type : TypeExpr} {names : NameSet}
    (h : property scope parameter = .ok ((head, type), names)) :
    head.comment = Comment.ofProperty? (parameter.field? "description") ∧
      (typeOf scope parameter).result = .ok type := by
  obtain ⟨found, -, h⟩ := Steps.bind_eq_ok.1 h
  split at h
  · cases h
  · obtain ⟨type', htype, h⟩ := Steps.bind_eq_ok.1 h
    obtain ⟨referred, -, h⟩ := Steps.bind_eq_ok.1 h
    obtain ⟨hproperty, -⟩ := Prod.mk.inj (Except.ok.inj h)
    obtain ⟨rfl, rfl⟩ := Prod.mk.inj hproperty
    exact ⟨rfl, htype⟩

/-- The parameters of a location are declared together. -/
theorem exists_declare_of_isAt {parameters : List Value} {declared : List (Location × Declaration)}
    {location : Location} (h : declareAll scope parameters name = .ok declared)
    (hmem : parameter ∈ parameters) (hat : isAt location parameter = true) :
    ∃ d, (location, d) ∈ declared ∧ declare scope (parameters.filter (isAt location))
      (name ++ "_" ++ location.ending) = .ok d := by
  have hlocation : location ∈ Location.all := by cases location <;> decide
  obtain ⟨found, hfound, hdeclared⟩ := Steps.exists_of_filterMapM_eq_ok h hlocation
  split at hfound
  · next hnone => exact absurd (List.mem_filter.2 ⟨hmem, hat⟩) (hnone ▸ List.not_mem_nil)
  · obtain ⟨d, hd, hfound⟩ := Steps.bind_eq_ok.1 hfound
    exact ⟨d, hdeclared _ (Except.ok.inj hfound).symm, hd⟩

end Parameter

/-- The texts that a parameter has in comments. -/
inductive ParameterNote (scope : Scope) (parameter : Value) : Note → Prop
  | description {text} : Comment.ofProperty? (parameter.field? "description") = some text →
      ParameterNote scope parameter (.line text)
  | property {schema text} : Parameter.typedBy? parameter = some schema →
      reference? schema = none → scope.Describes ([], schema) text →
      ParameterNote scope parameter (.line text)

theorem ParameterNote.within {parameters : List Value} (hn : ParameterNote scope parameter n)
    (h : Parameter.declare scope parameters name = .ok d) (hmem : parameter ∈ parameters) :
    Within n.written d.code := by
  obtain ⟨properties, hproperties, h⟩ := Steps.bind_eq_ok.1 h
  obtain rfl := Except.ok.inj h
  obtain ⟨⟨⟨head, type⟩, names⟩, hproperty, hof⟩ :=
    Steps.exists_mem_of_forall₂_right (Steps.mapM_eq_ok.1 hproperties).flip hmem
  have hof : Parameter.property scope parameter = .ok ((head, type), names) := hof
  have hwithin : Within n.written (TypeExpr.object (properties.map (·.1)) none).text := by
    have hhead : (head, type) ∈ properties.map (·.1) := List.mem_map_of_mem hproperty
    obtain ⟨hcomment, htype⟩ := Parameter.property_spec hof
    cases hn with
    | description htext => exact Note.within_object hhead (hcomment.trans htext)
    | property hschema href hdescribes =>
      obtain ⟨t', ht', hwithin⟩ := Parameter.within_typeOf hschema htype
      rw [Scope.typeByName_of_reference?_eq_none href] at ht'
      have hchild : type ∈ (TypeExpr.object (properties.map (·.1)) none).children :=
        List.mem_append_left _ (List.mem_map_of_mem hhead)
      exact ((hdescribes.within ht').trans hwithin).trans (TypeExpr.within_of_mem_children hchild)
  exact hwithin.trans (within_append _ _ _)

/-! ## Endpoints -/

namespace Endpoint

theorem code_eq_ok_iff {e : Endpoint} {code : String} : e.code = .ok code ↔
    ∃ summary, Comment.lines (some e.summary) = .ok summary ∧
      code = Text.join "\n\n" ((Note.block (headingOf summary e.method e.path)).written ::
        e.declarations.map Declaration.code) := by
  refine Steps.bind_eq_ok.trans (exists_congr fun summary => and_congr_right fun _ => ?_)
  exact ⟨fun h => (Except.ok.inj h).symm, fun h => congrArg Except.ok h.symm⟩

/-- The code of the endpoint of an operation, by what the operation says about itself. -/
theorem code_of_ofOperation {operation : Operation} {skip : Nat} {e : Endpoint}
    {summary code : String} (h : ofOperation scope skip operation name = .ok e)
    (hcode : e.code = .ok code) (hsummary : Comment.lines (some operation.summary) = .ok summary) :
    code = Text.join "\n\n"
      ((Note.block (headingOf summary operation.method operation.path)).written ::
        e.declarations.map Declaration.code) := by
  obtain ⟨summary', hsummary', rfl⟩ := code_eq_ok_iff.1 hcode
  obtain ⟨_, _, _, _, _, -, -, -, -, rfl⟩ := exists_of_ofOperation h
  obtain rfl := Except.ok.inj (hsummary.symm.trans hsummary')
  rfl

theorem within_code {e : Endpoint} {code : String} (hcode : e.code = .ok code)
    (hd : d ∈ e.declarations) : Within d.code code := by
  obtain ⟨summary, -, rfl⟩ := code_eq_ok_iff.1 hcode
  exact within_join (List.mem_cons_of_mem _ (List.mem_map_of_mem hd))

end Endpoint

/-- The texts that the code of an operation has in comments: its summary with method and path, and
    those of its parameters, its body and its responses. -/
inductive OperationNote (scope : Scope) (operation : Operation) : Note → Prop
  | heading {summary} : Comment.lines (some operation.summary) = .ok summary →
      OperationNote scope operation
        (.block (Endpoint.headingOf summary operation.method operation.path))
  | parameter {parameters parameter location n} :
      Parameter.collect scope.document operation.pathItem operation.fields = .ok parameters →
      parameter ∈ parameters → Parameter.isAt location parameter = true →
      ParameterNote scope parameter n → OperationNote scope operation n
  | body {body n} : Entries.get? operation.fields "requestBody" = some (.obj body) →
      reference? (.obj body) = none → MessageNote scope (.obj body) n →
      OperationNote scope operation n
  | response {entries status entry message n} :
      Document.getFields (.obj operation.fields) "responses" = .ok entries →
      (Entries.keys entries).Nodup → (status, entry) ∈ entries →
      Payload.response? scope entry = .ok (some message) → MessageNote scope message n →
      OperationNote scope operation n

/-- A response with a note is declared. -/
theorem Payload.exists_of_response {operation entry : Value} {entries : List (String × Value)}
    {status : String} {declared : List (String × Declaration)}
    (h : responses scope operation name = .ok declared)
    (hentries : Document.getFields operation "responses" = .ok entries)
    (hnodup : (Entries.keys entries).Nodup) (hentry : (status, entry) ∈ entries)
    (hmessage : response? scope entry = .ok (some message)) (hn : MessageNote scope message n) :
    ∃ d, (status, d) ∈ declared ∧ Within n.written d.code := by
  rw [responses, hentries, Steps.ok_bind] at h
  obtain ⟨found, hfound, h⟩ := Steps.bind_eq_ok.1 h
  obtain rfl := Except.ok.inj h
  have hkeys : (Entries.keys found).Nodup := by
    refine (Steps.sublist_of_filterMapM (fun r p hstep => ?_) hfound).nodup hnodup
    obtain ⟨message', -, hstep⟩ := Steps.bind_eq_ok.1 hstep
    split at hstep
    · cases Except.ok.inj hstep
    · obtain ⟨d, -, hstep⟩ := Steps.bind_eq_ok.1 hstep
      obtain ⟨d', rfl, rfl⟩ := Option.map_eq_some_iff.1 (Except.ok.inj hstep)
      rfl
  rw [Entries.ofList_eq_self hkeys]
  obtain ⟨result, hresult, hmem⟩ := Steps.exists_of_filterMapM_eq_ok hfound hentry
  dsimp only at hresult
  rw [hmessage, Steps.ok_bind] at hresult
  obtain ⟨declared, hdeclared, hresult⟩ := Steps.bind_eq_ok.1 hresult
  obtain ⟨d, rfl, hwithin⟩ := hn.within hdeclared
  exact ⟨d, hmem _ (Except.ok.inj hresult).symm, hwithin⟩

theorem OperationNote.within {operation : Operation} {skip : Nat} {e : Endpoint}
    {code : String} (hn : OperationNote scope operation n)
    (h : Endpoint.ofOperation scope skip operation name = .ok e) (hcode : e.code = .ok code) :
    Within n.written code := by
  cases hn with
  | heading hsummary =>
    obtain rfl := Endpoint.code_of_ofOperation h hcode hsummary
    exact within_join List.mem_cons_self
  | parameter hparameters hmem hat hn =>
    obtain ⟨-, -, ⟨parameters', hparameters', hlocated⟩, -, -⟩ := Endpoint.ofOperation_spec h
    obtain rfl := Except.ok.inj (hparameters.symm.trans hparameters')
    obtain ⟨d, hd, hdeclare⟩ := Parameter.exists_declare_of_isAt hlocated hmem hat
    have hdeclared : d ∈ e.declarations :=
      List.mem_append_left _ (List.mem_append_left _ (List.mem_map.2 ⟨_, hd, rfl⟩))
    exact (hn.within hdeclare (List.mem_filter.2 ⟨hmem, hat⟩)).trans
      (Endpoint.within_code hcode hdeclared)
  | body hget href hn =>
    obtain ⟨-, -, -, hbody, -⟩ := Endpoint.ofOperation_spec h
    rw [Payload.requestBody?, Document.get, hget, Steps.ok_bind] at hbody
    obtain ⟨d, hd, hwithin⟩ := hn.within ((if_neg (by simp [href])).symm.trans hbody)
    have hdeclared : d ∈ e.declarations :=
      List.mem_append_left _ (List.mem_append_right _ (Option.mem_toList.2 hd))
    exact hwithin.trans (Endpoint.within_code hcode hdeclared)
  | response hentries hnodup hentry hmessage hn =>
    obtain ⟨-, -, -, -, hresponses⟩ := Endpoint.ofOperation_spec h
    obtain ⟨d, hd, hwithin⟩ :=
      Payload.exists_of_response hresponses hentries hnodup hentry hmessage hn
    have hdeclared : d ∈ e.declarations := List.mem_append_right _ (List.mem_map.2 ⟨_, hd, rfl⟩)
    exact hwithin.trans (Endpoint.within_code hcode hdeclared)

end

/-! ## Where the comments end -/

/-- The comment at the top of an endpoint's code ends early exactly if the summary or the path end
    it: no method does. -/
theorem Endpoint.hasEnd_headingOf {summary method path : String} (h : method ∈ methods) :
    Comment.HasEnd (headingOf summary method path).toList ↔
      Comment.HasEnd summary.toList ∨ Comment.HasEnd path.toList := by
  have hmethod : ∀ m ∈ methods, ¬ Comment.HasEnd ("Endpoint: " ++ Text.upper m).toList := by
    decide +kernel
  have hline : Comment.HasEnd ("Endpoint: " ++ Text.upper method ++ " " ++ path).toList ↔
      Comment.HasEnd path.toList := by
    rw [String.toList_append, String.toList_append]
    exact (Comment.separates_space _ _).trans (or_iff_right (hmethod method h))
  rw [headingOf]
  split
  · next hempty => rw [hline, hempty, String.toList_empty, or_iff_right Comment.not_hasEnd_nil]
  · rw [String.toList_append, String.toList_append, ← hline]
    exact Comment.separates_lineFeed _ _

/-- **Texts in comments.**  Every description of a schema, of a property, of a parameter or of a
    message, and the summary and the path of every operation stand in comments of the code that is
    made for them.  Such a comment ends where it should if and only if the text has no `*/`. -/
theorem Scope.note_closes_iff (scope : Scope) :
    (∀ name schema d n, declareSchema scope name schema = .ok d →
      SchemaNote scope name schema n →
      n.Stands d.code ∧ (n.Closes d.code ↔ ¬ ['*', '/'] <:+: n.text.toList)) ∧
    (∀ skip operation name e code n, Endpoint.ofOperation scope skip operation name = .ok e →
      e.code = .ok code → OperationNote scope operation n →
      n.Stands code ∧ (n.Closes code ↔ ¬ ['*', '/'] <:+: n.text.toList)) ∧
    ∀ summary method path, method ∈ methods →
      (['*', '/'] <:+: (Endpoint.headingOf summary method path).toList ↔
        ['*', '/'] <:+: summary.toList ∨ ['*', '/'] <:+: path.toList) := by
  refine ⟨fun name schema d n h hn => ?_, fun skip operation name e code n h hcode hn => ?_,
    fun summary method path hmethod => Endpoint.hasEnd_headingOf hmethod⟩
  · have hstands := Note.stands_iff.2 (hn.within h)
    exact ⟨hstands, hstands.closes_iff⟩
  · have hstands := Note.stands_iff.2 (hn.within h hcode)
    exact ⟨hstands, hstands.closes_iff⟩

/-- A schema with one property, which is described. -/
def described (description : String) : List (String × Value) :=
  [("description", .str "A thing."),
    ("properties", .obj [("a", .obj [("description", .str description)])])]

/-- The scope of an empty document. -/
def describedScope : Scope := ⟨.obj [], ⟨[]⟩⟩

/-- An operation with a summary. -/
def describedOperation : Operation := ⟨"/a", "get", [], [("summary", .str "Gets it.")]⟩

/-- The type of the schema. -/
def describedType (description : String) : TypeExpr :=
  .object [(⟨some description, "a", true⟩, .unknown)] none

/-- The code of the schema has its own description and that of the property. -/
theorem exists_declareSchema_described {description : String}
    (htext : Comment.ofProperty? (some (.str description)) = some description)
    (htypes : (describedScope.propertiesOf ["A"] []
      [("a", .obj [("description", .str description)])]).result =
        .ok [(⟨some description, "a", true⟩, .unknown)]) :
    ∃ d, declareSchema describedScope "A" (.obj (described description)) = .ok d ∧
      d.code = "/**\n * A thing.\n */\n" ++ exportType "A" (describedType description) ∧
      SchemaNote describedScope "A" (.obj (described description)) (.block "A thing.") ∧
      SchemaNote describedScope "A" (.obj (described description)) (.line description) := by
  have hform : HasForm (described description) .object := ⟨rfl, rfl, rfl, rfl⟩
  have htype : (describedScope.typeOf ["A"] (.obj (described description))).result =
      .ok (describedType description) := by
    refine (Scope.typeOf_result_eq_ok rfl).2 ⟨_, ?_, rfl⟩
    rw [Scope.typeOfFields_object hform]
    exact Scope.typeOfObject_of_propertiesOf (List.cons_ne_nil _ _) rfl rfl rfl htypes
  have hcomment : Comment.blockOf "" (some (.str "A thing.")) =
      .ok "/**\n * A thing.\n */\n" := by decide
  have hdeclare : (describedScope.declare "A" (.obj (described description))).result =
      .ok (_, "/**\n * A thing.\n */\n" ++ exportType "A" (describedType description)) :=
    Scope.declare_eq_ok_iff.2 ⟨_, _, _, rfl, htype, rfl, hcomment, rfl⟩
  have hcomponents (kind : ComponentKind) :
      ∃ entries, components describedScope.document kind = .ok entries := ⟨[], rfl⟩
  obtain ⟨referred, hreferred⟩ :=
    exists_dependencies_eq_ok hcomponents (.obj (described description))
  refine ⟨_, declareSchema_eq_ok_iff.2 ⟨_, _, _, hdeclare, hreferred, rfl⟩, rfl,
    .description rfl rfl (by decide), .property rfl ?_⟩
  exact ⟨_, _, _, _, .refl, hform, rfl, List.mem_cons_self, rfl, htext⟩

/-- The comments around plain texts end where they should. -/
theorem note_closes_iff_described : ∃ d e code,
    declareSchema describedScope "A" (.obj (described "first")) = .ok d ∧
      d.code = "/**\n * A thing.\n */\n" ++
        "export type A = \x7b\n  /** first */\n  a?: unknown;\n\x7d;" ∧
      (Note.block "A thing.").Closes d.code ∧ (Note.line "first").Closes d.code ∧
      Endpoint.ofOperation describedScope 0 describedOperation "a" = .ok e ∧
      e.code = .ok code ∧
      (Note.block (Endpoint.headingOf "Gets it." "get" "/a")).Closes code := by
  have htext : Comment.ofProperty? (some (.str "first")) = some "first" := rfl
  have htypes : (describedScope.propertiesOf ["A"] []
      [("a", .obj [("description", .str "first")])]).result =
        .ok [(⟨some "first", "a", true⟩, .unknown)] := by cbv
  obtain ⟨d, hd, hdeclared, hblock, hline⟩ := exists_declareSchema_described htext htypes
  have hheading : OperationNote describedScope describedOperation
      (.block (Endpoint.headingOf "Gets it." "get" "/a")) := .heading rfl
  obtain ⟨e, he, code, hcode⟩ : ∃ e, Endpoint.ofOperation describedScope 0 describedOperation "a" =
      .ok e ∧ ∃ code, e.code = .ok code := ⟨_, rfl, _, rfl⟩
  obtain ⟨hschema, hoperation, hheadings⟩ := describedScope.note_closes_iff
  have hplain : ¬ ['*', '/'] <:+: (Endpoint.headingOf "Gets it." "get" "/a").toList :=
    (hheadings "Gets it." "get" "/a" (by decide)).not.2 (by decide)
  exact ⟨d, e, code, hd, hdeclared, (hschema _ _ _ _ hd hblock).2.2 (by decide),
    (hschema _ _ _ _ hd hline).2.2 (by decide), he, hcode,
    (hoperation _ _ _ _ _ _ he hcode hheading).2.2 hplain⟩

/-- Not every comment ends where it should: that of a description with `*/` ends inside of it. -/
theorem not_note_closes_early :
    (¬ ∀ scope name schema d n, declareSchema scope name schema = .ok d →
      SchemaNote scope name schema n → n.Closes d.code) ∧
    (∃ d, declareSchema describedScope "A" (.obj (described "*/ x")) = .ok d ∧
      d.code = "/**\n * A thing.\n */\n" ++
        "export type A = \x7b\n  /** */ x */\n  a?: unknown;\n\x7d;") ∧
    Comment.behind? "/** */ x */".toList = some " x */".toList := by
  have htext : Comment.ofProperty? (some (.str "*/ x")) = some "*/ x" := rfl
  have htypes : (describedScope.propertiesOf ["A"] []
      [("a", .obj [("description", .str "*/ x")])]).result =
        .ok [(⟨some "*/ x", "a", true⟩, .unknown)] := by cbv
  obtain ⟨d, hd, hcode, -, hline⟩ := exists_declareSchema_described htext htypes
  refine ⟨fun h => ?_, ⟨d, hd, hcode⟩, by decide⟩
  have hstands := Note.stands_iff.2 (hline.within hd)
  exact hstands.closes_iff.1 (h _ _ _ _ _ hd hline) (by decide)

end ApiTypes
