/-
  Responses of documents of the older dialect.

  A response of such a document states its schema itself.  It stands in the operation, or
  among the responses that operations share, where the operation refers to it
  (`statedResponse?`).  The schema is moved into the response's JSON content, in both
  places, and is found there when the endpoint is made.

  * `schema?_convertResponse`, `response?_convertResponse`: one response, converted;
  * `Operation.Converted.declaresResponses`: the schemas that an operation states are
    declared, status by status;
  * `responses_of_normalize`: what the endpoints of a document declare for their responses.
-/
import ApiTypes.Proofs.OlderDocuments

namespace ApiTypes

open Json (Value)

/-! ## Responses that are stated -/

/-- The responses that an operation lists, by their status. -/
def listedResponses (fields : List (String × Value)) : List (String × Value) :=
  ((Entries.get? fields "responses").bind Value.fields?).getD []

/-- The responses that the operations of a document share. -/
def sharedResponses (document : Value) : List (String × Value) :=
  ((document.field? "responses").bind Value.fields?).getD []

/-- What a response says: it speaks for itself, or refers to a shared one. -/
def statedResponse? (document response : Value) : Option Value :=
  match reference? response with
  | none => some response
  | some reference =>
    ((sharedResponses document).find? fun (key, _) => reference = "#/responses/" ++ key).map (·.2)

/-- The schema of a response that is no reference, if it is an object. -/
def responseSchema? (response : Value) : Option (List (String × Value)) :=
  if (response.field? "$ref").isSome then none else objectSchema? response

/-- The schemas that an operation states for its responses, by their status.  A status that
    is listed twice counts once, for its last schema. -/
def statedSchemas (document : Value) (fields : List (String × Value)) :
    List (String × List (String × Value)) :=
  Entries.ofList ((listedResponses fields).filterMap fun (status, response) =>
    ((statedResponse? document response).bind responseSchema?).map fun schema => (status, schema))

/-- The responses of operations are those of the older dialect: none has a `content`, and
    references lead to shared responses. -/
structure ResponsesOlder (document : Value) (found : List Operation) : Prop where
  shared : ∀ e ∈ sharedResponses document, e.2.field? "content" = none
  listed : ∀ operation ∈ found, ∀ e ∈ listedResponses operation.fields,
    e.2.field? "content" = none
  references : ∀ operation ∈ found, ∀ e ∈ listedResponses operation.fields, ∀ reference,
    reference? e.2 = some reference → ∃ key, reference = "#/responses/" ++ key

/-! ## One response -/

/-- A reference stays one, and nothing becomes one. -/
theorem reference?_convertResponse (response : Value) :
    reference? (convertResponse response) = reference? response := by
  unfold convertResponse
  split
  · next fields =>
    split
    · rw [reference?, reference?, Value.field?, Value.field?, Entries.get?_set_of_ne (by decide),
        Entries.get?_filter_of_ne (by decide)]
    · rfl
  · rfl

/-- **The JSON schema of a converted response** is the one that the response states. -/
theorem schema?_convertResponse {fields : List (String × Value)}
    (hcontent : Entries.get? fields "content" = none) :
    Payload.schema? (convertResponse (.obj fields)) =
      .ok ((responseSchema? (.obj fields)).map .obj) := by
  have hnone : Payload.schema? (.obj fields) = .ok none := by
    rw [Payload.schema?, Document.get, hcontent]
    rfl
  rw [convertResponse, responseSchema?, objectSchema?, Value.field?, Value.field?]
  by_cases href : (Entries.get? fields "$ref").isSome
  · rw [Entries.has, href, if_pos rfl]
    exact hnone
  · rw [Entries.has, Bool.eq_false_iff.2 href, if_neg Bool.false_ne_true]
    cases hschema : Entries.get? fields "schema" with
    | none => exact hnone
    | some schema =>
      rw [Payload.schema?, Document.get, Entries.get?_set_self]
      cases schema <;> rfl

theorem exists_convertResponse_eq (fields : List (String × Value)) :
    ∃ members, convertResponse (.obj fields) = .obj members := by
  rw [convertResponse]
  split
  · exact ⟨_, rfl⟩
  · exact ⟨fields, rfl⟩

/-- A response that is an object, converted. -/
def convertedObject? : Option Value → Option Value
  | some (.obj fields) => some (convertResponse (.obj fields))
  | _ => none

/-- The shared response that a reference names. -/
theorem find?_shared (entries : List (String × Value)) (key : String) :
    (entries.find? fun (k, _) => "#/responses/" ++ key = "#/responses/" ++ k).map (·.2) =
      Entries.get? entries key := by
  induction entries with
  | nil => rfl
  | cons e rest ih =>
    obtain ⟨k, v⟩ := e
    rw [List.find?_cons, Entries.get?]
    by_cases hk : k = key
    · simp [hk]
    · simpa [hk, Ne.symm hk] using ih

section

variable {document normal : Value} (hdialect : Dialect.of? document = some .swagger)
  (h : normalize document = .ok normal)

include hdialect h

/-- The shared responses of the normal form are those of the document, converted. -/
theorem components_responses_of_normalize :
    components normal .responses =
      .ok ((sharedResponses document).map fun (key, r) => (key, convertResponse r)) := by
  obtain ⟨paths, converted, responses, info, schemas, parameters, tags, -, -, hresponses, rfl⟩ :=
    exists_normalForm_of_normalize hdialect h
  rw [sharedResponses, ← eq_of_getFields hresponses]
  cases responses <;> rfl

/-- A reference to a shared response leads to it, converted. -/
theorem resolve_shared (key : String) : resolve normal ("#/responses/" ++ key) =
    .ok (convertedObject? (Entries.get? (sharedResponses document) key)) := by
  have hpointer : Pointer.ofText? ("#/responses/" ++ key) =
      some ⟨.responses, Text.split '/' key⟩ := by
    have hlist : ("#/responses/" ++ key).toList =
        "#".toList ++ '/' :: ("responses".toList ++ '/' :: key.toList) := by
      rw [String.toList_append]
      rfl
    have hsplit : Text.split '/' ("#/responses/" ++ key) =
        "#" :: "responses" :: Text.split '/' key := by
      rw [Text.split, hlist, List.splitOn_append_cons_self, List.splitOn_append_cons_self]
      rfl
    obtain ⟨first, rest, hkey⟩ := List.exists_cons_of_ne_nil (Text.split_ne_nil '/' key)
    rw [Pointer.ofText?, hsplit, hkey]
    rfl
  have hkey : Pointer.key ⟨.responses, Text.split '/' key⟩ = key := Text.join_split '/' key
  rw [resolve, hpointer]
  dsimp only
  rw [components_responses_of_normalize hdialect h, hkey]
  refine Steps.bind_eq_ok.2 ⟨_, rfl, ?_⟩
  rw [Entries.get?_map]
  cases Entries.get? (sharedResponses document) key with
  | none => rfl
  | some r =>
    cases r with
    | obj fields =>
      obtain ⟨members, hmembers⟩ := exists_convertResponse_eq fields
      rw [Option.map_some, convertedObject?, hmembers]
      rfl
    | _ => rfl

/-- **One response, converted.**  It leads to what the response says, converted. -/
theorem response?_convertResponse {scope : Scope} (hdocument : scope.document = normal)
    {response : Value}
    (hreference : ∀ reference, reference? response = some reference →
      ∃ key, reference = "#/responses/" ++ key) :
    Payload.response? scope (convertResponse response) =
      .ok (convertedObject? (statedResponse? document response)) := by
  rw [Payload.response?.eq_def, reference?_convertResponse, statedResponse?]
  cases href : reference? response with
  | none =>
    cases response with
    | obj fields =>
      obtain ⟨members, hmembers⟩ := exists_convertResponse_eq fields
      simp only [convertedObject?, hmembers]
    | _ => rfl
  | some reference =>
    obtain ⟨key, rfl⟩ := hreference reference href
    dsimp only
    rw [hdocument, resolve_shared hdialect h, find?_shared]

end

/-! ## Entries in step -/

section

variable {α β : Type} {R : α → β → Prop} {as : List (String × α)} {bs : List (String × β)}

/-- Entries under the same keys stay in step when both get one under the same key. -/
theorem forall₂_set (h : List.Forall₂ (fun a b => b.1 = a.1 ∧ R a.2 b.2) as bs) (key : String)
    {a : α} {b : β} (hab : R a b) :
    List.Forall₂ (fun a b => b.1 = a.1 ∧ R a.2 b.2) (Entries.set as key a)
      (Entries.set bs key b) := by
  induction h with
  | nil => exact .cons ⟨rfl, hab⟩ .nil
  | @cons first second as bs hfirst hrest ih =>
    obtain ⟨k, v⟩ := first
    obtain ⟨k', w⟩ := second
    obtain ⟨rfl, hvw⟩ : k' = k ∧ R v w := hfirst
    rw [Entries.set, Entries.set]
    by_cases hk : k' = key
    · rw [if_pos hk, if_pos hk]
      exact .cons ⟨rfl, hab⟩ hrest
    · rw [if_neg hk, if_neg hk]
      exact .cons ⟨rfl, hvw⟩ ih

/-- Entries under the same keys stay in step when repeated keys are merged. -/
theorem forall₂_ofList (h : List.Forall₂ (fun a b => b.1 = a.1 ∧ R a.2 b.2) as bs) :
    List.Forall₂ (fun a b => b.1 = a.1 ∧ R a.2 b.2) (Entries.ofList as) (Entries.ofList bs) := by
  refine List.rel_foldl ?_ .nil h
  rintro written written' hwritten ⟨k, v⟩ ⟨k', w⟩ ⟨hk, hvw⟩
  obtain rfl : k' = k := hk
  exact forall₂_set hwritten k' hvw

end

/-! ## Operations -/

/-- The responses of an operation are declared if each of them can be. -/
theorem Payload.exists_responses_eq_ok {scope : Scope} {operation : Value} {name : String}
    {entries : List (String × Value)}
    (hentries : Document.getFields operation "responses" = .ok entries)
    (h : ∀ e ∈ entries, ∃ stated, response? scope e.2 = .ok stated ∧ ∀ r, stated = some r →
      ∃ found, declare? scope r (name ++ "_" ++ e.1 ++ "Response") = .ok found) :
    ∃ declared, responses scope operation name = .ok declared := by
  refine Steps.exists_bind_eq_ok ⟨entries, hentries⟩ fun listed hlisted => ?_
  obtain rfl := Except.ok.inj (hentries.symm.trans hlisted)
  refine Steps.exists_bind_eq_ok (Steps.exists_filterMapM_eq_ok fun e he => ?_)
    fun declared _ => ⟨_, rfl⟩
  obtain ⟨stated, hstated, hdeclare⟩ := h e he
  cases stated with
  | none => exact ⟨none, Steps.bind_eq_ok.2 ⟨none, hstated, rfl⟩⟩
  | some r =>
    obtain ⟨found, hfound⟩ := hdeclare r rfl
    exact ⟨_, Steps.bind_eq_ok.2 ⟨some r, hstated, Steps.bind_eq_ok.2 ⟨found, hfound, rfl⟩⟩⟩

/-- Members are added to an operation, and its responses are converted. -/
theorem listedResponses_of_get?_eq {fields members : List (String × Value)}
    (h : Entries.get? members "responses" = Entries.get? fields "responses") :
    listedResponses (match Entries.get? fields "responses" with
      | some (.obj responses) => Entries.set members "responses"
          (.obj (responses.map fun (status, r) => (status, convertResponse r)))
      | _ => members) =
      (listedResponses fields).map fun (status, r) => (status, convertResponse r) := by
  unfold listedResponses
  split
  · next responses hget =>
    rw [Entries.get?_set_self, hget]
    rfl
  · next hother =>
    rw [h]
    cases hget : Entries.get? fields "responses" with
    | none => rfl
    | some v =>
      cases v with
      | obj responses => exact absurd hget (hother responses)
      | _ => rfl

/-- The responses of a converted operation are its own, converted. -/
theorem listedResponses_of_convertOperation {fields converted : List (String × Value)}
    (h : convertOperation fields = .ok converted) :
    listedResponses converted =
      (listedResponses fields).map fun (status, r) => (status, convertResponse r) := by
  obtain ⟨parameters, -, h⟩ := Steps.bind_eq_ok.1 h
  obtain rfl := Except.ok.inj h
  apply listedResponses_of_get?_eq
  cases (parameters.find? isBodyParameter).bind requestBody? with
  | none => rfl
  | some body =>
    exact (Entries.get?_set_of_ne (by decide)).trans (Entries.get?_set_of_ne (by decide))

section

variable {document normal : Value} (hdialect : Dialect.of? document = some .swagger)
  (h : normalize document = .ok normal) {scope : Scope} (hdocument : scope.document = normal)
  {found : List Operation} (holder : ResponsesOlder document found)

include holder

/-- What a response says has no content. -/
theorem ResponsesOlder.get?_content {operation : Operation} (hmem : operation ∈ found)
    {e : String × Value} (he : e ∈ listedResponses operation.fields)
    {fields : List (String × Value)} (hstated : statedResponse? document e.2 = some (.obj fields)) :
    Entries.get? fields "content" = none := by
  rw [statedResponse?] at hstated
  cases href : reference? e.2 with
  | none =>
    rw [href] at hstated
    have hlisted := holder.listed operation hmem e he
    rwa [Option.some.inj hstated] at hlisted
  | some reference =>
    obtain ⟨key, rfl⟩ := holder.references operation hmem e he reference href
    rw [href] at hstated
    dsimp only at hstated
    rw [find?_shared] at hstated
    exact holder.shared _ (Entries.mem_of_get? hstated)

include hdialect h hdocument

/-- What is declared for a response that an operation lists: the schema that is stated. -/
theorem ResponsesOlder.declared_of_step {operation : Operation} (hmem : operation ∈ found)
    {status : String} {r : Value} (he : (status, r) ∈ listedResponses operation.fields)
    {name : String} {declared : Option (String × Declaration)}
    (hstep : (do
      match ← Payload.response? scope (convertResponse r) with
      | none => return none
      | some response =>
        return (← Payload.declare? scope response (name ++ "_" ++ status ++ "Response")).map
          fun declaration => (status, declaration)) = .ok declared) :
    Option.Rel (fun stated declared => declared.1 = stated.1 ∧
        declared.2.IsOf scope (.obj stated.2))
      (((statedResponse? document r).bind responseSchema?).map fun schema => (status, schema))
      declared := by
  obtain ⟨found, hfound, hstep⟩ := Steps.bind_eq_ok.1 hstep
  rw [response?_convertResponse hdialect h hdocument (holder.references _ hmem _ he)] at hfound
  obtain rfl := Except.ok.inj hfound
  cases hstated : statedResponse? document r with
  | none =>
    rw [hstated] at hstep
    obtain rfl := Except.ok.inj hstep
    exact .none
  | some stated =>
    rw [hstated] at hstep
    cases stated with
    | obj fields =>
      obtain ⟨declaration, hdeclaration, hstep⟩ := Steps.bind_eq_ok.1 hstep
      obtain rfl := Except.ok.inj hstep
      have hschema := schema?_convertResponse (holder.get?_content hmem he hstated)
      have hrel := Payload.declare?_isOf hschema hdeclaration
      rw [Option.bind_some]
      generalize responseSchema? (.obj fields) = schema at hrel
      cases schema with
      | none =>
        cases hrel
        exact .none
      | some s =>
        cases hrel with
        | some hof => exact .some ⟨rfl, hof⟩
    | _ =>
      obtain rfl := Except.ok.inj hstep
      exact .none

/-- **The responses of an operation.**  The schemas that it states for them are declared,
    status by status, and nothing else is. -/
theorem Operation.Converted.declaresResponses {before after : Operation}
    (hop : before.Converted after) (hmem : before ∈ found) {pairs : Nat} {name : String}
    {e : Endpoint} (he : Endpoint.ofOperation scope pairs after name = .ok e) :
    List.Forall₂ (fun stated declared => declared.1 = stated.1 ∧
        declared.2.IsOf scope (.obj stated.2))
      (statedSchemas document before.fields) e.responses := by
  obtain ⟨-, -, -, -, hresponses⟩ := Endpoint.ofOperation_spec he
  obtain ⟨entries, hentries, hresponses⟩ := Steps.bind_eq_ok.1 hresponses
  obtain ⟨declared, hdeclared, hresponses⟩ := Steps.bind_eq_ok.1 hresponses
  rw [← Except.ok.inj hresponses]
  obtain rfl : entries = (listedResponses before.fields).map
      fun (status, r) => (status, convertResponse r) := by
    rw [← listedResponses_of_convertOperation hop.fields]
    exact eq_of_getFields hentries
  refine forall₂_ofList (R := fun schema (d : Declaration) => d.IsOf scope (.obj schema)) ?_
  have hconverted : List.Forall₂ (fun e e' => e ∈ listedResponses before.fields ∧
      e' = (e.1, convertResponse e.2)) (listedResponses before.fields)
      ((listedResponses before.fields).map fun (status, r) => (status, convertResponse r)) :=
    List.forall₂_map_right_iff.2 (List.forall₂_same.2 fun e he => ⟨he, rfl⟩)
  refine Steps.forall₂_filterMapM hconverted ?_ hdeclared
  rintro ⟨status, r⟩ _ found ⟨hlisted, rfl⟩ hstep
  exact holder.declared_of_step hdialect h hdocument hmem hlisted hstep

end

/-- **Responses of an older document.**  Its endpoints belong to its operations.  An endpoint
    declares a type for exactly those responses of its operation for which an object schema
    is stated, in order: by the response itself, or by the shared response that it refers
    to.  The type is the one that is written for that schema. -/
theorem responses_of_normalize {document normal skip : Value} {scope : Scope}
    {endpoints : List Endpoint} {found : List Operation}
    (hdialect : Dialect.of? document = some .swagger) (hnormal : normalize document = .ok normal)
    (hscope : Scope.ofDocument normal = .ok scope) (h : endpointsOf scope skip = .ok endpoints)
    (hfound : operations document = .ok found) (holder : ResponsesOlder document found) :
    List.Forall₂ (fun operation e => (e.path, e.method) = (operation.path, operation.method) ∧
      List.Forall₂ (fun stated declared => declared.1 = stated.1 ∧
          declared.2.IsOf scope (.obj stated.2))
        (statedSchemas document operation.fields) e.responses) found endpoints := by
  obtain ⟨found', pairs, hfound', hall⟩ := exists_endpoints_of_normalize hdialect hnormal hscope h
  obtain rfl := Except.ok.inj (hfound.symm.trans hfound')
  have hmem := (List.forall₂_and_left found endpoints).2 ⟨fun _ hoperation => hoperation, hall⟩
  refine hmem.imp ?_
  rintro operation e ⟨hoperation, converted, hop, name, he⟩
  constructor
  · rw [Endpoint.ofOperation_key he, hop.path, hop.method]
  · exact hop.declaresResponses hdialect hnormal (Generation.scope_document hscope) holder
      hoperation he

/-- A schema for texts, and one for truth values. -/
def textSchema : List (String × Value) := [("type", .str "string")]

def truthSchema : List (String × Value) := [("type", .str "boolean")]

/-- Responses of all kinds: with a schema, by reference to one with a schema, by reference to
    none, and without a schema. -/
def answers : List (String × Value) :=
  [("200", .obj [("schema", .obj textSchema)]),
    ("500", .obj [("$ref", .str "#/responses/Error")]),
    ("404", .obj [("$ref", .str "#/responses/Missing")]),
    ("204", .obj [("description", .str "empty")])]

/-- An operation with the responses. -/
def answeringOperation : Operation :=
  let fields := [("responses", .obj answers)]
  ⟨"/a", "get", [("get", .obj fields)], fields⟩

/-- A document with the operation. -/
def answeringDocument : Value :=
  .obj [("swagger", .str "2.0"), ("paths", .obj [("/a", .obj answeringOperation.pathItem)]),
    ("responses", .obj [("Error", .obj [("schema", .obj truthSchema)])])]

/-- The operation, converted. -/
def answeringConverted : Operation :=
  let fields := [("responses",
    .obj (("200", .obj [("content", jsonContent (.obj textSchema))]) :: answers.tail))]
  ⟨"/a", "get", [("get", .obj fields)], fields⟩

/-- The normal form of the document. -/
def answeringNormal : Value :=
  normalForm (.str "3.0.0") (.obj []) (.obj [("/a", .obj answeringConverted.pathItem)]) (.obj [])
    (.obj []) (.obj [("Error", .obj [("content", jsonContent (.obj truthSchema))])]) (.arr [])

/-- The scope of the normal form. -/
def answeringScope : Scope := ⟨answeringNormal, ⟨[]⟩⟩

theorem exists_declare?_answering {schema : List (String × Value)} {t : TypeExpr}
    (htype : (answeringScope.typeByName [] (.obj schema)).result = .ok t) (name : String) :
    ∃ found, Payload.declare? answeringScope (.obj [("content", jsonContent (.obj schema))]) name =
      .ok found := by
  have hcomponents (kind : ComponentKind) :
      ∃ entries, components answeringScope.document kind = .ok entries := by
    cases kind <;> exact ⟨_, rfl⟩
  obtain ⟨d, hd, -⟩ : ∃ d, declarePayload answeringScope name (.obj schema) none = .ok d ∧
      d.name = name := exists_declarePayload_eq_ok hcomponents htype
  exact ⟨some d, Steps.bind_eq_ok.2 ⟨some (.obj schema), rfl, Steps.bind_eq_ok.2 ⟨d, hd, rfl⟩⟩⟩

theorem exists_endpoint_answering (name : String) :
    ∃ e, Endpoint.ofOperation answeringScope 0 answeringConverted name = .ok e := by
  have hresponses : ∃ declared,
      Payload.responses answeringScope (.obj answeringConverted.fields) name = .ok declared := by
    have htext (scope : Scope) : (scope.typeByName [] (.obj textSchema)).result =
        .ok (.keyword .string) := by cbv
    have htruth (scope : Scope) : (scope.typeByName [] (.obj truthSchema)).result =
        .ok (.keyword .boolean) := by cbv
    have herror : resolve answeringScope.document "#/responses/Error" =
        .ok (some (.obj [("content", jsonContent (.obj truthSchema))])) := rfl
    have hmissing : resolve answeringScope.document "#/responses/Missing" = .ok none := rfl
    refine Payload.exists_responses_eq_ok rfl fun e he => ?_
    simp only [answers, List.tail_cons, List.mem_cons, List.not_mem_nil, or_false] at he
    rcases he with rfl | rfl | rfl | rfl
    · exact ⟨_, rfl, fun r hr => Option.some.inj hr ▸ exists_declare?_answering (htext _) _⟩
    · exact ⟨_, herror, fun r hr => Option.some.inj hr ▸ exists_declare?_answering (htruth _) _⟩
    · exact ⟨none, hmissing, fun r hr => absurd hr (Option.some_ne_none r).symm⟩
    · exact ⟨_, rfl, fun r hr => ⟨none, Option.some.inj hr ▸ rfl⟩⟩
  obtain ⟨declared, hdeclared⟩ := hresponses
  exact ⟨_, Steps.bind_eq_ok.2 ⟨[], rfl, Steps.bind_eq_ok.2 ⟨_, rfl, Steps.bind_eq_ok.2 ⟨[], rfl,
    Steps.bind_eq_ok.2 ⟨none, rfl, Steps.bind_eq_ok.2 ⟨declared, hdeclared, rfl⟩⟩⟩⟩⟩⟩

/-- The two responses with a schema are declared. -/
theorem responses_of_normalize_answering :
    Dialect.of? answeringDocument = some .swagger ∧
    normalize answeringDocument = .ok answeringNormal ∧
    Scope.ofDocument answeringNormal = .ok answeringScope ∧
    operations answeringDocument = .ok [answeringOperation] ∧
    ResponsesOlder answeringDocument [answeringOperation] ∧
    ∃ endpoints, endpointsOf answeringScope (.int 0) = .ok endpoints ∧
      List.Forall₂ (fun path (e : Endpoint) => e.path = path ∧
        List.Forall₂ (fun stated declared => declared.1 = stated.1 ∧
            declared.2.IsOf answeringScope (.obj stated.2))
          [("200", textSchema), ("500", truthSchema)] e.responses) ["/a"] endpoints := by
  have hdialect : Dialect.of? answeringDocument = some .swagger := by decide
  have hnormal : normalize answeringDocument = .ok answeringNormal := rfl
  have hscope : Scope.ofDocument answeringNormal = .ok answeringScope := rfl
  have hfound : operations answeringDocument = .ok [answeringOperation] := by cbv
  have hconverted : operations answeringScope.document = .ok [answeringConverted] := rfl
  have holder : ResponsesOlder answeringDocument [answeringOperation] := by
    refine ⟨by decide, by decide, ?_⟩
    intro operation hoperation e he reference href
    obtain rfl := List.mem_singleton.1 hoperation
    have hlisted : e ∈ answers := he
    simp only [answers, List.mem_cons, List.not_mem_nil, or_false] at hlisted
    rcases hlisted with rfl | rfl | rfl | rfl
    · cases href
    · exact ⟨"Error", (Option.some.inj href).symm⟩
    · exact ⟨"Missing", (Option.some.inj href).symm⟩
    · cases href
  obtain ⟨endpoints, h, -⟩ := Generation.exists_endpointsOf_eq_ok hconverted
    (List.forall_mem_singleton.2 exists_endpoint_answering)
  refine ⟨hdialect, hnormal, hscope, hfound, holder, endpoints, h, ?_⟩
  have hall := responses_of_normalize hdialect hnormal hscope h hfound holder
  have hstated : statedSchemas answeringDocument answeringOperation.fields =
      [("200", textSchema), ("500", truthSchema)] := rfl
  obtain _ | ⟨⟨hkey, hresponses⟩, hrest⟩ := hall
  cases hrest
  rw [hstated] at hresponses
  exact .cons ⟨(Prod.mk.inj hkey).1, hresponses⟩ .nil

end ApiTypes
