/-
  Request bodies of documents of the older dialect.

  The first body parameter that an operation lists itself becomes its request body, if its
  schema is an object (`bodySchema?`); all other body parameters are lost: those that come
  after it, those of the path, and those that are listed by a reference.

  * `get?_requestBody_of_convertOperation`: the request body of a converted operation;
  * `Operation.Converted.declaresBody`: the schema of the body parameter is declared;
  * `requestBodies_of_normalize`: which schemas the endpoints of a document declare for
    their request bodies.
-/
import ApiTypes.Proofs.OlderDocuments

namespace ApiTypes

open Json (Value)

/-! ## Parameters that are listed -/

/-- The parameters that the entry of a path or an operation lists itself. -/
def listedParameters (fields : List (String × Value)) : List Value :=
  ((Entries.get? fields "parameters").bind Value.items?).getD []

/-- The schema that an operation states for its body: that of the first body parameter
    that it lists itself, if it is an object. -/
def bodySchema? (fields : List (String × Value)) : Option (List (String × Value)) :=
  ((listedParameters fields).find? isBodyParameter).bind objectSchema?

/-- Among the elements of a value, only the items of a list can be body parameters. -/
theorem find?_isBodyParameter {fields : List (String × Value)} {elements : List Value}
    (h : Document.elementsOf (Entries.get? fields "parameters") = .ok elements) :
    elements.find? isBodyParameter = (listedParameters fields).find? isBodyParameter := by
  have htexts {α : Type} (as : List α) (text : α → String) :
      (as.map fun a => Value.str (text a)).find? isBodyParameter = none := by
    refine List.find?_eq_none.2 fun p hp => ?_
    obtain ⟨a, -, rfl⟩ := List.mem_map.1 hp
    exact Bool.false_ne_true
  unfold Document.elementsOf Json.given? at h
  rw [listedParameters]
  cases hget : Entries.get? fields "parameters" with
  | none =>
    rw [hget] at h
    obtain rfl : [] = elements := Except.ok.inj h
    rfl
  | some v =>
    rw [hget] at h
    dsimp only at h
    by_cases hempty : v.isEmpty = true
    · rw [if_pos hempty] at h
      obtain rfl : [] = elements := Except.ok.inj h
      cases v with
      | arr items =>
        obtain rfl : items = [] := List.isEmpty_iff.1 hempty
        rfl
      | _ => rfl
    · rw [if_neg hempty] at h
      cases v with
      | arr items =>
        obtain rfl : items = elements := Except.ok.inj h
        rfl
      | str s =>
        obtain rfl := Except.ok.inj h
        exact htexts _ _
      | obj members =>
        obtain rfl := Except.ok.inj h
        exact htexts _ _
      | _ => cases h

/-! ## Conversion -/

/-- The request body of a converted operation: that of the body parameter, or else the one
    that was there. -/
theorem get?_requestBody_of_convertOperation {fields converted : List (String × Value)}
    (h : convertOperation fields = .ok converted) :
    Entries.get? converted "requestBody" =
      (((listedParameters fields).find? isBodyParameter).bind requestBody?).or
        (Entries.get? fields "requestBody") := by
  obtain ⟨parameters, hparameters, h⟩ := Steps.bind_eq_ok.1 h
  obtain rfl := Except.ok.inj h
  rw [find?_isBodyParameter hparameters]
  have hresponses (members : List (String × Value)) (v : Value) :
      Entries.get? (Entries.set members "responses" v) "requestBody" =
        Entries.get? members "requestBody" := Entries.get?_set_of_ne (by decide)
  cases ((listedParameters fields).find? isBodyParameter).bind requestBody? with
  | none =>
    dsimp only
    split
    · rw [hresponses]; rfl
    · rfl
  | some body =>
    dsimp only
    split
    · rw [hresponses, Entries.get?_set_self]; rfl
    · rw [Entries.get?_set_self]; rfl

/-- The request body made of a parameter: its content is the schema. -/
theorem exists_requestBody?_eq_some {p : Value} {schema : List (String × Value)}
    (h : objectSchema? p = some schema) :
    ∃ members, requestBody? p = some (.obj members) ∧ reference? (.obj members) = none ∧
      Entries.get? members "content" = some (jsonContent (.obj schema)) := by
  obtain ⟨v, hv, hschema⟩ := Option.bind_eq_some_iff.1 h
  cases v with
  | obj fields =>
    obtain rfl : fields = schema := Option.some.inj hschema
    rw [requestBody?, hv]
    refine ⟨_, rfl, ?_, rfl⟩
    cases Json.given? (p.field? "description") <;> rfl
  | _ => cases hschema

theorem requestBody?_eq_none {p : Value} (h : objectSchema? p = none) : requestBody? p = none := by
  rw [requestBody?]
  split
  · next fields hget =>
    rw [objectSchema?, hget] at h
    cases h
  · rfl

/-! ## Declarations -/

/-- An endpoint declares a type for its request body: that of the schema. -/
def Endpoint.DeclaresBody (e : Endpoint) (scope : Scope) (schema : Value) : Prop :=
  ∃ d t, e.requestBody = some d ∧ d.type = some t ∧ scope.textByName schema = .ok t.text

/-- What is declared for a request body with an object schema as its content. -/
theorem exists_of_requestBody?_eq_ok {scope : Scope} {fields members : List (String × Value)}
    {schema : List (String × Value)} {name : String} {found : Option Declaration}
    (hbody : Entries.get? fields "requestBody" = some (.obj members))
    (hreference : reference? (.obj members) = none)
    (hcontent : Entries.get? members "content" = some (jsonContent (.obj schema)))
    (h : Payload.requestBody? scope (.obj fields) name = .ok found) :
    ∃ d, found = some d ∧ d.IsOf scope (.obj schema) := by
  have hschema : Payload.schema? (.obj members) = .ok (some (.obj schema)) := by
    rw [Payload.schema?, Document.get, hcontent]
    rfl
  obtain ⟨body, hget, h⟩ := Steps.bind_eq_ok.1 h
  obtain rfl : some (.obj members) = body := hbody ▸ Except.ok.inj hget
  dsimp only at h
  rw [hreference] at h
  cases Payload.declare?_isOf hschema h with
  | some hof => exact ⟨_, rfl, hof⟩

/-- The declaration for a request body depends on the operation's member only. -/
theorem Payload.requestBody?_congr {scope : Scope} {fields others : List (String × Value)}
    (h : Entries.get? fields "requestBody" = Entries.get? others "requestBody") (name : String) :
    requestBody? scope (.obj fields) name = requestBody? scope (.obj others) name := by
  rw [requestBody?, requestBody?, Document.get, Document.get, h]

section

variable {scope : Scope} {pairs : Nat} {before after : Operation} {name : String} {e : Endpoint}

/-- The schema that an operation states for its body is declared. -/
theorem Operation.Converted.declaresBody (hop : before.Converted after)
    (he : Endpoint.ofOperation scope pairs after name = .ok e) {schema : List (String × Value)}
    (h : bodySchema? before.fields = some schema) : e.DeclaresBody scope (.obj schema) := by
  obtain ⟨p, hp, hschema⟩ := Option.bind_eq_some_iff.1 h
  obtain ⟨members, hmembers, hreference, hcontent⟩ := exists_requestBody?_eq_some hschema
  have hbody : Entries.get? after.fields "requestBody" = some (.obj members) := by
    rw [get?_requestBody_of_convertOperation hop.fields, hp, Option.bind_some, hmembers]
    rfl
  obtain ⟨-, -, -, hrequest, -⟩ := Endpoint.ofOperation_spec he
  obtain ⟨d, hd, t, ht, htext⟩ := exists_of_requestBody?_eq_ok hbody hreference hcontent hrequest
  exact ⟨d, t, hd, ht, htext⟩

/-- If there is none, the operation's own request body is declared, if it has one. -/
theorem Operation.Converted.requestBody?_eq_ok (hop : before.Converted after)
    (he : Endpoint.ofOperation scope pairs after name = .ok e)
    (h : bodySchema? before.fields = none) :
    Payload.requestBody? scope (.obj before.fields) e.name = .ok e.requestBody := by
  obtain ⟨rfl, -, -, hrequest, -⟩ := Endpoint.ofOperation_spec he
  rw [← hrequest]
  refine Payload.requestBody?_congr ?_ _
  rw [get?_requestBody_of_convertOperation hop.fields]
  cases hp : (listedParameters before.fields).find? isBodyParameter with
  | none => rfl
  | some p =>
    rw [bodySchema?, hp] at h
    rw [Option.bind_some, requestBody?_eq_none h]
    rfl

/-- Without a request body of its own, an operation declares the type that is written for
    the schema of its body parameter, and nothing else. -/
theorem Operation.Converted.declaresBody_iff (hop : before.Converted after)
    (he : Endpoint.ofOperation scope pairs after name = .ok e)
    (hown : Entries.get? before.fields "requestBody" = none) (schema : Value) :
    e.DeclaresBody scope schema ↔ ∃ stated text, bodySchema? before.fields = some stated ∧
      scope.textByName (.obj stated) = .ok text ∧ scope.textByName schema = .ok text := by
  constructor
  · rintro ⟨d, t, hd, ht, htext⟩
    cases hstated : bodySchema? before.fields with
    | none =>
      have hrequest := hop.requestBody?_eq_ok he hstated
      rw [Payload.requestBody?, Document.get, hown, hd] at hrequest
      cases hrequest
    | some stated =>
      obtain ⟨d', t', hd', ht', htext'⟩ := hop.declaresBody he hstated
      obtain rfl := Option.some.inj (hd.symm.trans hd')
      obtain rfl := Option.some.inj (ht.symm.trans ht')
      exact ⟨stated, _, rfl, htext', htext⟩
  · rintro ⟨stated, text, hstated, htext, hschema⟩
    obtain ⟨d, t, hd, ht, htext'⟩ := hop.declaresBody he hstated
    obtain rfl := Except.ok.inj (htext.symm.trans htext')
    exact ⟨d, t, hd, ht, hschema⟩

end

/-- **Request bodies of an older document.**  Its endpoints belong to its operations.  The
    schema of the first body parameter that an operation lists itself is declared for the
    endpoint's request body; if there is none, or if it is no object, what is declared is
    made of the operation's own `requestBody`.  Without one, a schema is declared exactly if
    the same type is written for that of the first body parameter: no other parameter has a
    say, wherever it stands. -/
theorem requestBodies_of_normalize {document normal skip : Value} {scope : Scope}
    {endpoints : List Endpoint} (hdialect : Dialect.of? document = some .swagger)
    (hnormal : normalize document = .ok normal) (hscope : Scope.ofDocument normal = .ok scope)
    (h : endpointsOf scope skip = .ok endpoints) :
    ∃ found, operations document = .ok found ∧ List.Forall₂ (fun operation e =>
      (e.path, e.method) = (operation.path, operation.method) ∧
      (∀ schema, bodySchema? operation.fields = some schema →
        e.DeclaresBody scope (.obj schema)) ∧
      (bodySchema? operation.fields = none →
        Payload.requestBody? scope (.obj operation.fields) e.name = .ok e.requestBody) ∧
      (Entries.get? operation.fields "requestBody" = none → ∀ schema,
        e.DeclaresBody scope schema ↔ ∃ stated text, bodySchema? operation.fields = some stated ∧
          scope.textByName (.obj stated) = .ok text ∧ scope.textByName schema = .ok text))
      found endpoints := by
  obtain ⟨found, pairs, hfound, hall⟩ := exists_endpoints_of_normalize hdialect hnormal hscope h
  refine ⟨found, hfound, hall.imp ?_⟩
  rintro operation e ⟨converted, hop, name, he⟩
  refine ⟨?_, fun schema => hop.declaresBody he, hop.requestBody?_eq_ok he,
    hop.declaresBody_iff he⟩
  rw [Endpoint.ofOperation_key he, hop.path, hop.method]

/-! ## Two documents -/

/-- A body parameter with a text. -/
def textBody : Value :=
  .obj [("name", .str "b"), ("in", .str "body"), ("schema", .obj [("type", .str "string")])]

/-- An operation that lists the parameter. -/
def postingItem : List (String × Value) := [("post", .obj [("parameters", .arr [textBody])])]

/-- A document with the operation. -/
def postingDocument : Value :=
  .obj [("swagger", .str "2.0"), ("paths", .obj [("/a", .obj postingItem)])]

/-- The operation, converted. -/
def postingOperation : Operation :=
  let fields := [("parameters", .arr []), ("requestBody", .obj [("required", .bool false),
    ("content", jsonContent (.obj [("type", .str "string")]))])]
  ⟨"/a", "post", [("post", .obj fields)], fields⟩

/-- The normal form of the document. -/
def postingNormal : Value :=
  normalForm (.str "3.0.0") (.obj []) (.obj [("/a", .obj postingOperation.pathItem)]) (.obj [])
    (.obj []) (.obj []) (.arr [])

/-- The scope of the normal form. -/
def postingScope : Scope := ⟨postingNormal, ⟨[]⟩⟩

theorem exists_endpoint_posting (name : String) :
    ∃ e, Endpoint.ofOperation postingScope 0 postingOperation name = .ok e := by
  have hcomponents (kind : ComponentKind) :
      ∃ entries, components postingScope.document kind = .ok entries := by
    cases kind <;> exact ⟨_, by cbv⟩
  have htype : (postingScope.typeByName [] (.obj [("type", .str "string")])).result =
      .ok (.keyword .string) := by cbv
  obtain ⟨d, hd, -⟩ : ∃ d, declarePayload postingScope (name ++ "_RequestBody")
      (.obj [("type", .str "string")]) none = .ok d ∧ d.name = name ++ "_RequestBody" :=
    exists_declarePayload_eq_ok hcomponents htype
  have hbody : Payload.requestBody? postingScope (.obj postingOperation.fields) name =
      .ok (some d) :=
    Steps.bind_eq_ok.2 ⟨_, rfl, Steps.bind_eq_ok.2 ⟨_, rfl, Steps.bind_eq_ok.2 ⟨d, hd, rfl⟩⟩⟩
  exact ⟨_, Steps.bind_eq_ok.2 ⟨[], rfl, Steps.bind_eq_ok.2 ⟨_, rfl, Steps.bind_eq_ok.2 ⟨[], rfl,
    Steps.bind_eq_ok.2 ⟨_, hbody, Steps.bind_eq_ok.2 ⟨[], rfl, rfl⟩⟩⟩⟩⟩⟩

/-- The body parameter of the operation is declared. -/
theorem requestBodies_of_normalize_posting :
    Dialect.of? postingDocument = some .swagger ∧ normalize postingDocument = .ok postingNormal ∧
    Scope.ofDocument postingNormal = .ok postingScope ∧
    ∃ endpoints, endpointsOf postingScope (.int 0) = .ok endpoints ∧
      List.Forall₂ (fun path (e : Endpoint) => e.path = path ∧
        e.DeclaresBody postingScope (.obj [("type", .str "string")])) ["/a"] endpoints := by
  have hdialect : Dialect.of? postingDocument = some .swagger := by decide
  have hnormal : normalize postingDocument = .ok postingNormal := by cbv
  have hscope : Scope.ofDocument postingNormal = .ok postingScope := rfl
  have hconverted : operations postingScope.document = .ok [postingOperation] := by cbv
  obtain ⟨endpoints, h, -⟩ := Generation.exists_endpointsOf_eq_ok hconverted
    (List.forall_mem_singleton.2 exists_endpoint_posting)
  refine ⟨hdialect, hnormal, hscope, endpoints, h, ?_⟩
  obtain ⟨found, hfound, hall⟩ := requestBodies_of_normalize hdialect hnormal hscope h
  have hoperations : operations postingDocument =
      .ok [⟨"/a", "post", postingItem, [("parameters", .arr [textBody])]⟩] := by cbv
  obtain rfl := Except.ok.inj (hoperations.symm.trans hfound)
  obtain _ | ⟨⟨hkey, hbody, -, -⟩, hrest⟩ := hall
  cases hrest
  exact .cons ⟨(Prod.mk.inj hkey).1, hbody _ rfl⟩ .nil

/-- A parameter that an operation receives: it is listed by the operation or by the entry of
    its path, itself or by a reference to one of the document's parameters. -/
inductive Operation.Receives (document : Value) (operation : Operation) (p : Value) : Prop
  | listed : p ∈ listedParameters operation.pathItem ++ listedParameters operation.fields →
      Receives document operation p
  | shared {reference : Value} {key : String} :
      reference ∈ listedParameters operation.pathItem ++ listedParameters operation.fields →
      reference? reference = some ("#/parameters/" ++ key) →
      (document.field? "parameters").bind (·.field? key) = some p →
      Receives document operation p

/-- The parameter, listed by a path for its operation. -/
def inheritingItem : List (String × Value) :=
  [("parameters", .arr [textBody]), ("post", .obj [])]

/-- A document with the path. -/
def inheritingDocument : Value :=
  .obj [("swagger", .str "2.0"), ("paths", .obj [("/a", .obj inheritingItem)])]

/-- Its operation. -/
def inheritingOperation : Operation := ⟨"/a", "post", inheritingItem, []⟩

/-- Its normal form: the operation stays as it is. -/
def inheritingNormal : Value :=
  normalForm (.str "3.0.0") (.obj []) (.obj [("/a", .obj inheritingItem)]) (.obj []) (.obj [])
    (.obj []) (.arr [])

/-- The scope of the normal form. -/
def inheritingScope : Scope := ⟨inheritingNormal, ⟨[]⟩⟩

/-- Not every body parameter is declared that an operation receives: one of the path is
    lost. -/
theorem not_declaresBody_of_receives : ¬ ∀ (document normal skip : Value) (scope : Scope)
    (endpoints : List Endpoint) (found : List Operation),
    Dialect.of? document = some .swagger → normalize document = .ok normal →
    Scope.ofDocument normal = .ok scope → endpointsOf scope skip = .ok endpoints →
    operations document = .ok found →
    List.Forall₂ (fun operation e => ∀ p schema, operation.Receives document p →
      isBodyParameter p = true → objectSchema? p = some schema →
      e.DeclaresBody scope (.obj schema)) found endpoints := by
  intro hclaim
  have hdialect : Dialect.of? inheritingDocument = some .swagger := by decide
  have hnormal : normalize inheritingDocument = .ok inheritingNormal := by cbv
  have hscope : Scope.ofDocument inheritingNormal = .ok inheritingScope := rfl
  have hfound : operations inheritingDocument = .ok [inheritingOperation] := by cbv
  have hconverted : operations inheritingScope.document = .ok [inheritingOperation] := by cbv
  obtain ⟨endpoints, h, -⟩ := Generation.exists_endpointsOf_eq_ok hconverted
    (List.forall_mem_singleton.2 fun name => ⟨_, rfl⟩)
  obtain ⟨found, pairs, hfound', hall⟩ := exists_endpoints_of_normalize hdialect hnormal hscope h
  obtain rfl := Except.ok.inj (hfound.symm.trans hfound')
  have hdeclared := hclaim _ _ _ _ _ _ hdialect hnormal hscope h hfound
  obtain _ | ⟨⟨converted, hop, name, he⟩, -⟩ := hall
  obtain _ | ⟨hdeclared, -⟩ := hdeclared
  have hlisted : textBody ∈ listedParameters inheritingItem ++ [] :=
    List.mem_append_left _ List.mem_cons_self
  obtain ⟨stated, -, hstated, -⟩ :=
    (hop.declaresBody_iff he rfl _).1 (hdeclared textBody _ (.listed hlisted) rfl rfl)
  cases hstated

end ApiTypes
