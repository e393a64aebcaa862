/-
  Declarations depend on the names in their types.

  * `declareSchema_eq_ok_iff`, `declarePayload_eq_ok_iff`, `Endpoint.exists_of_ofOperation`: what
    declarations and endpoints are made of;
  * `Declaration.Declares`: the code of a declaration is a comment and its type
    under its name; `Declaration.Complete`: every name in that type is among the
    dependencies;
  * every declaration that is made for a document in which references of one name
    agree is complete: those of schemas (`declareSchema_complete`), of messages
    and of parameters, and so all of an endpoint (`Endpoint.complete`).
-/
import ApiTypes.Proofs.Dependencies

namespace ApiTypes

open Json (Value given?)

namespace Declaration

/-- The code of a declaration is a comment and its type under its name. -/
def Declares (d : Declaration) (t : TypeExpr) : Prop :=
  d.type = some t ∧ ∃ comment, d.code = comment ++ exportType d.name t

end Declaration

section

variable {scope : Scope} {name : String} {schema : Value} {d : Declaration}

/-! ## What is declared -/

namespace Parameter

/-- A declaration of parameters is made for those of one location. -/
theorem exists_of_mem_declareAll {parameters : List Value}
    {declared : List (Location × Declaration)} (h : declareAll scope parameters name = .ok declared)
    {p : Location × Declaration} (hp : p ∈ declared) :
    declare scope (parameters.filter (isAt p.1)) (name ++ "_" ++ p.1.ending) = .ok p.2 := by
  obtain ⟨location, -, hlocation⟩ := Steps.exists_of_mem_filterMapM h hp
  split at hlocation
  · exact absurd (Except.ok.inj hlocation) nofun
  · obtain ⟨d, hd, hlocation⟩ := Steps.bind_eq_ok.1 hlocation
    obtain rfl := Option.some.inj (Except.ok.inj hlocation)
    exact hd

end Parameter

namespace Payload

/-- A message that is declared has a schema. -/
theorem exists_of_declare? {message : Value} (h : declare? scope message name = .ok (some d)) :
    ∃ schema, schema? message = .ok (some schema) ∧
      declarePayload scope name schema (message.field? "description") = .ok d := by
  obtain ⟨found, hfound, h⟩ := Steps.bind_eq_ok.1 h
  split at h
  · exact absurd (Except.ok.inj h) nofun
  · next schema =>
    obtain ⟨declared, hdeclared, h⟩ := Steps.bind_eq_ok.1 h
    obtain rfl := Option.some.inj (Except.ok.inj h)
    exact ⟨schema, hfound, hdeclared⟩

/-- A body that is declared stands in the operation. -/
theorem exists_of_requestBody? {operation : Value}
    (h : requestBody? scope operation name = .ok (some d)) :
    ∃ body, Document.get operation "requestBody" = .ok (some (.obj body)) ∧
      declare? scope (.obj body) (name ++ "_RequestBody") = .ok (some d) := by
  obtain ⟨found, hfound, h⟩ := Steps.bind_eq_ok.1 h
  split at h
  · next body =>
    split at h
    · exact absurd (Except.ok.inj h) nofun
    · exact ⟨body, hfound, h⟩
  · exact absurd (Except.ok.inj h) nofun

/-- A response that is declared is what an entry of the operation leads to. -/
theorem exists_of_mem_responses {operation : Value} {declared : List (String × Declaration)}
    (h : responses scope operation name = .ok declared) {r : String × Declaration}
    (hr : r ∈ declared) :
    ∃ entries entry message, Document.getFields operation "responses" = .ok entries ∧
      (r.1, entry) ∈ entries ∧ response? scope entry = .ok (some message) ∧
      declare? scope message (name ++ "_" ++ r.1 ++ "Response") = .ok (some r.2) := by
  obtain ⟨entries, hentries, h⟩ := Steps.bind_eq_ok.1 h
  obtain ⟨found, hfound, h⟩ := Steps.bind_eq_ok.1 h
  obtain rfl := Except.ok.inj h
  obtain ⟨⟨status, entry⟩, hmem, hstep⟩ :=
    Steps.exists_of_mem_filterMapM hfound (Entries.mem_of_mem_ofList hr)
  obtain ⟨found, hfound, hstep⟩ := Steps.bind_eq_ok.1 hstep
  split at hstep
  · exact absurd (Except.ok.inj hstep) nofun
  · next message =>
    obtain ⟨declaration, hdeclaration, hstep⟩ := Steps.bind_eq_ok.1 hstep
    obtain ⟨d, rfl, rfl⟩ := Option.map_eq_some_iff.1 (Except.ok.inj hstep)
    exact ⟨entries, entry, message, hentries, hmem, hfound, hdeclaration⟩

end Payload

/-! ## Schemas and messages -/

/-- What the type and the code of a schema are made of. -/
theorem Scope.declare_eq_ok_iff {t : TypeExpr} {code : String} :
    (scope.declare name schema).result = .ok (t, code) ↔
      ∃ resolved description comment, resolveSchema scope.document schema = .ok resolved ∧
        (scope.typeOf [name] resolved).result = .ok t ∧
        Document.get resolved "description" = .ok description ∧
        Comment.blockOf "" description = .ok comment ∧ code = comment ++ exportType name t := by
  constructor
  · intro h
    obtain ⟨resolved, hresolved, h⟩ := Outcome.bind_result_eq_ok.1 h
    obtain ⟨type, htype, h⟩ := Outcome.bind_result_eq_ok.1 h
    obtain ⟨description, hdescription, h⟩ := Outcome.bind_result_eq_ok.1 h
    obtain ⟨comment, hcomment, h⟩ := Outcome.bind_result_eq_ok.1 h
    obtain ⟨rfl, rfl⟩ := Prod.mk.inj (Except.ok.inj h)
    exact ⟨resolved, description, comment, hresolved, htype, hdescription, hcomment, rfl⟩
  · rintro ⟨resolved, description, comment, hresolved, htype, hdescription, hcomment, rfl⟩
    exact Outcome.bind_result_eq_ok.2 ⟨resolved, hresolved, Outcome.bind_result_eq_ok.2 ⟨t, htype,
      Outcome.bind_result_eq_ok.2 ⟨description, hdescription,
        Outcome.bind_result_eq_ok.2 ⟨comment, hcomment, rfl⟩⟩⟩⟩

theorem declareSchema_eq_ok_iff : declareSchema scope name schema = .ok d ↔
    ∃ type code referred, (scope.declare name schema).result = .ok (type, code) ∧
      dependencies scope.document schema = .ok referred ∧
      d = ⟨name, code, referred.union (.ofList (scope.declare name schema).matched),
        some type⟩ := by
  constructor
  · intro h
    obtain ⟨⟨type, code⟩, hdeclare, h⟩ := Steps.bind_eq_ok.1 h
    obtain ⟨referred, hreferred, h⟩ := Steps.bind_eq_ok.1 h
    exact ⟨type, code, referred, hdeclare, hreferred, (Except.ok.inj h).symm⟩
  · rintro ⟨type, code, referred, hdeclare, hreferred, rfl⟩
    exact Steps.bind_eq_ok.2 ⟨(type, code), hdeclare, Steps.bind_eq_ok.2 ⟨referred, hreferred, rfl⟩⟩

/-- What the declaration of a message is made of. -/
theorem declarePayload_eq_ok_iff {description : Option Value} :
    declarePayload scope name schema description = .ok d ↔
      ∃ type comment referred, (scope.typeByName [] schema).result = .ok type ∧
        Comment.blockOf "" description = .ok comment ∧
        dependencies scope.document schema = .ok referred ∧
        d = ⟨name, comment ++ exportType name type,
          referred.union (.ofList (scope.typeByName [] schema).matched), some type⟩ := by
  constructor
  · intro h
    obtain ⟨type, htype, h⟩ := Steps.bind_eq_ok.1 h
    obtain ⟨comment, hcomment, h⟩ := Steps.bind_eq_ok.1 h
    obtain ⟨referred, hreferred, h⟩ := Steps.bind_eq_ok.1 h
    exact ⟨type, comment, referred, htype, hcomment, hreferred, (Except.ok.inj h).symm⟩
  · rintro ⟨type, comment, referred, htype, hcomment, hreferred, rfl⟩
    exact Steps.bind_eq_ok.2 ⟨type, htype, Steps.bind_eq_ok.2 ⟨comment, hcomment,
      Steps.bind_eq_ok.2 ⟨referred, hreferred, rfl⟩⟩⟩

/-- A schema is written as what the schema behind it is written as. -/
theorem Scope.Writes.of_resolveSchema {matched : List String} {resolved : Value} {t : TypeExpr}
    (hres : resolveSchema scope.document schema = .ok resolved)
    (h : scope.Writes matched resolved t) : scope.Writes matched schema t := by
  unfold resolveSchema at hres
  split at hres
  · obtain rfl := Except.ok.inj hres
    exact h
  · next reference href =>
    obtain ⟨target, htarget, hres⟩ := Steps.bind_eq_ok.1 hres
    obtain ⟨found, hfound, htarget⟩ := Steps.bind_eq_ok.1 htarget
    split at htarget
    · obtain rfl := Except.ok.inj htarget
      split at hres
      · obtain rfl := Except.ok.inj hres
        exact .target href hfound h
      · cases hres
    · cases htarget

theorem Scope.declare_writes {t : TypeExpr} {code : String}
    (h : (scope.declare name schema).result = .ok (t, code)) :
    (∃ comment, code = comment ++ exportType name t) ∧
      scope.Writes (scope.declare name schema).matched schema t := by
  obtain ⟨resolved, description, comment, hres, htype, -, -, rfl⟩ := declare_eq_ok_iff.1 h
  refine ⟨⟨comment, rfl⟩, .of_resolveSchema hres ?_⟩
  have hresult : (Outcome.ofExcept (resolveSchema scope.document schema)).result = .ok resolved :=
    hres
  rw [Scope.declare, Outcome.bind_matched hresult, Outcome.bind_matched htype]
  refine (typeOf_writes scope [name] resolved t htype).mono ?_
  exact List.Subset.trans (List.subset_append_left _ _) (List.subset_append_right _ _)

/-- A schema that a type is written for is declared if the document has components. -/
theorem exists_declareSchema_eq_ok
    (hcomponents : ∀ kind, ∃ entries, components scope.document kind = .ok entries)
    {written : TypeExpr × String} (h : (scope.declare name schema).result = .ok written) :
    ∃ d, declareSchema scope name schema = .ok d := by
  obtain ⟨referred, hreferred⟩ := exists_dependencies_eq_ok hcomponents schema
  exact ⟨_, declareSchema_eq_ok_iff.2 ⟨written.1, written.2, referred, h, hreferred, rfl⟩⟩

/-- The schema of a message that a type is written for is declared if the document has
    components. -/
theorem exists_declarePayload_eq_ok
    (hcomponents : ∀ kind, ∃ entries, components scope.document kind = .ok entries)
    {t : TypeExpr} (htype : (scope.typeByName [] schema).result = .ok t) :
    ∃ d, declarePayload scope name schema none = .ok d ∧ d.name = name := by
  obtain ⟨referred, hreferred⟩ := exists_dependencies_eq_ok hcomponents schema
  exact ⟨_, declarePayload_eq_ok_iff.2 ⟨t, _, referred, htype, rfl, hreferred, rfl⟩, rfl⟩

namespace Parameter

end Parameter

/-! ## Messages of an endpoint -/

namespace Payload

end Payload

namespace Endpoint

/-- What an endpoint is made of. -/
theorem exists_of_ofOperation {operation : Operation} {skip : Nat} {e : Endpoint}
    (h : ofOperation scope skip operation name = .ok e) :
    ∃ parameters tag located body responses,
      Parameter.collect scope.document operation.pathItem operation.fields = .ok parameters ∧
      Parameter.declareAll scope parameters name = .ok located ∧
      Payload.requestBody? scope (.obj operation.fields) name = .ok body ∧
      Payload.responses scope (.obj operation.fields) name = .ok responses ∧
      e = ⟨name, Naming.name operation.path skip, operation.method, operation.path,
        Naming.folder operation.path skip, tag, operation.summary, located, body,
        responses⟩ := by
  obtain ⟨parameters, hparameters, h⟩ := Steps.bind_eq_ok.1 h
  obtain ⟨tag, -, h⟩ := Steps.bind_eq_ok.1 h
  obtain ⟨located, hlocated, h⟩ := Steps.bind_eq_ok.1 h
  obtain ⟨body, hbody, h⟩ := Steps.bind_eq_ok.1 h
  obtain ⟨responses, hresponses, h⟩ := Steps.bind_eq_ok.1 h
  exact ⟨parameters, tag, located, body, responses, hparameters, hlocated, hbody, hresponses,
    (Except.ok.inj h).symm⟩

/-- The parts of an endpoint. -/
theorem ofOperation_spec {operation : Operation} {skip : Nat} {e : Endpoint}
    (h : ofOperation scope skip operation name = .ok e) :
    e.name = name ∧ e.folder = Naming.folder operation.path skip ∧
      (∃ parameters, Parameter.collect scope.document operation.pathItem operation.fields =
        .ok parameters ∧ Parameter.declareAll scope parameters name = .ok e.parameters) ∧
      Payload.requestBody? scope (.obj operation.fields) name = .ok e.requestBody ∧
      Payload.responses scope (.obj operation.fields) name = .ok e.responses := by
  obtain ⟨parameters, _, _, _, _, hparameters, hlocated, hbody, hresponses, rfl⟩ :=
    exists_of_ofOperation h
  exact ⟨rfl, rfl, ⟨parameters, hparameters, hlocated⟩, hbody, hresponses⟩

theorem summary_of_ofOperation {operation : Operation} {skip : Nat} {e : Endpoint}
    (h : ofOperation scope skip operation name = .ok e) : e.summary = operation.summary := by
  obtain ⟨_, _, _, _, _, -, -, -, -, rfl⟩ := exists_of_ofOperation h
  rfl

/-- A declaration of an endpoint is one of parameters or of a message. -/
theorem declare_or_declarePayload {operation : Operation} {skip : Nat} {e : Endpoint}
    (h : ofOperation scope skip operation name = .ok e) (hd : d ∈ e.declarations) :
    (∃ parameters type, Parameter.declare scope parameters type = .ok d) ∨
      ∃ type schema description, declarePayload scope type schema description = .ok d := by
  obtain ⟨-, -, ⟨parameters, -, hlocated⟩, hbody, hresponses⟩ := ofOperation_spec h
  rcases List.mem_append.1 hd with hd | hd
  · rcases List.mem_append.1 hd with hd | hd
    · obtain ⟨p, hp, rfl⟩ := List.mem_map.1 hd
      exact Or.inl ⟨_, _, Parameter.exists_of_mem_declareAll hlocated hp⟩
    · rw [Option.mem_toList.1 hd] at hbody
      obtain ⟨body, -, hbody⟩ := Payload.exists_of_requestBody? hbody
      obtain ⟨schema, -, hschema⟩ := Payload.exists_of_declare? hbody
      exact Or.inr ⟨_, _, _, hschema⟩
  · obtain ⟨r, hr, rfl⟩ := List.mem_map.1 hd
    obtain ⟨_, _, _, -, -, -, hmessage⟩ := Payload.exists_of_mem_responses hresponses hr
    obtain ⟨schema, -, hschema⟩ := Payload.exists_of_declare? hmessage
    exact Or.inr ⟨_, _, _, hschema⟩

end Endpoint

end

end ApiTypes
