/-
  One endpoint and one declaration for each operation.

  * `operationKeys`: the pairs of a path and a method under which a document has an
    operation, by the members of the document alone;
  * `Generation.endpoints_correspond`: the endpoints belong to these pairs, in order, and
    the declaration and the file of each are its own.
-/
import ApiTypes.Proofs.Imports
import Mathlib.Data.List.Nodup

namespace ApiTypes

open Json (Value)

variable {document skip : Value}

/-! ## Operations by path and method -/

/-- The paths and methods that a document has an object for, inside an object of the
    path. -/
def operationKeys (document : Value) : List (String × String) :=
  (((document.field? "paths").bind Value.fields?).getD []).flatMap fun (path, item) =>
    (["get", "post", "put", "patch", "delete", "head", "options"].filter fun method =>
      ((item.field? method).bind Value.fields?).isSome).map fun method => (path, method)

theorem map_operationsOf (path : String) (item : Value) :
    (operationsOf path item).map (fun operation => (operation.path, operation.method)) =
      (["get", "post", "put", "patch", "delete", "head", "options"].filter fun method =>
        ((item.field? method).bind Value.fields?).isSome).map fun method => (path, method) := by
  cases item with
  | obj members =>
    have hmethods : ["get", "post", "put", "patch", "delete", "head", "options"] = methods := rfl
    rw [hmethods, operationsOf]
    induction methods with
    | nil => rfl
    | cons method rest ih =>
      rw [List.filterMap_cons, List.filter_cons, Value.field?]
      cases hget : Entries.get? members method with
      | none => simpa using ih
      | some operation =>
        cases operation with
        | obj fields => simpa [Value.fields?] using ih
        | _ => simpa [Value.fields?] using ih
  | _ => rfl

/-- The operations of a document are at its paths and methods, in order. -/
theorem map_operations {found : List Operation} (h : operations document = .ok found) :
    found.map (fun operation => (operation.path, operation.method)) = operationKeys document := by
  obtain ⟨paths, hpaths, h⟩ := Steps.bind_eq_ok.1 h
  obtain rfl := Except.ok.inj h
  rw [List.map_flatMap, operationKeys, ← eq_of_getFields hpaths]
  exact List.flatMap_congr fun entry _ => map_operationsOf entry.1 entry.2

/-! ## Endpoints -/

theorem Endpoint.ofOperation_key {scope : Scope} {skip : Nat} {operation : Operation}
    {name : String} {e : Endpoint} (h : ofOperation scope skip operation name = .ok e) :
    (e.path, e.method) = (operation.path, operation.method) := by
  obtain ⟨_, _, _, _, _, -, -, -, -, rfl⟩ := exists_of_ofOperation h
  rfl

namespace Generation

variable {g : Generation}

theorem map_endpoints (h : ofDocument document skip = .ok g) :
    g.endpoints.map (fun e => (e.path, e.method)) = operationKeys document := by
  obtain ⟨scope, -, -, rfl, -, -, hendpoints, -⟩ := exists_of_ofDocument h
  obtain ⟨found, pairs, hfound, hall⟩ := forall₂_endpointsOf hendpoints
  have hsame : List.Forall₂ (· = ·)
      (found.map fun operation => (operation.path, operation.method))
      (g.endpoints.map fun e => (e.path, e.method)) := by
    rw [List.forall₂_map_left_iff, List.forall₂_map_right_iff]
    exact hall.imp fun operation e ⟨_, hof⟩ => (Endpoint.ofOperation_key hof).symm
  rw [List.forall₂_eq_eq_eq] at hsame
  rw [← hsame, map_operations hfound]

/-- An endpoint is known by its name. -/
theorem eq_of_name_eq (h : ofDocument document skip = .ok g) {e e' : Endpoint}
    (he : e ∈ g.endpoints) (he' : e' ∈ g.endpoints) (hname : e'.name = e.name) : e' = e :=
  List.inj_on_of_nodup_map (nodup_names h) he' he hname

/-- **One endpoint for each operation.**  The endpoints belong to the pairs of a path and
    a method that the document has an operation for, in order and under distinct names.
    The only declaration under the key of an endpoint has its code and its dependencies,
    and no other endpoint's; it is the one that is found when the files are written, so
    that the endpoint's file holds it. -/
theorem endpoints_correspond (h : ofDocument document skip = .ok g) :
    g.endpoints.map (fun e => (e.path, e.method)) = operationKeys document ∧
      (g.endpoints.map Endpoint.name).Nodup ∧ (Entries.keys g.declarations).Nodup ∧
      ∀ e ∈ g.endpoints, ∃ code, e.code = .ok code ∧
        Entries.get? g.declarations ("endpoint:" ++ e.name) =
          some ⟨e.name, code, e.dependencies, none⟩ ∧
        (∀ e' ∈ g.endpoints, ∀ d, declarationOf e' = .ok d →
          Entries.get? g.declarations ("endpoint:" ++ e.name) = some d → e' = e) ∧
        Entries.get? g.endpointDeclarations e.name =
          some ⟨e.name, code, e.dependencies, none⟩ ∧
        ∀ schemas, Output.endpointFile g schemas e =
          Output.declarationFile (endpointModule e.name e.folder) schemas
            ⟨e.name, code, e.dependencies, none⟩ := by
  refine ⟨map_endpoints h, nodup_names h, nodup_keys_declarations h, fun e he => ?_⟩
  obtain ⟨d, hd, hget⟩ := get?_declarations h he
  obtain ⟨code, hcode, rfl⟩ := declarationOf_eq_ok_iff.1 hd
  have hgetEndpoint : Entries.get? g.endpointDeclarations e.name =
      some ⟨e.name, code, e.dependencies, none⟩ :=
    (get?_filterMap_endpointName? _).trans hget
  refine ⟨code, hcode, hget, fun e' he' d' hd' hget' => ?_, hgetEndpoint, fun schemas => ?_⟩
  · obtain rfl := Option.some.inj (hget.symm.trans hget')
    exact eq_of_name_eq h he he' (name_of_declarationOf hd').symm
  · obtain ⟨code', hcode', hfile⟩ := Output.endpointFile_eq h he schemas
    obtain rfl := Except.ok.inj (hcode.symm.trans hcode')
    exact hfile

/-- Two operations of one path, and a schema under the key of an endpoint. -/
def shadowedDocument : Value :=
  .obj [("paths", .obj [("/a", .obj [("get", .obj []), ("post", .obj [])])]),
    ("components", .obj [("schemas", .obj [("endpoint:a_get", Output.userSchema)])])]

/-- Its operations say nothing about themselves. -/
def shadowedOperation (method : String) : Operation :=
  ⟨"/a", method, [("get", .obj []), ("post", .obj [])], []⟩

/-- The scope of the document. -/
def shadowedScope : Scope := ⟨shadowedDocument, ⟨[]⟩⟩

theorem exists_generation_shadowed : ∃ g, ofDocument shadowedDocument (.int 0) = .ok g ∧
    g.endpoints.map Endpoint.name = ["a_get", "a_post"] := by
  have hscope : Scope.ofDocument shadowedDocument = .ok shadowedScope := by cbv
  have hcomponents (kind : ComponentKind) :
      ∃ entries, components shadowedScope.document kind = .ok entries :=
    exists_components_of_schemas rfl kind
  obtain ⟨d, hd⟩ := Output.exists_declareSchema_userSchema hcomponents "endpoint:a_get"
  have hadd : addSchema shadowedScope ([], []) "endpoint:a_get" Output.userSchema =
      .ok ([("endpoint:a_get", d)], []) := by
    rw [addSchema, hd]
    rfl
  have hoperations : operations shadowedScope.document =
      .ok [shadowedOperation "get", shadowedOperation "post"] := by cbv
  obtain ⟨endpoints, hendpoints, hresolved⟩ := exists_endpointsOf_eq_ok hoperations
    (List.forall_mem_cons.2 ⟨fun _ => ⟨_, rfl⟩, List.forall_mem_singleton.2 fun _ => ⟨_, rfl⟩⟩)
  have hnames : endpoints.map Endpoint.name = ["a_get", "a_post"] := by
    rw [hresolved]
    decide +kernel
  obtain ⟨made, hmade⟩ := exists_mapM_declarationOf hendpoints hoperations
    (List.forall_mem_cons.2 ⟨⟨"", rfl⟩, List.forall_mem_singleton.2 ⟨"", rfl⟩⟩)
  refine ⟨_, Steps.bind_eq_ok.2 ⟨shadowedScope, hscope, Steps.bind_eq_ok.2
    ⟨[("endpoint:a_get", Output.userSchema)], rfl, Steps.bind_eq_ok.2
      ⟨([("endpoint:a_get", d)], []), ?_, Steps.bind_eq_ok.2 ⟨endpoints, hendpoints,
        Steps.bind_eq_ok.2 ⟨made, hmade, rfl⟩⟩⟩⟩⟩, hnames⟩
  exact Steps.bind_eq_ok.2 ⟨_, hadd, rfl⟩

/-- The declaration of the schema is not found for the endpoint. -/
theorem endpoints_correspond_shadowed : ∃ g, ofDocument shadowedDocument (.int 0) = .ok g ∧
    g.endpoints.map Endpoint.name = ["a_get", "a_post"] ∧
    g.endpoints.map (fun e => (e.path, e.method)) = [("/a", "get"), ("/a", "post")] ∧
    ∀ e ∈ g.endpoints, ∃ code, e.code = .ok code ∧
      Entries.get? g.endpointDeclarations e.name =
        some ⟨e.name, code, e.dependencies, none⟩ := by
  obtain ⟨g, hgen, hnames⟩ := exists_generation_shadowed
  obtain ⟨hkeys, -, -, hall⟩ := endpoints_correspond hgen
  refine ⟨g, hgen, hnames, hkeys.trans (by cbv), fun e he => ?_⟩
  obtain ⟨code, hcode, -, -, hget, -⟩ := hall e he
  exact ⟨code, hcode, hget⟩

end Generation

end ApiTypes
