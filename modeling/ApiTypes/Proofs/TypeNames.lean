/-
  Names of types are unique.

  The declarations of an endpoint are named after it: its name, an underscore, and an
  ending for the part that is declared (`map_name_declarations`).

  * an ending has no underscore as long as no status has one, so a name of a type can be
    taken apart at its last underscore (`eq_and_eq_of_append_underscore`);
  * names of endpoints are unique, and so are the endings of one endpoint
    (`nodup_endings`); together no type of an endpoint has the name of another
    (`Generation.nodup_declared_names`).
-/
import ApiTypes.Proofs.Generation
import Mathlib.Data.List.Nodup

namespace ApiTypes

open Json (Value)

/-- No status of a response has an underscore. -/
def StatusesPlain (document : Value) : Prop :=
  ∀ found operation responses, operations document = .ok found → operation ∈ found →
    Entries.get? operation.fields "responses" = some (.obj responses) →
    ∀ status ∈ Entries.keys responses, '_' ∉ status.toList

variable {scope : Scope} {name : String} {d : Declaration}

/-! ## Taking names apart -/

theorem eq_and_eq_of_append_cons {α : Type} {c : α} {xs ys as bs : List α} (ha : c ∉ as)
    (hb : c ∉ bs) (h : xs ++ c :: as = ys ++ c :: bs) : xs = ys ∧ as = bs := by
  rcases List.append_eq_append_iff.1 h with ⟨more, rfl, hmore⟩ | ⟨more, rfl, hmore⟩
  · cases more with
    | nil => exact ⟨(List.append_nil xs).symm, (List.cons.inj hmore).2⟩
    | cons x rest =>
      rw [(List.cons.inj hmore).2] at ha
      exact absurd (List.mem_append_right _ List.mem_cons_self) ha
  · cases more with
    | nil => exact ⟨List.append_nil ys, (List.cons.inj hmore).2.symm⟩
    | cons x rest =>
      rw [(List.cons.inj hmore).2] at hb
      exact absurd (List.mem_append_right _ List.mem_cons_self) hb

/-- A text is taken apart at its last underscore in one way. -/
theorem eq_and_eq_of_append_underscore {s t ending ending' : String}
    (he : '_' ∉ ending.toList) (he' : '_' ∉ ending'.toList)
    (h : s ++ "_" ++ ending = t ++ "_" ++ ending') : s = t ∧ ending = ending' := by
  have hlist := congrArg String.toList h
  simp only [String.toList_append, List.append_assoc] at hlist
  obtain ⟨hs, hending⟩ := eq_and_eq_of_append_cons he he' hlist
  exact ⟨String.toList_injective hs, String.toList_injective hending⟩

/-! ## Names of declarations -/

/-- A declaration of a type under a name. -/
def Declaration.Exports (d : Declaration) (name : String) : Prop :=
  d.name = name ∧ ∃ t, d.Declares t

theorem declarePayload_exports {schema : Value} {description : Option Value}
    (h : declarePayload scope name schema description = .ok d) : d.Exports name := by
  obtain ⟨type, comment, referred, -, -, -, rfl⟩ := declarePayload_eq_ok_iff.1 h
  exact ⟨rfl, type, rfl, comment, rfl⟩

theorem Payload.declare?_exports {message : Value}
    (h : declare? scope message name = .ok (some d)) : d.Exports name := by
  obtain ⟨schema, -, hdeclared⟩ := exists_of_declare? h
  exact declarePayload_exports hdeclared

theorem Payload.requestBody?_exports {operation : Value}
    (h : requestBody? scope operation name = .ok (some d)) :
    d.Exports (name ++ "_" ++ "RequestBody") := by
  obtain ⟨body, -, h⟩ := exists_of_requestBody? h
  rw [String.append_assoc]
  exact declare?_exports h

/-- A response that is declared has its status among those of the operation. -/
theorem Payload.responses_exports {operation : Value} {declared : List (String × Declaration)}
    (h : responses scope operation name = .ok declared) {r : String × Declaration}
    (hr : r ∈ declared) :
    r.2.Exports (name ++ "_" ++ (r.1 ++ "Response")) ∧
      ∃ entries, Document.getFields operation "responses" = .ok entries ∧
        r.1 ∈ Entries.keys entries := by
  obtain ⟨entries, entry, message, hentries, hmem, -, hmessage⟩ := exists_of_mem_responses h hr
  refine ⟨?_, entries, hentries, List.mem_map.2 ⟨_, hmem, rfl⟩⟩
  rw [← String.append_assoc]
  exact declare?_exports hmessage

theorem Payload.nodup_statuses {operation : Value} {declared : List (String × Declaration)}
    (h : responses scope operation name = .ok declared) : (Entries.keys declared).Nodup := by
  obtain ⟨entries, -, h⟩ := Steps.bind_eq_ok.1 h
  obtain ⟨found, -, h⟩ := Steps.bind_eq_ok.1 h
  obtain rfl := Except.ok.inj h
  exact Entries.nodup_keys_ofList found

namespace Parameter

theorem declareAll_exports {parameters : List Value} {declared : List (Location × Declaration)}
    (h : declareAll scope parameters name = .ok declared) {p : Location × Declaration}
    (hp : p ∈ declared) : p.2.Exports (name ++ "_" ++ p.1.ending) := by
  obtain ⟨properties, -, hd⟩ := Steps.bind_eq_ok.1 (exists_of_mem_declareAll h hp)
  have hdeclared := (Except.ok.inj hd).symm
  refine ⟨congrArg Declaration.name hdeclared, _, congrArg Declaration.type hdeclared, "", ?_⟩
  rw [hdeclared, String.empty_append]

theorem nodup_locations {parameters : List Value} {declared : List (Location × Declaration)}
    (h : declareAll scope parameters name = .ok declared) : (declared.map Prod.fst).Nodup := by
  have hsub : (declared.map Prod.fst).Sublist (Location.all.map id) := by
    refine Steps.sublist_of_filterMapM (fun location p hlocation => ?_) h
    split at hlocation
    · exact absurd (Except.ok.inj hlocation) nofun
    · obtain ⟨d, -, hlocation⟩ := Steps.bind_eq_ok.1 hlocation
      obtain rfl := Option.some.inj (Except.ok.inj hlocation)
      rfl
  exact hsub.nodup (by decide)

namespace Location

theorem ending_injective : Function.Injective ending := by
  intro l l' h
  cases l <;> cases l' <;> first | rfl | exact absurd h (by decide)

theorem underscore_not_mem_ending (l : Location) : '_' ∉ l.ending.toList := by
  cases l <;> decide

end Location

end Parameter

/-! ## The types of an endpoint -/

namespace Endpoint

/-- What stands behind the name of an endpoint in the names of its types. -/
def endings (e : Endpoint) : List String :=
  e.parameters.map (·.1.ending) ++ e.requestBody.toList.map (fun _ => "RequestBody") ++
    e.responses.map (·.1 ++ "Response")

/-- The names of the types of an endpoint. -/
def typeNames (e : Endpoint) : List String := e.endings.map fun ending => e.name ++ "_" ++ ending

variable {skip : Nat} {operation : Operation} {e : Endpoint}

/-- The declarations of an endpoint are types under its names for them. -/
theorem forall₂_exports_declarations (h : ofOperation scope skip operation name = .ok e) :
    List.Forall₂ Declaration.Exports e.declarations e.typeNames := by
  obtain ⟨rfl, -, ⟨parameters, -, hlocated⟩, hbody, hresponses⟩ := ofOperation_spec h
  rw [typeNames, List.forall₂_map_right_iff]
  refine List.rel_append (List.rel_append ?_ ?_) ?_
  · rw [List.forall₂_map_left_iff, List.forall₂_map_right_iff]
    exact List.forall₂_same.2 fun p hp => Parameter.declareAll_exports hlocated hp
  · rw [List.forall₂_map_right_iff]
    refine List.forall₂_same.2 fun d hd => ?_
    rw [Option.mem_toList.1 hd] at hbody
    exact Payload.requestBody?_exports hbody
  · rw [List.forall₂_map_left_iff, List.forall₂_map_right_iff]
    exact List.forall₂_same.2 fun r hr => (Payload.responses_exports hresponses hr).1

theorem map_name_declarations (h : ofOperation scope skip operation name = .ok e) :
    e.declarations.map Declaration.name = e.typeNames := by
  have hsame : List.Forall₂ (· = ·) (e.declarations.map Declaration.name) e.typeNames := by
    rw [List.forall₂_map_left_iff]
    exact (forall₂_exports_declarations h).imp fun d name hd => hd.1
  rwa [List.forall₂_eq_eq_eq] at hsame

theorem exists_declares (h : ofOperation scope skip operation name = .ok e) :
    ∀ d ∈ e.declarations, ∃ t, d.Declares t := by
  intro d hd
  obtain ⟨name, -, hd⟩ :=
    Steps.exists_mem_of_forall₂_right (forall₂_exports_declarations h).flip hd
  exact hd.2

theorem eq_e_of_eq_response {s status : String} (h : s = status ++ "Response") :
    s.toList.getLast? = some 'e' := by
  rw [h, String.toList_append, List.getLast?_append_of_ne_nil _ (by decide)]
  decide

/-- No two types of an endpoint have the same ending. -/
theorem nodup_endings (h : ofOperation scope skip operation name = .ok e) : e.endings.Nodup := by
  obtain ⟨-, -, ⟨parameters, -, hlocated⟩, -, hresponses⟩ := ofOperation_spec h
  have hparameters : (e.parameters.map (·.1.ending)).Nodup := by
    have := (Parameter.nodup_locations hlocated).map Parameter.Location.ending_injective
    rwa [List.map_map] at this
  have hbody : (e.requestBody.toList.map fun _ => "RequestBody").Nodup := by
    cases e.requestBody with
    | none => exact List.nodup_nil
    | some d => exact List.nodup_singleton _
  have hstatuses : (e.responses.map (·.1 ++ "Response")).Nodup := by
    have hinjective : Function.Injective fun status : String => status ++ "Response" :=
      fun s t hst => (String.append_left_inj "Response").1 hst
    have := (Payload.nodup_statuses hresponses).map hinjective
    rwa [Entries.keys, List.map_map] at this
  refine List.nodup_append.2 ⟨List.nodup_append.2 ⟨hparameters, hbody, ?_⟩, hstatuses, ?_⟩
  · intro ending hending other hother heq
    obtain ⟨p, -, rfl⟩ := List.mem_map.1 hending
    obtain ⟨d, -, rfl⟩ := List.mem_map.1 hother
    cases hlocation : p.1 <;> exact absurd (hlocation ▸ heq) (by decide)
  · intro ending hending other hother heq
    obtain ⟨r, -, rfl⟩ := List.mem_map.1 hother
    have hlast := eq_e_of_eq_response heq
    rcases List.mem_append.1 hending with hending | hending
    · obtain ⟨p, -, rfl⟩ := List.mem_map.1 hending
      cases hlocation : p.1 <;> exact absurd (hlocation ▸ hlast) (by decide)
    · obtain ⟨d, -, rfl⟩ := List.mem_map.1 hending
      exact absurd hlast (by decide)

/-- An ending has no underscore if no status has one. -/
theorem underscore_not_mem_endings {found : List Operation} (hplain : StatusesPlain scope.document)
    (hfound : operations scope.document = .ok found) (hmem : operation ∈ found)
    (h : ofOperation scope skip operation name = .ok e) :
    ∀ ending ∈ e.endings, '_' ∉ ending.toList := by
  obtain ⟨-, -, -, -, hresponses⟩ := ofOperation_spec h
  intro ending hending
  rcases List.mem_append.1 hending with hending | hending
  · rcases List.mem_append.1 hending with hending | hending
    · obtain ⟨p, -, rfl⟩ := List.mem_map.1 hending
      exact p.1.underscore_not_mem_ending
    · obtain ⟨d, -, rfl⟩ := List.mem_map.1 hending
      decide
  · obtain ⟨r, hr, rfl⟩ := List.mem_map.1 hending
    obtain ⟨-, entries, hentries, hstatus⟩ := Payload.responses_exports hresponses hr
    rw [String.toList_append, List.mem_append, not_or]
    refine ⟨?_, by decide⟩
    rw [eq_of_getFields hentries, Value.field?] at hstatus
    cases hget : Entries.get? operation.fields "responses" with
    | none => simp [hget, Entries.keys] at hstatus
    | some v =>
      rw [hget] at hstatus
      cases v with
      | obj responses => exact hplain _ _ _ hfound hmem hget _ hstatus
      | _ => exact absurd hstatus List.not_mem_nil

theorem nodup_typeNames (h : ofOperation scope skip operation name = .ok e) : e.typeNames.Nodup :=
  (nodup_endings h).map fun _ _ heq => (String.append_right_inj (e.name ++ "_")).1 heq

theorem disjoint_typeNames {e' : Endpoint} (hne : e.name ≠ e'.name)
    (h : ∀ ending ∈ e.endings, '_' ∉ ending.toList)
    (h' : ∀ ending ∈ e'.endings, '_' ∉ ending.toList) : e.typeNames.Disjoint e'.typeNames := by
  intro name hname hname'
  obtain ⟨ending, hending, rfl⟩ := List.mem_map.1 hname
  obtain ⟨ending', hending', heq⟩ := List.mem_map.1 hname'
  have hfree := h ending hending
  exact hne (eq_and_eq_of_append_underscore hfree (h' ending' hending') heq.symm).1

end Endpoint

namespace Generation

/-- **Names of types are unique.**  As long as no status of a response has an underscore,
    the declarations of all endpoints are types with pairwise distinct names, each made
    of the name of the endpoint and what is declared. -/
theorem nodup_declared_names {skip : Value} {endpoints : List Endpoint}
    (hplain : StatusesPlain scope.document) (h : endpointsOf scope skip = .ok endpoints) :
    (endpoints.flatMap Endpoint.declarations).map Declaration.name =
        endpoints.flatMap Endpoint.typeNames ∧
      ((endpoints.flatMap Endpoint.declarations).map Declaration.name).Nodup ∧
      ∀ d ∈ endpoints.flatMap Endpoint.declarations, ∃ t, d.Declares t := by
  have hfree : ∀ e ∈ endpoints, ∀ ending ∈ e.endings, '_' ∉ ending.toList := by
    intro e he
    obtain ⟨found, pairs, operation, hfound, hmem, hof⟩ := exists_made_of_mem h he
    exact Endpoint.underscore_not_mem_endings hplain hfound (List.of_mem_zip hmem).1 hof
  have hnames : (endpoints.flatMap Endpoint.declarations).map Declaration.name =
      endpoints.flatMap Endpoint.typeNames := by
    rw [List.map_flatMap]
    refine List.flatMap_congr fun e he => ?_
    obtain ⟨_, _, _, -, -, hof⟩ := exists_made_of_mem h he
    exact Endpoint.map_name_declarations hof
  refine ⟨hnames, ?_, fun d hd => ?_⟩
  · rw [hnames, List.nodup_flatMap]
    refine ⟨fun e he => ?_, ?_⟩
    · obtain ⟨_, _, _, -, -, hof⟩ := exists_made_of_mem h he
      exact Endpoint.nodup_typeNames hof
    · refine (List.pairwise_map.1 (nodup_names_endpointsOf h)).imp_of_mem ?_
      exact fun he he' hne => Endpoint.disjoint_typeNames hne (hfree _ he) (hfree _ he')
  · obtain ⟨e, he, hd⟩ := List.mem_flatMap.1 hd
    obtain ⟨_, _, _, -, -, hof⟩ := exists_made_of_mem h he
    exact Endpoint.exists_declares hof d hd

/-- An operation that answers with a text, under a path with another. -/
def textOperation (method : String) : Operation :=
  let fields := answering [("type", .str "string")]
  ⟨"/a", method, [("get", .obj fields), ("post", .obj fields)], fields⟩

/-- The scope of the document of both operations. -/
def textScope : Scope := ⟨.obj [("paths", .obj [("/a", .obj (textOperation "").pathItem)])], ⟨[]⟩⟩

/-- Their types are told apart by the method. -/
theorem nodup_declared_names_texts : ∃ endpoints,
    StatusesPlain textScope.document ∧ endpointsOf textScope (.int 0) = .ok endpoints ∧
      (endpoints.flatMap Endpoint.declarations).map Declaration.name =
        ["a_get_200Response", "a_post_200Response"] ∧
      ((endpoints.flatMap Endpoint.declarations).map Declaration.name).Nodup := by
  have hoperations : operations textScope.document =
      .ok [textOperation "get", textOperation "post"] := by cbv
  have hresolve : Endpoint.resolve [(textOperation "get").proposal 0,
      (textOperation "post").proposal 0] = ["a_get", "a_post"] := by
    decide +kernel
  have hcomponents (kind : ComponentKind) :
      ∃ entries, components textScope.document kind = .ok entries := by
    cases kind <;> exact ⟨_, by cbv⟩
  have htype : (textScope.typeByName [] (.obj [("type", .str "string")])).result =
      .ok (.keyword .string) := by cbv
  have hplain : StatusesPlain textScope.document := by
    intro found operation responses hfound hmem hget status hstatus
    obtain rfl := Except.ok.inj (hoperations.symm.trans hfound)
    have hresponses : Entries.keys responses = ["200"] := by
      simp only [List.mem_cons, List.not_mem_nil, or_false] at hmem
      obtain rfl | rfl := hmem <;> cases hget <;> rfl
    rw [hresponses, List.mem_singleton] at hstatus
    rw [hstatus]
    decide
  obtain ⟨e, he, hnames⟩ := exists_endpoint_answering hcomponents htype "/a" "get" "a_get"
    (textOperation "get").pathItem rfl
  obtain ⟨e', he', hnames'⟩ := exists_endpoint_answering hcomponents htype "/a" "post" "a_post"
    (textOperation "post").pathItem rfl
  have hendpoints : endpointsOf textScope (.int 0) = .ok [e, e'] := by
    refine Steps.bind_eq_ok.2 ⟨_, hoperations, Steps.bind_eq_ok.2 ⟨0, rfl, ?_⟩⟩
    refine Steps.mapM_eq_ok.2 ?_
    rw [List.map_cons, List.map_singleton, hresolve]
    exact .cons he (.cons he' .nil)
  refine ⟨[e, e'], hplain, hendpoints, ?_, (nodup_declared_names hplain hendpoints).2.1⟩
  rw [List.flatMap_cons, List.flatMap_singleton, List.map_append, hnames, hnames']
  decide

end Generation

end ApiTypes
