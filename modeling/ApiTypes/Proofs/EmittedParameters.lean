/-
  The properties that are declared for the parameters of an operation.

  Parameters are told apart by a location that is the query if they do not say it, but they are
  declared for the locations that they say.

  * `Parameter.IsPropertyOf`: the property of a parameter;
  * `Parameter.Emits`: one type declares some parameters, with a property for each of them, in
    their order, under distinct names;
  * `Parameter.nodup_pairOf_of_collect`: no two parameters of an operation have one name and
    location, so that those that say a location can be declared for it (`emits_of_declareAll`);
  * `Parameter.isLocatedAt`: where a parameter is, whether it says so or not; those that are at the
    query and do not say it are not declared (`emits_located_iff`);
  * `Parameter.endpointsOf_emits_iff`: hence what an endpoint declares for the parameters of its
    operation;
  * `Parameter.not_emits_silent`: one of them is left out.
-/
import ApiTypes.Proofs.CollectedParameters
import ApiTypes.Proofs.Notes
import ApiTypes.Proofs.Reexports

namespace ApiTypes

open Json (Value)

namespace Parameter

variable {scope : Scope} {p : Value} {parameters parameters' collected : List Value} {name : String}
  {location : Location} {d : Declaration} {declared : List (Location × Declaration)}
  {declarations : List Declaration}

/-! ## Properties -/

theorem eq_some_str_of_text? {found : Option Value} {text : String}
    (h : found.bind Value.text? = some text) : found = some (.str text) := by
  obtain ⟨v, rfl, hv⟩ := Option.bind_eq_some_iff.1 h
  cases v with
  | str s => exact congrArg (fun s => some (Value.str s)) (Option.some.inj hv)
  | _ => cases hv

/-- A property is the one of a parameter. -/
structure IsPropertyOf (scope : Scope) (p : Value) (property : PropertyHead × TypeExpr) :
    Prop where
  name : p.field? "name" = some (.str property.1.name)
  optional : property.1.optional = isOptional p
  comment : property.1.comment = Comment.ofProperty? (p.field? "description")
  type : (typeOf scope p).result = .ok property.2

theorem name_of_property {head : PropertyHead} {type : TypeExpr} {names : NameSet}
    (h : property scope p = .ok ((head, type), names)) :
    p.field? "name" = some (.str head.name) ∧ head.optional = isOptional p := by
  obtain ⟨found, hfound, h⟩ := Steps.bind_eq_ok.1 h
  obtain rfl : found = p.field? "name" := eq_field?_of_get hfound
  split at h
  · cases h
  · next text htext =>
    obtain ⟨_, -, h⟩ := Steps.bind_eq_ok.1 h
    obtain ⟨_, -, h⟩ := Steps.bind_eq_ok.1 h
    obtain ⟨hproperty, -⟩ := Prod.mk.inj (Except.ok.inj h)
    obtain ⟨rfl, -⟩ := Prod.mk.inj hproperty
    exact ⟨eq_some_str_of_text? htext, rfl⟩

/-- Some parameters and what is declared for them: nothing if there are none, else one type that
    has a property for each, in their order and under distinct names, and nothing else. -/
inductive Emits (scope : Scope) : List Value → List Declaration → Prop
  | nothing : Emits scope [] []
  | type {parameters d properties} : parameters ≠ [] →
      d.type = some (.object properties none) →
      d.code = exportType d.name (.object properties none) →
      List.Forall₂ (IsPropertyOf scope) parameters properties →
      (properties.map (·.1.name)).Nodup → Emits scope parameters [d]

/-- What is declared tells how many parameters it is for. -/
theorem Emits.length_eq (h : Emits scope parameters declarations)
    (h' : Emits scope parameters' declarations) : parameters.length = parameters'.length := by
  cases h with
  | nothing =>
    cases h'
    rfl
  | type _ htype _ hall _ =>
    obtain _ | ⟨-, htype', -, hall', -⟩ := h'
    obtain ⟨rfl, -⟩ := TypeExpr.object.inj (Option.some.inj (htype.symm.trans htype'))
    exact hall.length_eq.trans hall'.length_eq.symm

theorem exists_forall₂_of_declare (h : declare scope parameters name = .ok d) :
    ∃ properties, d.type = some (.object properties none) ∧
      d.code = exportType d.name (.object properties none) ∧
      List.Forall₂ (IsPropertyOf scope) parameters properties := by
  obtain ⟨properties, hproperties, h⟩ := Steps.bind_eq_ok.1 h
  have hd := (Except.ok.inj h).symm
  refine ⟨properties.map (·.1), congrArg Declaration.type hd, by rw [hd], ?_⟩
  rw [List.forall₂_map_right_iff]
  refine (Steps.mapM_eq_ok.1 hproperties).imp fun p found hof => ?_
  obtain ⟨⟨head, type⟩, names⟩ := found
  have hof : property scope p = .ok ((head, type), names) := hof
  obtain ⟨hname, hoptional⟩ := name_of_property hof
  obtain ⟨hcomment, htype⟩ := property_spec hof
  exact ⟨hname, hoptional, hcomment, htype⟩

/-! ## Locations -/

/-- Whether a parameter is at the location, which is the query if it does not say one. -/
def isLocatedAt (location : Location) (p : Value) : Bool :=
  (locationOf p).text? == some location.word

/-- A parameter is at the location that it says, and at the query if it says none. -/
theorem isLocatedAt_eq (location : Location) (p : Value) :
    isLocatedAt location p =
      (isAt location p || (decide (location = .query) && (p.field? "in").isNone)) := by
  unfold isLocatedAt isAt locationOf
  cases p.field? "in" with
  | none => cases location <;> rfl
  | some v => simp

/-- Two parameters at one location are told apart by their names. -/
theorem pairOf_of_isAt {text : String} (hat : isAt location p = true)
    (hname : p.field? "name" = some (.str text)) :
    pairOf p = ⟨.text text, .text location.word⟩ := by
  have hin : p.field? "in" = some (.str location.word) := eq_some_str_of_text? (eq_of_beq hat)
  rw [pairOf, locationOf, hname, hin]
  rfl

theorem nodup_names {properties : List (PropertyHead × TypeExpr)}
    (hnodup : (parameters.map pairOf).Nodup) (hat : ∀ p ∈ parameters, isAt location p = true)
    (hall : List.Forall₂ (IsPropertyOf scope) parameters properties) :
    (properties.map (·.1.name)).Nodup := by
  have hpairs : parameters.map pairOf =
      (properties.map (·.1.name)).map fun text => ⟨.text text, .text location.word⟩ := by
    induction hall with
    | nil => rfl
    | cons hof _ ih =>
      obtain ⟨hp, hrest⟩ := List.forall_mem_cons.1 hat
      rw [List.map_cons, List.map_cons, List.map_cons, pairOf_of_isAt hp hof.name,
        ih (List.nodup_cons.1 hnodup).2 hrest]
  exact List.Nodup.of_map _ (hpairs ▸ hnodup)

/-! ## Collected parameters -/

/-- No two parameters of an operation have the same name and location. -/
theorem nodup_pairOf_of_collect {document : Value} {pathItem operation : List (String × Value)}
    (h : collect document pathItem operation = .ok collected) :
    (collected.map pairOf).Nodup := by
  obtain ⟨ofPath, -, h⟩ := Steps.bind_eq_ok.1 h
  obtain ⟨own, -, h⟩ := Steps.bind_eq_ok.1 h
  obtain ⟨merged, hmerged, h⟩ := Steps.bind_eq_ok.1 h
  obtain rfl := Except.ok.inj h
  obtain ⟨-, -, rfl⟩ := foldlM_merge_eq_ok_iff.1 hmerged
  rw [(merges_foldl_put _).order]
  exact nodup_eraseDups _

/-- The declarations for a location. -/
def declaredAt (declared : List (Location × Declaration)) (location : Location) :
    List Declaration :=
  (declared.filter (·.1 = location)).map (·.2)

/-- Of declarations for distinct locations, one is for the location of a declaration. -/
theorem filter_location_eq (hnodup : (declared.map Prod.fst).Nodup)
    (h : (location, d) ∈ declared) : declared.filter (·.1 = location) = [(location, d)] := by
  refine List.perm_singleton.1 ((List.perm_ext_iff_of_nodup ?_ (List.nodup_singleton _)).2 ?_)
  · exact hnodup.of_map.filter _
  · intro e
    rw [List.mem_filter, List.mem_singleton, decide_eq_true_iff]
    constructor
    · rintro ⟨he, rfl⟩
      exact List.inj_on_of_nodup_map hnodup he h rfl
    · rintro rfl
      exact ⟨h, rfl⟩

theorem filter_ne_nil_of_mem (h : declareAll scope collected name = .ok declared)
    (hmem : (location, d) ∈ declared) : collected.filter (isAt location) ≠ [] := by
  obtain ⟨other, -, hother⟩ := Steps.exists_of_mem_filterMapM h hmem
  split at hother
  · cases hother
  · next hne =>
    obtain ⟨d', -, hother⟩ := Steps.bind_eq_ok.1 hother
    obtain ⟨rfl, -⟩ := Prod.mk.inj (Option.some.inj (Except.ok.inj hother))
    exact hne

/-- **Declaring.**  What is declared for a location emits the parameters that say it. -/
theorem emits_of_declareAll (hnodup : (collected.map pairOf).Nodup)
    (h : declareAll scope collected name = .ok declared) (location : Location) :
    Emits scope (collected.filter (isAt location)) (declaredAt declared location) := by
  by_cases hnone : collected.filter (isAt location) = []
  · have hempty : declared.filter (·.1 = location) = [] := by
      refine List.filter_eq_nil_iff.2 fun e he hloc => ?_
      obtain rfl := of_decide_eq_true hloc
      exact filter_ne_nil_of_mem h he hnone
    rw [hnone, declaredAt, hempty]
    exact .nothing
  · obtain ⟨p, hp⟩ := List.exists_mem_of_ne_nil _ hnone
    obtain ⟨hmem, hat⟩ := List.mem_filter.1 hp
    obtain ⟨d, hd, hdeclare⟩ := exists_declare_of_isAt h hmem hat
    have hone : declared.filter (·.1 = location) = [(location, d)] :=
      filter_location_eq (nodup_locations h) hd
    obtain ⟨properties, htype, hcode, hall⟩ := exists_forall₂_of_declare hdeclare
    rw [declaredAt, hone]
    refine .type hnone htype hcode hall (nodup_names ?_ (fun p hp => (List.mem_filter.1 hp).2) hall)
    exact (List.filter_sublist.map _).nodup hnodup

/-- Those that are at a location are emitted for it as well, unless this is the query and one of
    them does not say so. -/
theorem emits_located_iff (hnodup : (collected.map pairOf).Nodup)
    (h : declareAll scope collected name = .ok declared) (location : Location) :
    Emits scope (collected.filter (isLocatedAt location)) (declaredAt declared location) ↔
      (location = .query → ∀ p ∈ collected, (p.field? "in").isSome = true) := by
  have hemits := emits_of_declareAll hnodup h location
  constructor
  -- The declaration has as many properties as there are parameters that say the query, so that
  -- no others are at the query.
  · rintro hlocated rfl p hp
    have hsub : (collected.filter (isAt .query)).Sublist
        (collected.filter (isLocatedAt .query)) := by
      refine List.monotone_filter_right collected fun p hat => ?_
      rw [isLocatedAt_eq, hat, Bool.true_or]
    have hsame := hsub.eq_of_length (hemits.length_eq hlocated)
    by_contra hsilent
    have hnone : p.field? "in" = none := Option.not_isSome_iff_eq_none.1 hsilent
    have hmem : p ∈ collected.filter (isLocatedAt .query) :=
      List.mem_filter.2 ⟨hp, by simp [isLocatedAt_eq, hnone]⟩
    rw [← hsame, List.mem_filter, isAt, hnone] at hmem
    exact absurd hmem.2 (by decide)
  · intro hsaid
    have hsame : collected.filter (isLocatedAt location) = collected.filter (isAt location) := by
      refine List.filter_congr fun p hp => ?_
      rw [isLocatedAt_eq]
      by_cases hquery : location = .query
      · rw [Option.isNone_eq_false_iff.2 (hsaid hquery p hp), Bool.and_false, Bool.or_false]
      · rw [decide_eq_false hquery, Bool.false_and, Bool.or_false]
    rwa [hsame]

/-! ## Endpoints -/

/-- **Emitted parameters.**  The endpoints belong to the operations of the document, in their
    order.  For each location, an endpoint declares the parameters of its operation that say this
    location: none if there are none, and else one type with exactly one property for each, in
    their order.  These are all that are at the location if and only if it is not the query, which
    a parameter is at that does not say where it is, or all parameters say where they are. -/
theorem endpointsOf_emits_iff {skip : Value} {endpoints : List Endpoint}
    (h : endpointsOf scope skip = .ok endpoints) :
    ∃ found, operations scope.document = .ok found ∧
      List.Forall₂ (fun operation e => ∃ collected,
        collect scope.document operation.pathItem operation.fields = .ok collected ∧
        ∀ location,
          Emits scope (collected.filter (isAt location)) (declaredAt e.parameters location) ∧
          (Emits scope (collected.filter (isLocatedAt location))
              (declaredAt e.parameters location) ↔
            (location = .query → ∀ p ∈ collected, (p.field? "in").isSome = true)))
        found endpoints := by
  obtain ⟨found, pairs, hfound, hall⟩ := Generation.forall₂_endpointsOf h
  refine ⟨found, hfound, hall.imp fun operation e hof => ?_⟩
  obtain ⟨name, hof⟩ := hof
  obtain ⟨-, -, ⟨collected, hcollect, hdeclared⟩, -⟩ := Endpoint.ofOperation_spec hof
  have hnodup := nodup_pairOf_of_collect hcollect
  exact ⟨collected, hcollect, fun location => ⟨emits_of_declareAll hnodup hdeclared location,
    emits_located_iff hnodup hdeclared location⟩⟩

/-- A parameter that says that it is at the query is emitted. -/
theorem endpointsOf_emits_querying : ∃ scope : Scope, scope.document = Output.queryingDocument ∧
    endpointsOf scope (.int 0) = .ok [Output.queryingEndpoint] ∧
    Emits scope [Output.queryParameter] (declaredAt Output.queryingEndpoint.parameters .query) := by
  obtain ⟨g, hgen, hendpoints, -⟩ := Output.exists_generation_querying
  obtain ⟨scope, -, -, hdocument, -, -, hof, -⟩ := Generation.exists_of_ofDocument hgen
  rw [hendpoints] at hof
  have hquerying : operations scope.document = .ok [Output.queryingOperation] := by
    rw [hdocument]
    cbv
  obtain ⟨found, hfound, hall⟩ := endpointsOf_emits_iff hof
  obtain rfl := Except.ok.inj (hquerying.symm.trans hfound)
  obtain ⟨⟨collected, hcollect, hemits⟩, -⟩ := List.forall₂_cons.1 hall
  have hcollected : collect scope.document Output.queryingOperation.pathItem
      Output.queryingOperation.fields = .ok [Output.queryParameter] := rfl
  obtain rfl := Except.ok.inj (hcollected.symm.trans hcollect)
  exact ⟨scope, hdocument, hof, (hemits .query).1⟩

/-- An operation with a parameter that does not say where it is. -/
def silentOperation : Operation :=
  let fields := [("parameters", .arr [.obj [("name", .str "a")]])]
  ⟨"/a", "get", [("get", .obj fields)], fields⟩

/-- The scope of the document with this operation. -/
def silentScope : Scope where
  document := .obj [("paths", .obj [("/a", .obj silentOperation.pathItem)])]
  shapes := ⟨[]⟩

/-- The parameters that are collected are not all emitted: this one is at the query. -/
theorem not_emits_silent :
    ¬ ∀ scope skip endpoints, endpointsOf scope skip = .ok endpoints →
      ∃ found, operations scope.document = .ok found ∧
        List.Forall₂ (fun operation e => ∃ collected,
          collect scope.document operation.pathItem operation.fields = .ok collected ∧
          ∀ location, Emits scope (collected.filter (isLocatedAt location))
            (declaredAt e.parameters location)) found endpoints := by
  intro h
  have hfound : operations silentScope.document = .ok [silentOperation] := by cbv
  have hresolve : Endpoint.resolve [silentOperation.proposal 0] = ["a"] := by decide +kernel
  have hof : Endpoint.ofOperation silentScope 0 silentOperation "a" =
      .ok (Generation.bareEndpoint "/a" "a") := rfl
  have hendpoints : endpointsOf silentScope (.int 0) = .ok [Generation.bareEndpoint "/a" "a"] := by
    refine Steps.bind_eq_ok.2 ⟨_, hfound, Steps.bind_eq_ok.2 ⟨0, rfl, Steps.mapM_eq_ok.2 ?_⟩⟩
    rw [List.map_singleton, hresolve]
    exact .cons hof .nil
  obtain ⟨found, hfound', hall⟩ := h silentScope (.int 0) _ hendpoints
  obtain rfl := Except.ok.inj (hfound.symm.trans hfound')
  obtain ⟨⟨collected, hcollect, hemits⟩, -⟩ := List.forall₂_cons.1 hall
  have hcollected : collect silentScope.document silentOperation.pathItem silentOperation.fields =
      .ok [.obj [("name", .str "a")]] := rfl
  obtain rfl := Except.ok.inj (hcollected.symm.trans hcollect)
  have hquery : Emits silentScope [.obj [("name", .str "a")]] [] := hemits .query
  cases hquery

end Parameter

end ApiTypes
