/-
  The paths of the files of a generation.

  * `File.path_eq`: the files are below the output directory, each under names of its own;
  * `names_files`: these names, file by file.  A schema that has no slash in its name has
    one file name behind `schemas`, an endpoint has the names of its folder and one file
    name behind `endpoints`;
  * `nodup_names_files`: so no two files of a generation have the same names.
-/
import ApiTypes.Output
import ApiTypes.Proofs.Generation
import ApiTypes.Proofs.NameText
import Mathlib.Data.List.Nodup

namespace ApiTypes

/-! ## Names in a path -/

namespace Path

/-- A slash between two texts parts their names. -/
theorem names_ofText_slash (s t : String) :
    (ofText (s ++ "/" ++ t)).names = (ofText s).names ++ (ofText t).names := by
  have hsplit : Text.split '/' (s ++ "/" ++ t) = Text.split '/' s ++ Text.split '/' t :=
    Text.split_append_sep '/' s t
  rw [ofText, hsplit, List.filter_append]
  rfl

theorem names_ofText_of_not_mem {s : String} (h : '/' ∉ s.toList) (hempty : s ≠ "")
    (hpoint : s ≠ ".") : (ofText s).names = [s] := by
  rw [ofText, Text.split_eq_singleton h, List.filter_singleton]
  simp [hempty, hpoint]

/-- A path that does not start with a slash has no root. -/
theorem root_ofText {s : String} (h : s.toList.head? ≠ some '/') : (ofText s).root = "" := by
  rw [ofText, rootOf.eq_def]
  split
  · next hs => exact absurd (congrArg List.head? hs) h
  · next hs => exact absurd (congrArg List.head? hs) h
  · next hs => exact absurd (congrArg List.head? hs) h
  · rfl

theorem mem_segments_of_mem_names {folder segment : String} (h : segment ∈ (ofText folder).names) :
    segment ∈ UrlTree.segments folder := by
  obtain ⟨hmem, hkept⟩ := List.mem_filter.1 h
  exact List.mem_filter.2 ⟨hmem, decide_eq_true (of_decide_eq_true hkept).1⟩

/-- The name of a module's file is not empty and not a point. -/
theorem fileName_ne (name : String) :
    name ++ ".ts" ≠ "" ∧ name ++ ".ts" ≠ "." ∧ name ++ ".ts" ≠ ".." := by
  have hlast : (name ++ ".ts").toList.getLast? = some 's' := by
    rw [String.toList_append, List.getLast?_append_of_ne_nil _ (by decide)]
    decide
  refine ⟨?_, ?_, ?_⟩
  all_goals
    intro heq
    rw [heq] at hlast
    exact absurd hlast (by decide)

/-- The name of a module's file is one name. -/
theorem names_fileName {name : String} (h : '/' ∉ name.toList) :
    (ofText (name ++ ".ts")).names = [name ++ ".ts"] := by
  refine names_ofText_of_not_mem ?_ (fileName_ne name).1 (fileName_ne name).2.1
  rw [String.toList_append, List.mem_append, not_or]
  exact ⟨h, by decide⟩

theorem names_joined (directory : String) {path : String} (h : path.toList.head? ≠ some '/') :
    (ofText (joined directory path)).names = (ofText directory).names ++ (ofText path).names := by
  have hnone : (ofText "").names = [] := by decide
  unfold joined
  rw [if_neg h]
  split
  · next hend =>
    rcases hend with rfl | hlast
    · rw [hnone, String.empty_append, List.nil_append]
    · -- the slash at the end of the directory parts the names
      obtain ⟨ds, hds⟩ := List.getLast?_eq_some_iff.1 hlast
      obtain rfl : directory = String.ofList ds ++ "/" :=
        String.toList_injective (by rw [hds, String.toList_append, String.toList_ofList]; rfl)
      have hdirectory := names_ofText_slash (String.ofList ds) ""
      rw [String.append_empty, hnone, List.append_nil] at hdirectory
      rw [names_ofText_slash, hdirectory]
  · rw [names_ofText_slash]

theorem joined_append (directory : String) {path more : String} (h : path.toList.head? ≠ some '/')
    (hmore : (path ++ more).toList.head? ≠ some '/') :
    joined directory path ++ more = joined directory (path ++ more) := by
  unfold joined
  rw [if_neg h, if_neg hmore]
  split <;> simp only [String.append_assoc]

end Path

theorem head?_ne_of_not_mem {s : String} (h : '/' ∉ s.toList) : s.toList.head? ≠ some '/' :=
  fun hs => h (List.mem_of_mem_head? hs)

/-- The names in the path of an endpoint's file. -/
theorem names_endpointModule {name folder : String} (hname : '/' ∉ name.toList)
    (hfolder : folder.toList.head? ≠ some '/') :
    (Path.ofText (endpointModule name folder ++ ".ts")).names =
      "endpoints" :: ((Path.ofText folder).names ++ [name ++ ".ts"]) := by
  have hendpoints : (Path.ofText "endpoints").names = ["endpoints"] := by decide
  have hfile : '/' ∉ (name ++ ".ts").toList := by
    rw [String.toList_append, List.mem_append, not_or]
    exact ⟨hname, by decide⟩
  unfold endpointModule
  split
  · next hempty =>
    have hsplit : "endpoints/" ++ name ++ ".ts" = "endpoints" ++ "/" ++ (name ++ ".ts") := by
      rw [← String.append_assoc]
      rfl
    have hnone : (Path.ofText "").names = [] := by decide
    rw [hsplit, Path.names_ofText_slash, hendpoints, Path.names_fileName hname, hempty, hnone]
    rfl
  · rw [Path.joined_append _ (head?_ne_of_not_mem hname) (head?_ne_of_not_mem hfile),
      Path.names_joined _ (head?_ne_of_not_mem hfile), Path.names_joined _ hfolder, hendpoints,
      Path.names_fileName hname]
    rfl

/-- The path of an endpoint's file has no root. -/
theorem root_endpointModule {name folder : String} (hname : '/' ∉ name.toList)
    (hfolder : folder.toList.head? ≠ some '/') :
    (Path.ofText (endpointModule name folder ++ ".ts")).root = "" := by
  obtain ⟨rest, hrest⟩ := exists_endpointModule_eq (head?_ne_of_not_mem hname) hfolder
  exact Path.root_ofText (by simp [hrest])

/-! ## Files of a generation -/

namespace Generation

variable {document skip : Json.Value} {g : Generation}

theorem slash_not_mem_of_mem_endpoints (h : ofDocument document skip = .ok g) {e : Endpoint}
    (he : e ∈ g.endpoints) : '/' ∉ e.name.toList := by
  obtain ⟨scope, -, -, rfl, -, -, hendpoints, -⟩ := exists_of_ofDocument h
  obtain ⟨found, pairs, _, hfound, hmem, -⟩ := exists_made_of_mem hendpoints he
  exact Endpoint.slash_not_mem_resolve hfound pairs _ (List.of_mem_zip hmem).2

theorem head?_folder_of_mem_endpoints (h : ofDocument document skip = .ok g) {e : Endpoint}
    (he : e ∈ g.endpoints) : e.folder.toList.head? ≠ some '/' := by
  obtain ⟨-, -, operation, pairs, -, -, -, -, -, hfolder⟩ := exists_operation_of_mem h he
  exact hfolder ▸ Naming.head?_folder_ne operation.path pairs

end Generation

theorem Generation.nodup_keys_schemaDeclarations {document skip : Json.Value} {g : Generation}
    (h : ofDocument document skip = .ok g) : (Entries.keys g.schemaDeclarations).Nodup :=
  (List.filter_sublist.map _).nodup (nodup_keys_declarations h)

namespace Output

variable {document skip : Json.Value} {g : Generation} {f : File}

/-- The names in the path of a file, behind those of the directory. -/
def File.names (f : File) : List String := (Path.ofText (f.place ++ ".ts")).names

/-- A file has a path below the directory. -/
def File.Below (f : File) : Prop := (Path.ofText (f.place ++ ".ts")).root = "" ∧ f.names ≠ []

theorem File.path_eq (directory : Path) (h : f.Below) :
    f.path directory = ⟨directory.root, directory.names ++ f.names⟩ := by
  rw [File.path, Path.within, if_pos h.1]
  rfl

theorem map_place_files (g : Generation) (source : Option Json.Value) (constants : Bool) :
    (files g source constants).map File.place =
      ["common/Http"] ++ (Entries.keys g.schemaDeclarations).map schemaModule ++
        g.endpoints.map (fun e => endpointModule e.name e.folder) ++
        (if constants then ["api"] else []) ++ ["index"] := by
  have hendpoint (schemas : List String) (e : Endpoint) :
      (endpointFile g schemas e).place = endpointModule e.name e.folder := by
    unfold endpointFile
    split <;> rfl
  have hconstants (text : Except Failure String) :
      (if constants then [⟨"api", text⟩] else []).map File.place =
        if constants then ["api"] else [] := by
    cases constants <;> rfl
  simp only [files, List.map_append, List.map_map, Function.comp_def, hendpoint, hconstants,
    Entries.keys]
  rfl

theorem names_schemaModule (name : String) :
    (Path.ofText (schemaModule name ++ ".ts")).names =
      "schemas" :: (Path.ofText (name ++ ".ts")).names := by
  have hschemas : (Path.ofText "schemas").names = ["schemas"] := by decide
  have hsplit : schemaModule name ++ ".ts" = "schemas" ++ "/" ++ (name ++ ".ts") := by
    rw [schemaModule, ← String.append_assoc]
    rfl
  rw [hsplit, Path.names_ofText_slash, hschemas]
  rfl

/-- The files of a generation are below the output directory. -/
theorem below_of_mem_files (h : Generation.ofDocument document skip = .ok g)
    {source : Option Json.Value} {constants : Bool} (hf : f ∈ files g source constants) :
    f.Below := by
  have hplace : f.place ∈ (files g source constants).map File.place := List.mem_map_of_mem hf
  unfold File.Below File.names
  simp only [map_place_files, List.mem_append, List.mem_map, List.mem_singleton] at hplace
  obtain (((hcommon | ⟨name, -, hschema⟩) | ⟨e, he, hendpoint⟩) | hconstants) | hindex := hplace
  · rw [hcommon]
    decide
  · rw [← hschema, names_schemaModule]
    refine ⟨Path.root_ofText ?_, List.cons_ne_nil _ _⟩
    simp [schemaModule]
  · have hslash := Generation.slash_not_mem_of_mem_endpoints h he
    have hfolder := Generation.head?_folder_of_mem_endpoints h he
    rw [← hendpoint, names_endpointModule hslash hfolder]
    exact ⟨root_endpointModule hslash hfolder, List.cons_ne_nil _ _⟩
  · split at hconstants
    · rw [List.mem_singleton.1 hconstants]
      decide
    · exact absurd hconstants List.not_mem_nil
  · rw [hindex]
    decide

/-- The names in the paths of the files, one by one. -/
theorem map_names_files (h : Generation.ofDocument document skip = .ok g)
    (hschemas : ∀ name ∈ Entries.keys g.schemaDeclarations, '/' ∉ name.toList)
    (source : Option Json.Value) (constants : Bool) :
    (files g source constants).map File.names =
      [["common", "Http.ts"]] ++
        (Entries.keys g.schemaDeclarations).map (fun name => ["schemas", name ++ ".ts"]) ++
        g.endpoints.map (fun e =>
          "endpoints" :: ((Path.ofText e.folder).names ++ [e.name ++ ".ts"])) ++
        (if constants then [["api.ts"]] else []) ++ [["index.ts"]] := by
  have hnames : File.names = (fun place => (Path.ofText (place ++ ".ts")).names) ∘ File.place := rfl
  have hfixed : (Path.ofText ("common/Http" ++ ".ts")).names = ["common", "Http.ts"] ∧
      (Path.ofText ("api" ++ ".ts")).names = ["api.ts"] ∧
      (Path.ofText ("index" ++ ".ts")).names = ["index.ts"] := by decide
  rw [hnames, ← List.map_map, map_place_files]
  simp only [List.map_append, List.map_map, List.map_singleton, hfixed.1, hfixed.2.2]
  congr 2
  · congr 1
    · refine congrArg _ (List.map_congr_left fun name hname => ?_)
      exact (names_schemaModule name).trans (by rw [Path.names_fileName (hschemas name hname)])
    · refine List.map_congr_left fun e he => ?_
      exact names_endpointModule (Generation.slash_not_mem_of_mem_endpoints h he)
        (Generation.head?_folder_of_mem_endpoints h he)
  · cases constants with
    | false => rfl
    | true => exact congrArg (fun names => [names]) hfixed.2.1

/-- **Files have paths of their own**: no two have the same names. -/
theorem nodup_names_files (h : Generation.ofDocument document skip = .ok g)
    (hschemas : ∀ name ∈ Entries.keys g.schemaDeclarations, '/' ∉ name.toList)
    (source : Option Json.Value) (constants : Bool) :
    ((files g source constants).map File.names).Nodup := by
  have hschemaNames : ((Entries.keys g.schemaDeclarations).map fun name =>
      ["schemas", name ++ ".ts"]).Nodup :=
    (Generation.nodup_keys_schemaDeclarations h).map fun name name' heq =>
      (String.append_left_inj ".ts").1 (by simpa using heq)
  have hendpointNames : (g.endpoints.map fun e =>
      "endpoints" :: ((Path.ofText e.folder).names ++ [e.name ++ ".ts"])).Nodup := by
    refine List.pairwise_map.2 ((List.pairwise_map.1 (Generation.nodup_names h)).imp ?_)
    intro e e' hne heq
    exact hne ((String.append_left_inj ".ts").1
      (List.cons.inj (List.append_inj_right' (List.cons.inj heq).2 rfl)).1)
  have hconstants : (if constants then [["api.ts"]] else []).Nodup := by
    cases constants <;> decide
  rw [map_names_files h hschemas]
  -- the first names tell the kinds of files apart
  refine List.nodup_append.2 ⟨List.nodup_append.2 ⟨List.nodup_append.2 ⟨List.nodup_append.2
    ⟨List.nodup_singleton _, hschemaNames, ?_⟩, hendpointNames, ?_⟩, hconstants, ?_⟩,
    List.nodup_singleton _, ?_⟩
  · simp
  · simp
  · cases constants <;> simp [or_imp, forall_and]
  · cases constants <;> simp [or_imp, forall_and]

/-- No name in the path of a file leads back. -/
theorem points_not_mem_names (h : Generation.ofDocument document skip = .ok g)
    (hschemas : ∀ name ∈ Entries.keys g.schemaDeclarations, '/' ∉ name.toList)
    (hfolders : ∀ e ∈ g.endpoints, ".." ∉ UrlTree.segments e.folder)
    {source : Option Json.Value} {constants : Bool} (hf : f ∈ files g source constants) :
    ".." ∉ f.names := by
  have hfile (name : String) : ".." ≠ name ++ ".ts" := (Path.fileName_ne name).2.2.symm
  have hnames : f.names ∈ (files g source constants).map File.names := List.mem_map_of_mem hf
  simp only [map_names_files h hschemas, List.mem_append, List.mem_map, List.mem_singleton]
    at hnames
  obtain (((hcommon | ⟨name, -, hschema⟩) | ⟨e, he, hendpoint⟩) | hconstants) | hindex := hnames
  · rw [hcommon]
    decide
  · rw [← hschema]
    simpa using hfile name
  · have hfolder : ".." ∉ (Path.ofText e.folder).names :=
      fun hmem => hfolders e he (Path.mem_segments_of_mem_names hmem)
    rw [← hendpoint]
    simpa [hfolder] using hfile e.name
  · split at hconstants
    · rw [List.mem_singleton.1 hconstants]
      decide
    · exact absurd hconstants List.not_mem_nil
  · rw [hindex]
    decide

end Output

end ApiTypes
