/-
  What the index exports.

  * `Reexports`: every path that a list exports from names one of the written files, each of
    these but the index is named once, and those that are named have an export;
  * `reexports_iff`: when the modules of a generation are so;
  * `write_reexports_iff`: the index that a write leaves exports from these modules.  They are
    the written ones, and modules, if names are plain and every endpoint has a declaration.
-/
import ApiTypes.Proofs.Confined
import ApiTypes.Proofs.ExportLines

namespace ApiTypes.Output

open Json (Value)

/-! ## Modules -/

/-- The modules that the index exports from, in order. -/
def modules (g : Generation) (constants : Bool) : List String :=
  "common/Http" :: (Entries.keys g.schemaDeclarations).map schemaModule ++
    g.endpoints.map (fun e => endpointModule e.name e.folder) ++ if constants then ["api"] else []

/-- They are those of all files but the index. -/
theorem map_place_files_eq_modules (g : Generation) (source : Option Value) (constants : Bool) :
    (files g source constants).map File.place = modules g constants ++ ["index"] := by
  rw [map_place_files]
  rfl

theorem endpointModule_mem_modules {g : Generation} {e : Endpoint} (he : e ∈ g.endpoints)
    (constants : Bool) : endpointModule e.name e.folder ∈ modules g constants :=
  List.mem_append_left _ (List.mem_append_right _ (List.mem_map_of_mem he))

theorem endpointFile_mem_files {g : Generation} {e : Endpoint} (he : e ∈ g.endpoints)
    (source : Option Value) (constants : Bool) :
    endpointFile g (Entries.keys g.schemaDeclarations) e ∈ files g source constants :=
  List.mem_append_left _ (List.mem_append_left _ (List.mem_append_right _ (List.mem_map_of_mem he)))

/-- A path ends in a name, and not as the path of a directory does. -/
def EndsInName (path : String) : Prop :=
  (Text.split '/' path).getLast? ∉ [some "", some ".", some ".."]

instance (path : String) : Decidable (EndsInName path) := inferInstanceAs (Decidable (_ ∉ _))

/-- The place of the file that the path of a module names below a directory. -/
def fileOf? (base : Place) (path : String) : Option Place :=
  if EndsInName path then some (placeIn base path) else none

theorem fileOf?_eq_some {base q : Place} {path : String} :
    fileOf? base path = some q ↔ EndsInName path ∧ placeIn base path = q := by
  unfold fileOf?
  split
  · next hname => simp [hname]
  · next hname => simp [hname]

/-- The exports of an index are files that have been written below a directory: each names
    one, each but the index is named by one, and those that are named are modules. -/
structure Reexports (before after : Disk) (directory : Path) (paths : List Path)
    (exports : List String) : Prop where
  /-- A path that is exported from names one written file. -/
  one : ∀ path ∈ exports, ∃ q, fileOf? (before.placeOf directory) path = some q ∧
    (paths.map before.placeOf).count q = 1
  /-- A written file but the index is exported from once. -/
  once : ∀ q ∈ paths.map before.placeOf, q ≠ placeIn (before.placeOf directory) "index" →
    (exports.map (fileOf? (before.placeOf directory))).count (some q) = 1
  /-- A file that is exported from has an export. -/
  hasExport : ∀ path ∈ exports, ∀ q, fileOf? (before.placeOf directory) path = some q →
    ∃ text, after.HoldsText q text ∧ HasExport text

section

variable {document skip : Value} {g : Generation} {source : Option Value} {options : Options}
  {directory : Path} {disk after : Disk} {paths : List Path}
  (hgen : Generation.ofDocument document skip = .ok g)
  (h : write directory g source options disk = (.ok paths, after))

include hgen h

/-! ## Places and contents -/

/-- The places of what is written. -/
theorem map_placeOf_write : paths.map disk.placeOf =
    (modules g options.constants ++ ["index"]).map (placeIn (disk.placeOf directory)) := by
  obtain ⟨rfl, -⟩ := write_spec h
  rw [← map_place_files_eq_modules g source, List.map_map, List.map_map]
  refine List.map_congr_left fun f hf => ?_
  exact File.placeOf_path (below_of_mem_files hgen hf) disk directory

/-- What is written to a place of its own is there. -/
theorem exists_file?_of_write
    (hnodup : ((modules g options.constants ++ ["index"]).map
      (placeIn (disk.placeOf directory))).Nodup)
    {f : File} (hf : f ∈ files g source options.constants) :
    ∃ text, f.text = .ok text ∧
      after.HoldsText (placeIn (disk.placeOf directory) f.place) text := by
  obtain ⟨start, hplaces, hwrite⟩ := exists_writeFiles_of_write h
  have hplace := File.placeOf_path (below_of_mem_files hgen hf) disk directory
  have hstart : ((files g source options.constants).map fun f =>
      start.placeOf (f.path directory)).Nodup := by
    rw [hplaces, ← map_placeOf_write hgen h, (write_spec h).1, List.map_map] at *
    exact hnodup
  obtain ⟨text, htext, hfile⟩ := file?_of_mem_writeFiles hstart hwrite hf
  exact ⟨text, htext, by rwa [hplaces, hplace] at hfile⟩

/-- The index is written last, and exports from the modules if their paths can stand in
    quotes. -/
theorem exists_index (hquotable : ∀ path ∈ modules g options.constants, Quotable path) :
    ∃ index, after.HoldsText (placeIn (disk.placeOf directory) "index") index ∧
      exportsOf index = modules g options.constants := by
  obtain ⟨start, hplaces, hwrite⟩ := exists_writeFiles_of_write h
  obtain ⟨text, htext, hfile⟩ := file?_of_writeFiles_append hwrite nofun
  obtain rfl := Except.ok.inj htext
  have hbelow := below_of_mem_files hgen (List.mem_append_right _ (List.mem_singleton_self _) :
    (⟨"index", _⟩ : File) ∈ files g source options.constants)
  rw [hplaces, File.placeOf_path hbelow] at hfile
  refine ⟨_, hfile, exportsOf_indexFile (fun name hname => ?_) (fun path hpath => ?_) _⟩
  · exact hquotable _ (List.mem_append_left _ (List.mem_append_left _
      (List.mem_cons_of_mem _ (List.mem_map_of_mem hname))))
  · exact hquotable _ (List.mem_append_left _ (List.mem_append_right _ hpath))

/-! ## Exports -/

/-- Modules that are each one written file have paths that end in names and places of their
    own, apart from the index. -/
theorem Reexports.nodup
    (hexports : Reexports disk after directory paths (modules g options.constants)) :
    (∀ path ∈ modules g options.constants, EndsInName path) ∧
      ((modules g options.constants ++ ["index"]).map
        (placeIn (disk.placeOf directory))).Nodup := by
  have hplaces := map_placeOf_write hgen h
  have hone : ∀ path ∈ modules g options.constants, EndsInName path ∧
      (paths.map disk.placeOf).count (placeIn (disk.placeOf directory) path) = 1 := by
    intro path hpath
    obtain ⟨q, hq, hcount⟩ := hexports.one path hpath
    obtain ⟨hname, rfl⟩ := fileOf?_eq_some.1 hq
    exact ⟨hname, hcount⟩
  refine ⟨fun path hpath => (hone path hpath).1, ?_⟩
  rw [← hplaces, List.nodup_iff_count_eq_one]
  intro q hq
  by_cases hmodule : q ∈ (modules g options.constants).map (placeIn (disk.placeOf directory))
  · obtain ⟨path, hpath, rfl⟩ := List.mem_map.1 hmodule
    exact (hone path hpath).2
  · -- the place of the index, which is no other module's
    rw [hplaces, List.map_append, List.map_singleton, List.mem_append, List.mem_singleton] at hq
    obtain rfl := hq.resolve_left hmodule
    rw [hplaces, List.map_append, List.map_singleton, List.count_append,
      List.count_eq_zero_of_not_mem hmodule, List.count_singleton_self]

/-- The file of an endpoint has an export only if there is something to declare. -/
theorem Reexports.declarations_ne_nil
    (hexports : Reexports disk after directory paths (modules g options.constants)) {e : Endpoint}
    (he : e ∈ g.endpoints) : e.declarations ≠ [] := by
  obtain ⟨hnames, hnodup⟩ := hexports.nodup hgen h
  have hmodule := endpointModule_mem_modules he options.constants
  obtain ⟨text, hfile, hhas⟩ := hexports.hasExport _ hmodule _
    (fileOf?_eq_some.2 ⟨hnames _ hmodule, rfl⟩)
  obtain ⟨text', htext', hfile'⟩ := exists_file?_of_write hgen h hnodup
    (endpointFile_mem_files he source options.constants)
  rw [place_endpointFile] at hfile'
  obtain rfl := hfile.unique hfile'
  exact (hasExport_endpointFile_iff hgen he htext').1 hhas

theorem reexports_of_nodup (hnames : ∀ path ∈ modules g options.constants, EndsInName path)
    (hnodup : ((modules g options.constants ++ ["index"]).map
      (placeIn (disk.placeOf directory))).Nodup)
    (hdeclared : ∀ e ∈ g.endpoints, e.declarations ≠ []) :
    Reexports disk after directory paths (modules g options.constants) := by
  have hplaces := map_placeOf_write hgen h
  have hfiles : (modules g options.constants).map (fileOf? (disk.placeOf directory)) =
      ((modules g options.constants).map (placeIn (disk.placeOf directory))).map some := by
    rw [List.map_map]
    exact List.map_congr_left fun path hpath => fileOf?_eq_some.2 ⟨hnames path hpath, rfl⟩
  refine ⟨fun path hpath => ⟨_, fileOf?_eq_some.2 ⟨hnames path hpath, rfl⟩, ?_⟩,
    fun q hq hne => ?_, fun path hpath q hq => ?_⟩
  · rw [hplaces]
    exact List.count_eq_one_of_mem hnodup (List.mem_map_of_mem (List.mem_append_left _ hpath))
  · rw [hplaces, List.map_append, List.map_singleton, List.mem_append, List.mem_singleton] at hq
    rw [List.map_append] at hnodup
    have hfirst := (List.nodup_append.1 hnodup).1.map fun _ _ => Option.some.inj
    rw [hfiles]
    exact List.count_eq_one_of_mem hfirst (List.mem_map_of_mem (hq.resolve_right hne))
  · obtain ⟨-, rfl⟩ := fileOf?_eq_some.1 hq
    have hplace : path ∈ (files g source options.constants).map File.place := by
      rw [map_place_files_eq_modules]
      exact List.mem_append_left _ hpath
    obtain ⟨f, hf, rfl⟩ := List.mem_map.1 hplace
    obtain ⟨text, htext, hfile⟩ := exists_file?_of_write hgen h hnodup hf
    exact ⟨text, hfile, hasExport_of_mem_files hgen hdeclared hf htext⟩

/-- **The modules of a generation** are the written files, and modules, if and only if all
    their paths end in names and lead to places of their own, apart from the index, and every
    endpoint has a declaration. -/
theorem reexports_iff :
    Reexports disk after directory paths (modules g options.constants) ↔
      (∀ path ∈ modules g options.constants, EndsInName path) ∧
      ((modules g options.constants ++ ["index"]).map (placeIn (disk.placeOf directory))).Nodup ∧
      ∀ e ∈ g.endpoints, e.declarations ≠ [] := by
  constructor
  · intro hexports
    obtain ⟨hnames, hnodup⟩ := hexports.nodup hgen h
    exact ⟨hnames, hnodup, fun e he => hexports.declarations_ne_nil hgen h he⟩
  · rintro ⟨hnames, hnodup, hdeclared⟩
    exact reexports_of_nodup hgen h hnames hnodup hdeclared

/-- The places are different if names are plain and no folder leads up. -/
theorem nodup_places_of_plain
    (hschemas : ∀ name ∈ Entries.keys g.schemaDeclarations, PlainName name)
    (hfolders : ∀ e ∈ g.endpoints, ".." ∉ UrlTree.segments e.folder) :
    ((modules g options.constants ++ ["index"]).map
      (placeIn (disk.placeOf directory))).Nodup := by
  rw [← map_placeOf_write hgen h, (write_spec h).1]
  exact (confined_of_plain hgen hschemas hfolders source options.constants disk directory).apart

/-- **The index** that a write leaves exports from the modules of the generation, as long as
    their paths can stand in quotes.  These are the written files, each once, and modules, if
    and only if all the paths end in names and lead to places of their own, apart from the
    index, and every endpoint has a declaration; under plain names it is the declarations
    alone that matter. -/
theorem write_reexports_iff
    (hquotable : ∀ path ∈ modules g options.constants, Quotable path) :
    ∃ index, after.HoldsText (placeIn (disk.placeOf directory) "index") index ∧
      exportsOf index = modules g options.constants ∧
      (Reexports disk after directory paths (exportsOf index) ↔
        (∀ path ∈ exportsOf index, EndsInName path) ∧
        ((exportsOf index ++ ["index"]).map (placeIn (disk.placeOf directory))).Nodup ∧
        ∀ e ∈ g.endpoints, e.declarations ≠ []) ∧
      ((∀ path ∈ exportsOf index, EndsInName path) →
        (∀ name ∈ Entries.keys g.schemaDeclarations, PlainName name) →
        (∀ e ∈ g.endpoints, ".." ∉ UrlTree.segments e.folder) →
        (Reexports disk after directory paths (exportsOf index) ↔
          ∀ e ∈ g.endpoints, e.declarations ≠ [])) := by
  obtain ⟨index, hindex, hexports⟩ := exists_index hgen h hquotable
  refine ⟨index, hindex, hexports, ?_, ?_⟩
  · rw [hexports]
    exact reexports_iff hgen h
  · rw [hexports, reexports_iff hgen h]
    intro hnames hschemas hfolders
    have hnodup := nodup_places_of_plain hgen h hschemas hfolders
    exact ⟨fun hall => hall.2.2, fun hdeclared => ⟨hnames, hnodup, hdeclared⟩⟩

end

/-! ## One operation -/

/-- A parameter of a query. -/
def queryParameter : Value := .obj [("name", .str "q"), ("in", .str "query")]

/-- An operation with the parameter. -/
def queryingOperation : Operation :=
  let fields := [("parameters", .arr [queryParameter])]
  ⟨"/a", "get", [("get", .obj fields)], fields⟩

/-- The document of the operation. -/
def queryingDocument : Value := .obj [("paths", .obj [("/a", .obj queryingOperation.pathItem)])]

/-- The type of its parameters. -/
def queryDeclaration : Declaration :=
  let type := .object [(⟨none, "q", false⟩, .keyword .string)] none
  ⟨"a_QueryParams", exportType "a_QueryParams" type, .empty, some type⟩

/-- The endpoint of the operation. -/
def queryingEndpoint : Endpoint :=
  ⟨"a", Naming.name "/a" 0, "get", "/a", Naming.folder "/a" 0, .str "default", .str "",
    [(.query, queryDeclaration)], none, []⟩

theorem exists_generation_querying :
    ∃ g, Generation.ofDocument queryingDocument (.int 0) = .ok g ∧
      g.endpoints = [queryingEndpoint] ∧ g.schemaDeclarations = [] := by
  let scope : Scope := ⟨queryingDocument, .ofSchemas []⟩
  have hdependencies : dependencies queryingDocument .null = .ok .empty := by
    rw [dependencies, collect, collect]
    · rfl
    · rintro _ ⟨⟩
  have hproperty : Parameter.property scope queryParameter =
      .ok ((⟨none, "q", false⟩, .keyword .string), .empty) :=
    Steps.bind_eq_ok.2 ⟨some (.str "q"), rfl, Steps.bind_eq_ok.2 ⟨.keyword .string, rfl,
      Steps.bind_eq_ok.2 ⟨_, hdependencies, rfl⟩⟩⟩
  have hdeclare : Parameter.declare scope [queryParameter] "a_QueryParams" =
      .ok queryDeclaration :=
    Steps.bind_eq_ok.2 ⟨_, Steps.mapM_eq_ok.2 (.cons hproperty .nil), rfl⟩
  have hall : Parameter.declareAll scope [queryParameter] "a" =
      .ok [(.query, queryDeclaration)] := by
    rw [Parameter.declareAll, Parameter.Location.all, List.filterMapM_cons]
    refine Steps.bind_eq_ok.2 ⟨none, rfl, ?_⟩
    dsimp only
    rw [List.filterMapM_cons]
    refine Steps.bind_eq_ok.2 ⟨some (.query, queryDeclaration),
      Steps.bind_eq_ok.2 ⟨_, hdeclare, rfl⟩, ?_⟩
    rfl
  have hcollect : Parameter.collect queryingDocument queryingOperation.pathItem
      queryingOperation.fields = .ok [queryParameter] := rfl
  have hof : Endpoint.ofOperation scope 0 queryingOperation "a" = .ok queryingEndpoint :=
    Steps.bind_eq_ok.2 ⟨_, hcollect, Steps.bind_eq_ok.2 ⟨_, rfl,
      Steps.bind_eq_ok.2 ⟨_, hall, Steps.bind_eq_ok.2 ⟨none, rfl,
        Steps.bind_eq_ok.2 ⟨[], rfl, rfl⟩⟩⟩⟩⟩
  have hfound : operations queryingDocument = .ok [queryingOperation] := by cbv
  have hresolve : Endpoint.resolve [queryingOperation.proposal 0] = ["a"] := by decide +kernel
  have hendpoints : endpointsOf scope (.int 0) = .ok [queryingEndpoint] := by
    refine Steps.bind_eq_ok.2 ⟨_, hfound, Steps.bind_eq_ok.2 ⟨0, rfl, Steps.mapM_eq_ok.2 ?_⟩⟩
    rw [List.map_singleton, hresolve]
    exact .cons hof .nil
  obtain ⟨made, hmade⟩ : ∃ made, [queryingEndpoint].mapM Generation.declarationOf = .ok made :=
    ⟨_, rfl⟩
  obtain ⟨g, hgen, hg⟩ : ∃ g, Generation.ofDocument queryingDocument (.int 0) = .ok g ∧
      g.endpoints = [queryingEndpoint] :=
    ⟨_, Steps.bind_eq_ok.2 ⟨scope, rfl, Steps.bind_eq_ok.2 ⟨[], rfl,
      Steps.bind_eq_ok.2 ⟨_, rfl, Steps.bind_eq_ok.2 ⟨_, hendpoints,
        Steps.bind_eq_ok.2 ⟨made, hmade, rfl⟩⟩⟩⟩⟩, rfl⟩
  exact ⟨g, hgen, hg, Generation.schemaDeclarations_eq_nil hgen rfl⟩

/-- An endpoint without a folder can be written. -/
theorem exists_write_of_singleton {document skip : Value} {g : Generation} {e : Endpoint}
    (hgen : Generation.ofDocument document skip = .ok g) (hendpoints : g.endpoints = [e])
    (hschemas : g.schemaDeclarations = [])
    (hmodule : endpointModule e.name e.folder = "endpoints/a") {code : String}
    (hcode : e.code = .ok code) (hmark : Text.mark ∉ (Template.typeFile [] code).toList) :
    modules g false = ["common/Http", "endpoints/a"] ∧
      ∃ after, write (Path.ofText "out") g none ⟨false, false⟩ emptyDisk =
        (.ok (pathsInOut ["endpoints", "a.ts"]), after) := by
  refine ⟨?_, ?_⟩
  · rw [modules, hendpoints, hschemas, List.map_singleton, hmodule]
    rfl
  · have hpath : (Path.ofText ("endpoints/a" ++ ".ts")).within (Path.ofText "out") =
        ⟨"", ["out", "endpoints", "a.ts"]⟩ := by decide
    have hindex : ∀ path ∈ ["endpoints/a"], Text.mark ∉ path.toList :=
      List.forall_mem_singleton.2 (by decide)
    obtain ⟨after, hwritable⟩ : ∃ after, Writable (Path.ofText "out") emptyDisk
        (files g none false) (pathsInOut ["endpoints", "a.ts"]) after := by
      rw [files_eq_of_singleton hgen hendpoints hschemas hcode, hmodule]
      exact ⟨_, .cons (by decide) rfl bytes?_commonFile rfl
        (.cons hpath rfl (Text.bytes?_of_not_mem hmark) rfl
          (.cons (by decide) rfl (bytes?_indexFile nofun hindex) rfl .nil))⟩
    exact ⟨after, hwritable.writeFiles_eq⟩

/-- The places of the files in `out`. -/
theorem placeIn_out : placeIn (emptyDisk.placeOf (Path.ofText "out")) "endpoints/a" =
      ["home", "out", "endpoints", "a.ts"] ∧
    placeIn (emptyDisk.placeOf (Path.ofText "out")) "index" = ["home", "out", "index.ts"] := by
  decide

/-- The file of the endpoint has an export. -/
theorem write_reexports_iff_querying : ∃ g after index,
    Generation.ofDocument queryingDocument (.int 0) = .ok g ∧
    write (Path.ofText "out") g none ⟨false, false⟩ emptyDisk =
      (.ok (pathsInOut ["endpoints", "a.ts"]), after) ∧
    after.HoldsText ["home", "out", "index.ts"] index ∧
    exportsOf index = ["common/Http", "endpoints/a"] ∧
    Reexports emptyDisk after (Path.ofText "out") (pathsInOut ["endpoints", "a.ts"])
      (exportsOf index) := by
  obtain ⟨g, hgen, hendpoints, hschemas⟩ := exists_generation_querying
  obtain ⟨hmodules, after, hwrite⟩ := exists_write_of_singleton hgen hendpoints hschemas
    (by decide) rfl (by decide)
  have hquotable : ∀ path ∈ modules g false, Quotable path := by
    rw [hmodules]
    decide
  obtain ⟨index, hindex, hexports, -, hplain⟩ := write_reexports_iff hgen hwrite hquotable
  refine ⟨g, after, index, hgen, hwrite, placeIn_out.2 ▸ hindex, hexports.trans hmodules, ?_⟩
  refine (hplain ?_ ?_ ?_).2 ?_
  · rw [hexports, hmodules]
    decide
  · rw [hschemas]
    exact nofun
  · rw [hendpoints]
    exact List.forall_mem_singleton.2 (by decide)
  · rw [hendpoints]
    exact List.forall_mem_singleton.2 (List.cons_ne_nil _ _)

/-- The file of an endpoint that declares nothing is exported from, but is a comment. -/
theorem not_reexports_bare : ∃ g after index,
    Generation.ofDocument (Generation.bareDocument ["/a"]) (.int 0) = .ok g ∧
    write (Path.ofText "out") g none ⟨false, false⟩ emptyDisk =
      (.ok (pathsInOut ["endpoints", "a.ts"]), after) ∧
    after.HoldsText ["home", "out", "index.ts"] index ∧
    exportsOf index = ["common/Http", "endpoints/a"] ∧
    after.HoldsText ["home", "out", "endpoints", "a.ts"]
      "/**\n * Endpoint: GET /a\n */\n" ∧
    ¬ HasExport "/**\n * Endpoint: GET /a\n */\n" ∧
    ¬ Reexports emptyDisk after (Path.ofText "out") (pathsInOut ["endpoints", "a.ts"])
      (exportsOf index) := by
  obtain ⟨g, hgen, hendpoints, hschemas, hfiles⟩ :=
    @exists_generation_files_bare "/a" "a" (by decide +kernel)
  obtain ⟨hmodules, after, hwrite⟩ := exists_write_of_singleton hgen hendpoints hschemas
    (by decide) (code_bareEndpoint "/a" "a") (by decide)
  have hquotable : ∀ path ∈ modules g false, Quotable path := by
    rw [hmodules]
    decide
  obtain ⟨index, hindex, hexports⟩ := exists_index hgen hwrite hquotable
  have hnodup : ((modules g false ++ ["index"]).map
      (placeIn (emptyDisk.placeOf (Path.ofText "out")))).Nodup := by
    rw [hmodules]
    decide
  have hmem : (⟨"endpoints/a", .ok "/**\n * Endpoint: GET /a\n */\n"⟩ : File) ∈
      files g none false := by
    have htext : Template.typeFile [] (bareCode "/a") =
        "/**\n * Endpoint: GET /a\n */\n" := by decide
    have hmodule : endpointModule "a" (Naming.folder "/a" 0) = "endpoints/a" := by decide
    rw [hfiles, bareFiles, htext, hmodule]
    exact List.mem_cons_of_mem _ List.mem_cons_self
  obtain ⟨text, htext, hfile⟩ := exists_file?_of_write hgen hwrite hnodup hmem
  obtain rfl := Except.ok.inj htext
  refine ⟨g, after, index, hgen, hwrite, placeIn_out.2 ▸ hindex, hexports.trans hmodules,
    placeIn_out.1 ▸ hfile, by decide, fun hreexports => ?_⟩
  rw [hexports] at hreexports
  exact hreexports.declarations_ne_nil hgen hwrite (hendpoints ▸ List.mem_singleton_self _) rfl

end ApiTypes.Output
