/-
  Exports in the texts of the files.

  A text is read line by line, as the generator writes it.

  * `HasExport`: some line of a text exports something.  The code of every declaration has
    such a line, and so has the file of an endpoint if and only if the endpoint has a
    declaration (`hasExport_endpointFile_iff`);
  * `exportsOf`: the modules that the lines of a text export from.  If nothing in their paths
    ends a quoted text or a line, the index exports from the common types, each schema, each
    endpoint and the constants, in this order (`exportsOf_indexFile`).
-/
import ApiTypes.Proofs.Imports

namespace ApiTypes

open Json (Value)

/-! ## Exports -/

/-- What a line starts with that exports something. -/
def exportWord : String := "export "

/-- A text has a line that exports something. -/
def HasExport (text : String) : Prop :=
  ∃ line ∈ Text.split '\n' text, exportWord.toList <+: line.toList

instance (text : String) : Decidable (HasExport text) := List.decidableBEx _ _

namespace HasExport

variable {s : String}

/-- The lines of a text are kept by what stands behind it, but for the end of the last. -/
theorem append (h : HasExport s) (t : String) : HasExport (s ++ t) := by
  obtain ⟨line, hline, hstart⟩ := h
  obtain ⟨front, last, first, rest, hs, -, hboth⟩ := Text.exists_split_append '\n' s t
  rw [hs] at hline
  rw [HasExport, hboth]
  rcases List.mem_append.1 hline with hline | hline
  · exact ⟨line, List.mem_append_left _ hline, hstart⟩
  · obtain rfl := List.mem_singleton.1 hline
    refine ⟨line ++ first, List.mem_append_right _ List.mem_cons_self, ?_⟩
    rw [String.toList_append]
    exact hstart.trans (List.prefix_append _ _)

theorem behind_line (h : HasExport s) (front : String) : HasExport (front ++ "\n" ++ s) := by
  obtain ⟨line, hline, hstart⟩ := h
  have hend : "\n" = String.singleton '\n' := rfl
  rw [HasExport, hend, Text.split_append_sep]
  exact ⟨line, List.mem_append_right _ hline, hstart⟩

/-- The end of a text in front changes the first line only. -/
theorem behind (h : ∃ line ∈ (Text.split '\n' s).tail, exportWord.toList <+: line.toList)
    (front : String) : HasExport (front ++ s) := by
  obtain ⟨line, hline, hstart⟩ := h
  obtain ⟨pieces, last, first, rest, -, hs, hboth⟩ := Text.exists_split_append '\n' front s
  rw [hs, List.tail_cons] at hline
  rw [HasExport, hboth]
  exact ⟨line, List.mem_append_right _ (List.mem_cons_of_mem _ hline), hstart⟩

theorem of_start {cs : List Char} (h : exportWord.toList.isPrefixOf cs = true) :
    HasExport (String.ofList cs) := by
  obtain ⟨rest, rfl⟩ := List.isPrefixOf_iff_prefix.1 h
  have hword : HasExport exportWord := by decide
  rw [String.ofList_append, String.ofList_toList]
  exact hword.append _

end HasExport

theorem not_hasExport_ofLines {lines : List String} (hends : ∀ line ∈ lines, '\n' ∉ line.toList)
    (h : ∀ line ∈ lines, ¬ exportWord.toList <+: line.toList) :
    ¬ HasExport (Text.ofLines lines) := by
  rintro ⟨line, hline, hstart⟩
  rw [Text.split_ofLines hends] at hline
  rcases List.mem_append.1 hline with hline | hline
  · exact h line hline hstart
  · rw [List.mem_singleton.1 hline] at hstart
    exact absurd hstart (by decide)

/-! ## Code of declarations -/

theorem hasExport_exportType (name : String) (type : TypeExpr) :
    HasExport (exportType name type) := by
  have hstart : HasExport "export type " := .of_start (by decide)
  exact (((hstart.append _).append _).append _).append _

/-- A description stands on lines of its own. -/
theorem hasExport_blockOf {description : Option Value} {comment code : String}
    (h : Comment.blockOf "" description = .ok comment) (hcode : HasExport code) :
    HasExport (comment ++ code) := by
  obtain ⟨text, -, rfl⟩ := Steps.map_eq_ok.1 h
  unfold Comment.block
  split
  · rwa [String.empty_append]
  · exact hcode.behind_line _

section

variable {scope : Scope} {name : String} {schema : Value} {d : Declaration}

theorem hasExport_declareSchema (h : declareSchema scope name schema = .ok d) :
    HasExport d.code := by
  obtain ⟨type, code, referred, hdeclare, -, rfl⟩ := declareSchema_eq_ok_iff.1 h
  obtain ⟨-, description, comment, -, -, -, hcomment, rfl⟩ := Scope.declare_eq_ok_iff.1 hdeclare
  exact hasExport_blockOf hcomment (hasExport_exportType name type)

theorem hasExport_declarePayload {description : Option Value}
    (h : declarePayload scope name schema description = .ok d) : HasExport d.code := by
  obtain ⟨type, comment, referred, -, hcomment, -, rfl⟩ := declarePayload_eq_ok_iff.1 h
  exact hasExport_blockOf hcomment (hasExport_exportType name type)

theorem Parameter.hasExport_declare {parameters : List Value}
    (h : declare scope parameters name = .ok d) : HasExport d.code := by
  obtain ⟨properties, -, h⟩ := Steps.bind_eq_ok.1 h
  obtain rfl := Except.ok.inj h
  exact hasExport_exportType name _

/-! ## Code of endpoints -/

/-- Texts that are joined have an export if one of them has. -/
theorem hasExport_join : ∀ {codes : List String}, (∃ code ∈ codes, HasExport code) →
    HasExport (Text.join "\n\n" codes)
  | [code], h => by
    obtain ⟨_, hmem, hcode⟩ := h
    obtain rfl := List.mem_singleton.1 hmem
    rwa [Text.join, String.intercalate_singleton]
  | code :: next :: rest, h => by
    have hends : "\n\n" = "\n" ++ "\n" := rfl
    obtain ⟨found, hmem, hcode⟩ := h
    rw [Text.join, String.intercalate_cons_cons]
    rcases List.mem_cons.1 hmem with rfl | hmem
    · exact (hcode.append _).append _
    · rw [hends, ← String.append_assoc]
      exact (hasExport_join ⟨found, hmem, hcode⟩).behind_line _

namespace Endpoint

variable {operation : Operation} {skip : Nat} {e : Endpoint}

theorem hasExport_of_mem_declarations (h : ofOperation scope skip operation name = .ok e)
    (hd : d ∈ e.declarations) : HasExport d.code := by
  rcases declare_or_declarePayload h hd with ⟨_, _, hd⟩ | ⟨_, _, _, hd⟩
  · exact Parameter.hasExport_declare hd
  · exact hasExport_declarePayload hd

theorem hasExport_code (h : ofOperation scope skip operation name = .ok e) {code : String}
    (hcode : e.code = .ok code) (hne : e.declarations ≠ []) : HasExport code := by
  obtain ⟨d, hd⟩ := List.exists_mem_of_ne_nil _ hne
  obtain ⟨summary, -, hcode⟩ := Steps.bind_eq_ok.1 hcode
  obtain rfl := Except.ok.inj hcode
  refine hasExport_join ⟨d.code, ?_, hasExport_of_mem_declarations h hd⟩
  exact List.mem_cons_of_mem _ (List.mem_map_of_mem hd)

/-- The code of an endpoint without declarations is a comment. -/
theorem exists_eq_body_of_code (hnone : e.declarations = []) {code : String}
    (hcode : e.code = .ok code) : ∃ heading, code = Comment.body "" heading := by
  obtain ⟨summary, -, hcode⟩ := Steps.bind_eq_ok.1 hcode
  rw [hnone] at hcode
  exact ⟨_, (Except.ok.inj hcode).symm.trans String.intercalate_singleton⟩

end Endpoint

end

/-- The lines of a comment. -/
def commentLines (text : String) : List String :=
  ["/**"] ++ (Text.split '\n' text).map (" * " ++ ·) ++ [" */"]

theorem body_eq_ofLines (text : String) :
    Comment.body "" text ++ "\n" = Text.ofLines (commentLines text) := by
  rw [commentLines, Text.ofLines_append, Text.ofLines_append,
    ← Text.join_eq_ofLines " * " (Text.split_ne_nil '\n' text)]
  simp only [Comment.body, Text.ofLines, String.empty_append, String.append_assoc]
  rfl

/-- A comment has no export, whatever its text. -/
theorem not_hasExport_body (text : String) : ¬ HasExport (Comment.body "" text ++ "\n") := by
  have hlines : ∀ line ∈ commentLines text,
      '\n' ∉ line.toList ∧ ¬ exportWord.toList <+: line.toList := by
    intro line hline
    simp only [commentLines, List.mem_append, List.mem_singleton, List.mem_map] at hline
    obtain (rfl | ⟨piece, hpiece, rfl⟩) | rfl := hline
    · decide
    · have hend := Text.not_mem_of_mem_split hpiece
      rw [String.toList_append, List.mem_append, not_or]
      refine ⟨⟨by decide, hend⟩, fun hstart => ?_⟩
      exact absurd (List.cons_prefix_cons.1 hstart).1 (by decide)
    · decide
  rw [body_eq_ofLines]
  exact not_hasExport_ofLines (fun line hline => (hlines line hline).1)
    fun line hline => (hlines line hline).2

/-! ## Files -/

namespace Template

theorem hasExport_typeFile {code : String} (h : HasExport code) (imports : List (String × String)) :
    HasExport (typeFile imports code) := by
  have hcode := h.append "\n"
  unfold typeFile
  split
  · next hnone =>
    rw [List.isEmpty_iff.1 hnone]
    rwa [List.map_nil, String.join_nil, String.append_empty, String.empty_append]
  · rw [String.append_assoc]
    exact hcode.behind_line _

theorem hasExport_commonFile : HasExport commonFile := by
  rw [commonFile, Text.join, String.intercalate_cons_cons]
  exact ((HasExport.of_start (by decide)).append _).append _

theorem hasExport_constantsFile (title tree : String) : HasExport (constantsFile title tree) :=
  ((HasExport.behind (by decide) _).append _).append _

theorem hasExport_indexFile (schemas modules : List String) (constants : Bool) :
    HasExport (indexFile schemas modules constants) := by
  have hcommon : HasExport
      "// Common types\nexport * from './common/Http';\n\n// Schema types\n" := by decide
  exact (((hcommon.append _).append _).append _).append _

end Template

namespace Output

variable {document skip : Value} {g : Generation} {text : String} {schemas : List String}

theorem hasExport_schemaFile (hgen : Generation.ofDocument document skip = .ok g) {name : String}
    {d : Declaration} (hmem : (name, d) ∈ g.schemaDeclarations)
    (htext : (declarationFile (schemaModule name) schemas d).text = .ok text) :
    HasExport text := by
  obtain ⟨scope, _, schema, rfl, -, -, hd⟩ := Generation.exists_schema_of_mem hgen hmem
  obtain ⟨found, -, htext⟩ := Steps.bind_eq_ok.1 htext
  obtain rfl := Except.ok.inj htext
  exact Template.hasExport_typeFile (hasExport_declareSchema hd) found

/-- **The file of an endpoint** has an export if and only if the endpoint has a
    declaration. -/
theorem hasExport_endpointFile_iff (hgen : Generation.ofDocument document skip = .ok g)
    {e : Endpoint} (he : e ∈ g.endpoints) (htext : (endpointFile g schemas e).text = .ok text) :
    HasExport text ↔ e.declarations ≠ [] := by
  obtain ⟨scope, _, operation, pairs, rfl, -, -, hof, -, -⟩ :=
    Generation.exists_operation_of_mem hgen he
  obtain ⟨code, hcode, hfile⟩ := endpointFile_eq hgen he schemas
  rw [hfile] at htext
  obtain ⟨found, hfound, htext⟩ := Steps.bind_eq_ok.1 htext
  obtain rfl := Except.ok.inj htext
  constructor
  · -- without declarations there is nothing but the comment
    intro h hnone
    have hdependencies : e.dependencies = .empty := by
      rw [Endpoint.dependencies, hnone]
      rfl
    obtain ⟨heading, rfl⟩ := Endpoint.exists_eq_body_of_code hnone hcode
    rw [hdependencies] at hfound
    obtain rfl : [] = found := Except.ok.inj hfound
    have htext (code : String) : Template.typeFile [] code = code ++ "\n" := by
      simp [Template.typeFile, String.join_nil]
    rw [htext] at h
    exact not_hasExport_body _ h
  · intro hne
    exact Template.hasExport_typeFile (Endpoint.hasExport_code hof hcode hne) found

/-- Every other file has an export. -/
theorem hasExport_of_mem_files (hgen : Generation.ofDocument document skip = .ok g)
    (hdeclared : ∀ e ∈ g.endpoints, e.declarations ≠ []) {source : Option Value}
    {constants : Bool} {f : File} (hf : f ∈ files g source constants)
    (htext : f.text = .ok text) : HasExport text := by
  simp only [files, List.mem_append, List.mem_map, List.mem_singleton] at hf
  obtain (((rfl | ⟨⟨name, d⟩, hmem, rfl⟩) | ⟨e, he, rfl⟩) | hconstants) | rfl := hf
  · obtain rfl := Except.ok.inj htext
    exact Template.hasExport_commonFile
  · exact hasExport_schemaFile hgen hmem htext
  · exact (hasExport_endpointFile_iff hgen he htext).2 (hdeclared e he)
  · split at hconstants
    · obtain rfl := List.mem_singleton.1 hconstants
      obtain ⟨title, -, htext⟩ := Steps.bind_eq_ok.1 htext
      obtain rfl := Except.ok.inj htext
      exact Template.hasExport_constantsFile _ _
    · exact absurd hconstants List.not_mem_nil
  · obtain rfl := Except.ok.inj htext
    exact Template.hasExport_indexFile _ _ _

end Output

/-! ## Reading the index -/

/-- The module that a line exports from, if it does. -/
def exportedFrom? (line : String) : Option String :=
  match Text.split quoteMark line with
  | [front, path, rest] =>
    if exportWord.toList.isPrefixOf front.toList ∧ " from ".toList.isSuffixOf front.toList ∧
        "./".toList.isPrefixOf path.toList ∧ rest = ";" then
      some (String.ofList (path.toList.drop 2))
    else none
  | _ => none

/-- The modules that a text exports from. -/
def exportsOf (text : String) : List String := (Text.split '\n' text).filterMap exportedFrom?

/-- An export of something from a module. -/
def exportLine (what path : String) : String :=
  exportWord ++ (what ++ " from '") ++ ("./" ++ path) ++ "';"

theorem exportedFrom?_exportLine {what path : String} (hwhat : quoteMark ∉ what.toList)
    (hpath : quoteMark ∉ path.toList) : exportedFrom? (exportLine what path) = some path := by
  have hsplit : Text.split quoteMark (exportLine what path) =
      [exportWord ++ (what ++ " from "), "./" ++ path, ";"] := by
    have hline : exportLine what path = exportWord ++ (what ++ " from ") ++
        String.singleton quoteMark ++ ("./" ++ path) ++ String.singleton quoteMark ++ ";" := by
      have hopen : " from '" = " from " ++ String.singleton quoteMark := rfl
      have hclose : "';" = String.singleton quoteMark ++ ";" := rfl
      rw [exportLine, hopen, hclose]
      simp only [String.append_assoc]
    have hfront : quoteMark ∉ (exportWord ++ (what ++ " from ")).toList := by
      rw [String.toList_append, String.toList_append, List.mem_append, List.mem_append]
      simp only [hwhat, false_or, not_or]
      exact ⟨by decide, by decide⟩
    have hback : quoteMark ∉ ("./" ++ path).toList := by
      rw [String.toList_append, List.mem_append, not_or]
      exact ⟨by decide, hpath⟩
    rw [hline, Text.split_append_sep, Text.split_append_sep, Text.split_eq_singleton hfront,
      Text.split_eq_singleton hback, Text.split_eq_singleton (by decide)]
    rfl
  have hstart : exportWord.toList.isPrefixOf (exportWord ++ (what ++ " from ")).toList = true := by
    rw [String.toList_append, List.isPrefixOf_iff_prefix]
    exact List.prefix_append _ _
  have hend : " from ".toList.isSuffixOf (exportWord ++ (what ++ " from ")).toList = true := by
    rw [String.toList_append, String.toList_append, List.isSuffixOf_iff_suffix,
      ← List.append_assoc]
    exact List.suffix_append _ _
  have hhere : "./".toList.isPrefixOf ("./" ++ path).toList = true := by
    rw [String.toList_append, List.isPrefixOf_iff_prefix]
    exact List.prefix_append _ _
  rw [exportedFrom?, hsplit]
  dsimp only
  rw [if_pos ⟨hstart, hend, hhere, rfl⟩, String.toList_append]
  exact congrArg some String.ofList_toList

/-- The line of a schema in the index. -/
def schemaLine (name : String) : String :=
  exportLine ("type \x7b " ++ name ++ " \x7d") (Output.schemaModule name)

/-- The lines of the index. -/
def indexLines (schemas modules : List String) (constants : Bool) : List String :=
  ["// Common types", exportLine "*" "common/Http", "", "// Schema types"] ++
    schemas.map schemaLine ++ ["", "// Endpoint types"] ++ modules.map (exportLine "*") ++
    if constants then ["", "// Endpoint URL constants", exportLine "*" "api"] else []

theorem join_schemas_eq_ofLines (schemas : List String) :
    String.join (schemas.map fun name =>
      "export type \x7b " ++ name ++ " \x7d from './schemas/" ++ name ++ "';\n") =
      Text.ofLines (schemas.map schemaLine) := by
  have hstart : "export type \x7b " = exportWord ++ "type \x7b " := by decide
  have hfrom : " \x7d from './schemas/" = " \x7d" ++ " from '" ++ "./" ++ "schemas/" := by
    decide
  have hend : "';\n" = "';" ++ "\n" := by decide
  rw [Text.ofLines, List.map_map]
  refine congrArg String.join (List.map_congr_left fun name _ => ?_)
  rw [Function.comp, schemaLine, exportLine, Output.schemaModule, hstart, hfrom, hend]
  simp only [String.append_assoc]

theorem join_modules_eq_ofLines (modules : List String) :
    String.join (modules.map fun path => "export * from './" ++ path ++ "';\n") =
      Text.ofLines (modules.map (exportLine "*")) := by
  have hstart : "export * from './" = exportWord ++ ("*" ++ " from '") ++ "./" := by
    decide
  have hend : "';\n" = "';" ++ "\n" := by decide
  rw [Text.ofLines, List.map_map]
  refine congrArg String.join (List.map_congr_left fun path _ => ?_)
  rw [Function.comp, exportLine, hstart, hend]
  simp only [String.append_assoc]

theorem indexFile_eq_ofLines (schemas modules : List String) (constants : Bool) :
    Template.indexFile schemas modules constants =
      Text.ofLines (indexLines schemas modules constants) := by
  have hcommon : Text.ofLines
      ["// Common types", exportLine "*" "common/Http", "", "// Schema types"] =
      "// Common types\nexport * from './common/Http';\n\n// Schema types\n" := by decide
  have hendpoints : Text.ofLines ["", "// Endpoint types"] = "\n// Endpoint types\n" := by
    decide
  have hconstants : Text.ofLines ["", "// Endpoint URL constants", exportLine "*" "api"] =
      "\n// Endpoint URL constants\nexport * from './api';\n" := by decide
  have htail : (if constants then "\n// Endpoint URL constants\nexport * from './api';\n" else "") =
      Text.ofLines
        (if constants then ["", "// Endpoint URL constants", exportLine "*" "api"] else []) := by
    cases constants with
    | true => exact hconstants.symm
    | false => rfl
  unfold Template.indexFile
  simp only [indexLines, Text.ofLines_append, hcommon, hendpoints, htail, join_schemas_eq_ofLines,
    join_modules_eq_ofLines]

theorem not_mem_exportLine {c : Char} {what path : String}
    (hfixed : c ∉ (exportLine "" "").toList) (hwhat : c ∉ what.toList) (hpath : c ∉ path.toList) :
    c ∉ (exportLine what path).toList := by
  simp only [exportLine, String.toList_append, List.mem_append, not_or] at hfixed ⊢
  exact ⟨⟨⟨hfixed.1.1.1, hwhat, hfixed.1.1.2.2⟩, hfixed.1.2.1, hpath⟩, hfixed.2⟩

/-- Exports from modules are read back. -/
theorem filterMap_exportedFrom? {what : String → String} {path : String → String}
    {names : List String} (hwhat : ∀ name ∈ names, quoteMark ∉ (what name).toList)
    (hpath : ∀ name ∈ names, quoteMark ∉ (path name).toList) :
    (names.map fun name => exportLine (what name) (path name)).filterMap exportedFrom? =
      names.map path := by
  rw [List.filterMap_map, ← List.filterMap_eq_map]
  refine List.filterMap_congr fun name hname => ?_
  exact exportedFrom?_exportLine (hwhat name hname) (hpath name hname)

/-- What stands in the name of a schema stands in its module. -/
theorem Quotable.of_schemaModule {name : String} (h : Quotable (Output.schemaModule name)) :
    Quotable name := by
  intro c hc
  refine h c ?_
  rw [Output.schemaModule, String.toList_append]
  exact List.mem_append_right _ hc

theorem not_mem_named {c : Char} {name : String} (hfixed : c ∉ "type \x7b  \x7d".toList)
    (hname : c ∉ name.toList) : c ∉ ("type \x7b " ++ name ++ " \x7d").toList := by
  have hsplit : "type \x7b  \x7d" = "type \x7b " ++ " \x7d" := by decide
  rw [hsplit] at hfixed
  simp only [String.toList_append, List.mem_append, not_or] at hfixed ⊢
  exact ⟨⟨hfixed.1, hname⟩, hfixed.2⟩

theorem lineEnd_not_mem_indexLines {schemas modules : List String}
    (hschemas : ∀ name ∈ schemas, Quotable (Output.schemaModule name))
    (hmodules : ∀ path ∈ modules, Quotable path) (constants : Bool) :
    ∀ line ∈ indexLines schemas modules constants, '\n' ∉ line.toList := by
  intro line hline
  simp only [indexLines, List.mem_append, List.mem_map] at hline
  obtain (((hfixed | ⟨name, hname, rfl⟩) | hfixed) | ⟨path, hpath, rfl⟩) | hfixed := hline
  · revert line
    decide
  · have hquotable := hschemas name hname
    refine not_mem_exportLine (by decide) ?_ hquotable.lineEnd_not_mem
    exact not_mem_named (by decide) hquotable.of_schemaModule.lineEnd_not_mem
  · revert line
    decide
  · exact not_mem_exportLine (by decide) (by decide) (hmodules path hpath).lineEnd_not_mem
  · revert line constants
    decide

/-- **The index** exports from every module, in order. -/
theorem exportsOf_indexFile {schemas modules : List String}
    (hschemas : ∀ name ∈ schemas, Quotable (Output.schemaModule name))
    (hmodules : ∀ path ∈ modules, Quotable path) (constants : Bool) :
    exportsOf (Template.indexFile schemas modules constants) =
      "common/Http" :: schemas.map Output.schemaModule ++ modules ++
        if constants then ["api"] else [] := by
  have hcommon : ["// Common types", exportLine "*" "common/Http", "", "// Schema types"].filterMap
      exportedFrom? = ["common/Http"] := by decide
  have hendpoints : ["", "// Endpoint types"].filterMap exportedFrom? = [] := by decide
  have hconstants : (if constants then ["", "// Endpoint URL constants", exportLine "*" "api"]
      else []).filterMap exportedFrom? = if constants then ["api"] else [] := by
    cases constants with
    | true => decide
    | false => rfl
  have hnamed : (schemas.map schemaLine).filterMap exportedFrom? =
      schemas.map Output.schemaModule :=
    filterMap_exportedFrom?
      (fun name hname => not_mem_named (by decide)
        (hschemas name hname).of_schemaModule.quoteMark_not_mem)
      fun name hname => (hschemas name hname).quoteMark_not_mem
  have hwhole : (modules.map (exportLine "*")).filterMap exportedFrom? = modules.map id :=
    filterMap_exportedFrom? (fun _ _ => by decide) fun path hpath =>
      (hmodules path hpath).quoteMark_not_mem
  have hlast : [""].filterMap exportedFrom? = [] := by decide
  rw [indexFile_eq_ofLines, exportsOf,
    Text.split_ofLines (lineEnd_not_mem_indexLines hschemas hmodules constants), indexLines]
  simp only [List.filterMap_append, hcommon, hendpoints, hconstants, hnamed, hwhole, hlast,
    List.map_id, List.append_nil]
  rfl

end ApiTypes
