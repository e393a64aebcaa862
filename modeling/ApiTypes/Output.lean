/-
  Writing a generation below an output directory.

  The files are, in the order in which they are written: the common types, one
  file for each schema, one for each endpoint in its folder, the URL constants
  if they are wanted, and the index. A declaration imports the schemas that it
  depends on and that are declared.

  * `Output.files` gives the modules with their texts;
  * `Output.write` writes them, after clearing the directory if that is wanted.
-/
import ApiTypes.Disk
import ApiTypes.Template

namespace ApiTypes.Output

open Json (Value given?)

/-! ## Files -/

/-- A file to be written: its module and its text, unless the text cannot be made. -/
structure File where
  place : String
  text : Except Failure String

/-- The module of a schema. -/
def schemaModule (name : String) : String := "schemas/" ++ name

/-- The imports of a module: those of the names it depends on that are schemas, apart
from itself. -/
def imports (place : String) (schemas : List String) (names : NameSet) :
    Except Failure (List (String × String)) :=
  (names.toList.filter fun name => name ∈ schemas ∧ schemaModule name ≠ place).mapM
    fun name => do return (name, ← ModulePath.relative place (schemaModule name))

/-- The file of a declaration. -/
def declarationFile (place : String) (schemas : List String) (d : Declaration) : File :=
  ⟨place, do return Template.typeFile (← imports place schemas d.dependencies) d.code⟩

/-- The title of a document for the comment on the constants. -/
def title (document : Option Value) : Except Failure String := do
  let info ← Document.get (Document.orEmpty document) "info"
  let title ← Document.get (Document.orEmpty info) "title"
  return ((given? title).map (·.display)).getD "the API specification"

/-- The file of an endpoint. -/
def endpointFile (g : Generation) (schemas : List String) (e : Endpoint) : File :=
  let place := endpointModule e.name e.folder
  match Entries.get? g.endpointDeclarations e.name with
  | some d => declarationFile place schemas d
  | none => ⟨place, .error .malformed⟩

/-- The files of a generation, in order. -/
def files (g : Generation) (document : Option Value) (constants : Bool) : List File :=
  let schemas := Entries.keys g.schemaDeclarations
  [⟨"common/Http", .ok Template.commonFile⟩] ++
    (g.schemaDeclarations.map fun (name, d) => declarationFile (schemaModule name) schemas d) ++
    g.endpoints.map (endpointFile g schemas) ++
    (if constants then
      [⟨"api", do return Template.constantsFile (← title document) (UrlTree.render g.urlTree 0)⟩]
    else []) ++
    [⟨"index", .ok (Template.indexFile schemas
      (g.endpoints.map fun e => endpointModule e.name e.folder) constants)⟩]

/-! ## Writing -/

/-- The path of a module's file below a directory. -/
def File.path (directory : Path) (f : File) : Path :=
  (Path.ofText (f.place ++ ".ts")).within directory

/-- Writes a text to a file; of a text that has no bytes, nothing but the file is made. -/
def writeText (disk : Disk) (path : Path) (text : String) : Except Failure Unit × Disk :=
  match Text.bytes? text with
  | some bytes => disk.write path bytes
  | none =>
    let (result, changed) := disk.write path ByteArray.empty
    (result.bind fun () => .error .malformed, changed)

/-- Writes files one after another, up to the first that cannot be written. -/
def writeFiles (directory : Path) (disk : Disk) : List File → Except Failure (List Path) × Disk
  | [] => (.ok [], disk)
  | f :: rest =>
    match f.text with
    | .error e => (.error e, disk)
    | .ok text =>
      match writeText disk (f.path directory) text with
      | (.error e, changed) => (.error e, changed)
      | (.ok (), changed) =>
        let (paths, final) := writeFiles directory changed rest
        (paths.map (f.path directory :: ·), final)

/-- How a generation is written. -/
structure Options where
  clean : Bool
  constants : Bool
  deriving DecidableEq, Repr

/-- Writes a generation below a directory and gives the paths of its files. -/
def write (directory : Path) (g : Generation) (document : Option Value) (options : Options)
    (disk : Disk) : Except Failure (List Path) × Disk :=
  let (cleared, start) := if options.clean then disk.clear directory else (.ok (), disk)
  match cleared with
  | .error e => (.error e, start)
  | .ok () => writeFiles directory start (files g document options.constants)

end ApiTypes.Output
