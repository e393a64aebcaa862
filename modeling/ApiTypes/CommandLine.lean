/-
  The command line.

  What a command line asks for is a `Request`; how its arguments are read is handed over, as
  a `Reader`. `run` does what it asks for on a disk, with a client for the web, and says how
  it ended.
-/
import ApiTypes.Output
import ApiTypes.Settings
import ApiTypes.Source

namespace ApiTypes

open Json (Value)

namespace CommandLine

/-! ## Requests -/

/-- What a command line asks for: values for settings, by their keys, and a settings
file. -/
structure Request where
  options : List (String × Value)
  settingsFile : Option Path

/-- What arguments amount to. -/
inductive Parsed where
  | refused
  | broken
  | help
  | request (r : Request)

/-- What reads the arguments of a command line. -/
abbrev Reader := List String → Parsed

end CommandLine

/-! ## Running -/

/-- How a run ended. -/
inductive Ending where
  | usage
  | help
  | broken
  | failed (message : String)
  | finished (output : String) (types files : Nat) (warnings : List (String × String))
  deriving DecidableEq, Repr

/-- What a generation is made from and where it goes. -/
structure Plan where
  settings : Settings
  document : Value
  generation : Generation
  output : String

/-- Settles the settings, loads the document and generates everything for it. -/
def plan (s : Surroundings) (request : CommandLine.Request) : Except Failure Plan := do
  let settings ← Settings.merge s.disk request.options request.settingsFile
  settings.check
  match settings.input with
  | .str source =>
    let document ← normalize (← load s source)
    let generation ← Generation.ofDocument document settings.skip
    match settings.output with
    | .str output => return ⟨settings, document, generation, output⟩
    | _ => throw .malformed
  | _ => throw .malformed

/-- How a run ends with a failure. -/
def Ending.ofFailure : Failure → Ending
  | .malformed => .broken
  | cause => .failed cause.message

/-- Runs a command line that a reader reads: the ending, and the disk afterwards. -/
def run (read : CommandLine.Reader) (s : Surroundings) (arguments : List String) : Ending × Disk :=
  match read arguments with
  | .refused => (.usage, s.disk)
  | .broken => (.broken, s.disk)
  | .help => (.help, s.disk)
  | .request request =>
    match plan s request with
    | .error cause => (.ofFailure cause, s.disk)
    | .ok p =>
      let options := ⟨!p.settings.clean.isEmpty, !p.settings.constants.isEmpty⟩
      match Output.write (Path.ofText p.output) p.generation (some p.document) options s.disk with
      | (.error cause, disk) => (.ofFailure cause, disk)
      | (.ok paths, disk) =>
        (.finished p.output p.generation.declarations.length paths.length
          (p.generation.errors.map fun (name, cause) => (name, cause.message)), disk)

end ApiTypes
