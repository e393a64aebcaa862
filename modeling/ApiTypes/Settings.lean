/-
  The settings of a run.

  Settings come from options and from a settings file. An option that is given
  wins over the file, and the file over the default; a key of the file may be
  spelled in either of two ways, and the last spelling of a setting counts.

  Settings keep the values as they are written; `Settings.check` says whether they
  can be used.
-/
import ApiTypes.Disk
import ApiTypes.Json.Display
import ApiTypes.Json.Reader

namespace ApiTypes

open Json (Value given?)

/-! ## Keys -/

/-- The settings that there are. -/
inductive Setting where
  | input
  | output
  | clean
  | verbose
  | skip
  | constants
  deriving DecidableEq, Repr

namespace Setting

/-- All settings. -/
def all : List Setting := [input, output, clean, verbose, skip, constants]

/-- The key of a setting. -/
def key : Setting → String
  | input => "input"
  | output => "output"
  | clean => "clean"
  | verbose => "verbose"
  | skip => "path_prefix_skip"
  | constants => "generate_api_endpoints"

/-- The other spelling of a key in a settings file. -/
def fileKey : Setting → String
  | input => "input"
  | output => "output"
  | clean => "clean"
  | verbose => "verbose"
  | skip => "pathPrefixSkip"
  | constants => "generateApiEndpoints"

/-- The setting that a key of a file spells. -/
def ofFileKey? (key : String) : Option Setting :=
  all.find? fun s => s.key = key ∨ s.fileKey = key

/-- The setting with a key. -/
def ofKey? (key : String) : Option Setting := all.find? (·.key = key)

end Setting

/-! ## Values -/

/-- The value of each setting. -/
structure Settings where
  input : Value
  output : Value
  clean : Value
  verbose : Value
  skip : Value
  constants : Value

namespace Settings

/-- Settings from values by key, with the default for a key that is not there. -/
def ofEntries (entries : List (String × Value)) : Settings :=
  let value (s : Setting) (default : Value) := (Entries.get? entries s.key).getD default
  { input := value .input .null
    output := value .output .null
    clean := value .clean (.bool false)
    verbose := value .verbose (.bool false)
    skip := value .skip (.int 0)
    constants := value .constants (.bool false) }

/-- The values by key. -/
def entries (s : Settings) : List (String × Value) :=
  [(Setting.input.key, s.input), (Setting.output.key, s.output), (Setting.clean.key, s.clean),
    (Setting.verbose.key, s.verbose), (Setting.skip.key, s.skip),
    (Setting.constants.key, s.constants)]

/-- A number of pairs to skip: a whole number from zero up. -/
def isSkip : Value → Bool
  | .int n => decide (0 ≤ n)
  | _ => false

/-- Settings can be used when they have an input and an output and skip a whole
number of pairs. -/
def check (s : Settings) : Except Failure Unit :=
  if s.input.isEmpty then .error (.settings .noInput)
  else if s.output.isEmpty then .error (.settings .noOutput)
  else if isSkip s.skip then .ok ()
  else .error (.settings (.badSkip s.skip.shown))

/-! ## Files -/

/-- The name of the settings file that is looked for when none is named. -/
def defaultFile : String := "swagger-type-parser.config.json"

/-- The settings among the members of an object, by their keys. -/
def known (fields : List (String × Value)) : List (String × Value) :=
  fields.foldl (fun entries (k, v) =>
    match Setting.ofFileKey? k with
    | some s => Entries.set entries s.key v
    | none => entries) []

/-- The settings of the file at a path, which messages call by a name; none if there
is no file. -/
def ofFile? (disk : Disk) (path : Path) (name : String) :
    Except Failure (Option (List (String × Value))) :=
  match disk.read path with
  | .error .missing => .ok none
  | .error .badEncoding | .error .badName => .error .malformed
  | .error fault => .error (.settings (.unreadable name fault))
  | .ok text =>
    match Json.read text with
    | .error (.fault f) => .error (.settings (.notJson name f))
    | .error .oversizedNumber => .error .malformed
    | .ok (.obj fields) => .ok (some (known fields))
    | .ok _ => .error (.settings (.notObject name))

/-- The path of the default file, seen from the root. -/
def defaultPath (disk : Disk) : Path := ⟨"/", disk.home ++ [defaultFile]⟩

/-- The values of the settings file: a named file must be there, the default one may
be missing. -/
def fileEntries (disk : Disk) (path : Option Path) : Except Failure (List (String × Value)) :=
  match path with
  | some path => do
    match ← ofFile? disk path path.text with
    | some entries => return entries
    | none => throw (.settings (.notFound path.text))
  | none => do
    let path := defaultPath disk
    return (← ofFile? disk path path.text).getD []

/-- The options that are given: those with the key of a setting and a value other
than null. -/
def givenOptions (options : List (String × Value)) : List (String × Value) :=
  options.filter fun (k, v) =>
    (Setting.ofKey? k).isSome && match v with
      | .null => false
      | _ => true

/-- The settings of a run. -/
def merge (disk : Disk) (options : List (String × Value)) (path : Option Path) :
    Except Failure Settings := do
  let file ← fileEntries disk path
  return ofEntries ((givenOptions options).foldl (fun es (k, v) => Entries.set es k v) file)

end Settings

end ApiTypes
