/-
  The options of the command line.

  `parse` is the reader that the program is run with. It reads long options with their value
  behind `=` or as the next argument, and short ones with their value attached or as the next
  argument. Of a repeated option the last value counts; arguments that are no options are
  refused.
-/
import ApiTypes.CommandLine
import ApiTypes.Text.Integer

namespace ApiTypes.CommandLine

open Json (Value)

/-! ## Options -/

/-- What an option is about: a setting, the settings file, or help. -/
inductive Subject where
  | setting (s : Setting)
  | settingsFile
  | help
  deriving DecidableEq, Repr

/-- An option: its long name, its letter if it has one, and whether a value belongs to
it. -/
structure Spec where
  subject : Subject
  long : String
  letter : Option Char
  takesValue : Bool

/-- The options that there are. -/
def specs : List Spec :=
  [⟨.setting .input, "--input", some 'i', true⟩,
    ⟨.setting .output, "--output", some 'o', true⟩,
    ⟨.settingsFile, "--config", some 'c', true⟩,
    ⟨.setting .clean, "--clean", none, false⟩,
    ⟨.setting .verbose, "--verbose", none, false⟩,
    ⟨.setting .skip, "--path-prefix-skip", none, true⟩,
    ⟨.setting .constants, "--generate-api-endpoints", none, false⟩,
    ⟨.help, "--help", none, false⟩]

/-- What one argument says. -/
inductive Item where
  /-- An option with everything that belongs to it. -/
  | whole (subject : Subject) (value : String)
  /-- An option whose value is the next argument. -/
  | awaiting (subject : Subject)
  | plain
  | bad
  deriving DecidableEq, Repr

/-- What an argument that starts with a letter option says. -/
def letterItem : List Char → Item
  | c :: attached =>
    match specs.find? (·.letter = some c) with
    | some spec =>
      if attached.isEmpty then .awaiting spec.subject
      else .whole spec.subject (String.ofList attached)
    | none => .bad
  | [] => .bad

/-- What an argument says: it is an option if it starts with a hyphen and goes on. -/
def item (argument : String) : Item :=
  match argument.toList with
  | '-' :: c :: rest =>
    let cs := '-' :: c :: rest
    let name := String.ofList (cs.takeWhile (· != '='))
    let value := (cs.dropWhile (· != '=')).drop 1
    let hasValue := cs.contains '='
    match specs.find? (·.long = name) with
    | some spec =>
      match spec.takesValue, hasValue with
      | true, true => .whole spec.subject (String.ofList value)
      | true, false => .awaiting spec.subject
      | false, true => .bad
      | false, false => .whole spec.subject ""
    | none => if c = '-' then .bad else letterItem (c :: rest)
  | _ => .plain

/-- The options among arguments, in order, and whether anything is left over. Nothing
behind two hyphens is an option. -/
def scan : List String → Option (List (Subject × String) × Bool)
  | [] => some ([], false)
  | argument :: rest =>
    if argument = "--" then some ([], !rest.isEmpty)
    else
      match item argument, rest with
      | .bad, _ => none
      | .plain, rest => (scan rest).map fun (found, _) => (found, true)
      | .whole subject value, rest =>
        (scan rest).map fun (found, more) => ((subject, value) :: found, more)
      | .awaiting _, [] => none
      | .awaiting subject, value :: rest =>
        (scan rest).map fun (found, more) => ((subject, value) :: found, more)

/-! ## Values -/

/-- The value that an option gives to a setting; a number of pairs to skip must be a
whole number from zero up. -/
def settingValue (s : Setting) (value : String) : Option Value :=
  match s with
  | .input | .output => some (.str value)
  | .clean | .verbose | .constants => some (.bool true)
  | .skip =>
    match Text.integer? value with
    | some n => if 0 ≤ n then some (.int n) else none
    | none => none

/-- The last value given for a subject. -/
def last? (found : List (Subject × String)) (subject : Subject) : Option String :=
  (found.reverse.find? (·.1 = subject)).map (·.2)

/-- The settings that options give, unless a value cannot be used. -/
def settingsOf (found : List (Subject × String)) : Option (List (String × Value)) :=
  (Setting.all.filterMap fun s => (last? found (.setting s)).map fun value => (s, value)).mapM
    fun (s, value) => (settingValue s value).map fun v => (s.key, v)

/-- What is wrong with the value of an option, if anything is: a value that cannot be used is
refused, and a path that cannot even be looked for breaks the run off. -/
def failure? (found : List (Subject × String)) (subject : Subject) : Option Parsed := do
  match subject, ← last? found subject with
  | .setting s, value => if (settingValue s value).isNone then some .refused else none
  | .settingsFile, value =>
    if Disk.refused (Path.ofText value) = some .badName then some .broken else none
  | .help, _ => none

/-- The text that help shows. -/
def usage : String :=
  Text.join "\n" [
    "Usage: api-types [OPTIONS]",
    "",
    "  Generate TypeScript types from OpenAPI/Swagger specifications.",
    "",
    "  -i, --input TEXT             URL or path to OpenAPI/Swagger JSON.",
    "  -o, --output TEXT            Output directory for generated TypeScript files.",
    "  -c, --config PATH            Path to config file.",
    "  --clean                      Clean output directory before generation.",
    "  --verbose                    Log verbose debug information.",
    "  --path-prefix-skip INTEGER   Number of path segment pairs to skip.",
    "  --generate-api-endpoints     Also generate API endpoint URL constants.",
    "  --help                       Show this message and exit.",
    ""]

/-- Reads the arguments. Help goes before all values, which are looked at in the order in
which their options come first, and those before arguments that are left over. -/
def parse : Reader := fun arguments =>
  match scan arguments with
  | none => .refused
  | some (found, more) =>
    if (last? found .help).isSome then .help
    else
      match (found.map (·.1)).eraseDups.findSome? (failure? found), settingsOf found, more with
      | some failure, _, _ => failure
      | none, some options, false =>
        .request ⟨options, (last? found .settingsFile).map Path.ofText⟩
      | none, _, _ => .refused

end ApiTypes.CommandLine
