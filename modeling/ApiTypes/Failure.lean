/-
  Why the program stops, as causes.

  Each cause has one wording, given by `Failure.message`. A document with a
  value of a kind that a rule cannot use (a list where members are looked up,
  a number where a text is cut) is `malformed`; that one names no cause.
-/
import ApiTypes.Json.Fault
import ApiTypes.Text.Quoted
import ApiTypes.Text.Split

namespace ApiTypes

/-! ## Files and the network -/

/-- Why a file cannot be read. -/
inductive ReadFault where
  | missing
  | isDirectory
  | throughFile
  | nameTooLong
  | badName
  | badEncoding
  deriving DecidableEq, Repr

/-- The system's words for a read fault on a path. -/
def ReadFault.message (fault : ReadFault) (path : String) : String :=
  let words := match fault with
    | missing => "[Errno 2] No such file or directory"
    | isDirectory => "[Errno 21] Is a directory"
    | throughFile => "[Errno 20] Not a directory"
    | nameTooLong => "[Errno 36] File name too long"
    | badName => "embedded null byte"
    | badEncoding => "invalid start byte"
  words ++ ": " ++ Text.quoted path

/-! ## Loading a document -/

/-- Why no document could be loaded. -/
inductive LoadFailure where
  | unreachable (url words : String)
  | badStatus (url : String) (status : Nat) (reason : String)
  | notFound (path : String)
  | unreadable (path : String) (fault : ReadFault)
  | notJson (source : String) (fault : Json.Fault)
  | noMarker
  deriving DecidableEq, Repr

/-- The wording of a load failure. -/
def LoadFailure.message : LoadFailure → String
  | unreachable url words => "Failed to fetch OpenAPI spec from " ++ url ++ ": " ++ words
  | badStatus url status reason =>
    "Failed to fetch " ++ url ++ ": " ++ toString status ++ " " ++ reason
  | notFound path => "File not found: " ++ path
  | unreadable path fault => "Failed to read file " ++ path ++ ": " ++ fault.message path
  | notJson source fault => "Invalid JSON in " ++ source ++ ": " ++ fault.message
  | noMarker =>
    "Invalid OpenAPI/Swagger specification. Missing \"openapi\" or \"swagger\" field."

/-! ## Settings -/

/-- Why no valid settings were found. -/
inductive SettingsFailure where
  | notFound (path : String)
  | unreadable (path : String) (fault : ReadFault)
  | notJson (path : String) (fault : Json.Fault)
  | notObject (path : String)
  | noInput
  | noOutput
  | badSkip (shown : String)
  deriving DecidableEq, Repr

/-- The wording of a settings failure. -/
def SettingsFailure.message : SettingsFailure → String
  | notFound path => "Config file not found: " ++ path
  | unreadable path fault =>
    "Failed to load config file " ++ path ++ ": " ++ fault.message path
  | notJson path fault => "Invalid JSON in config file " ++ path ++ ": " ++ fault.message
  | notObject path => "Config file " ++ path ++ " must contain a JSON object"
  | noInput => "Input is required. Provide --input or set 'input' in the config file."
  | noOutput => "Output is required. Provide --output or set 'output' in the config file."
  | badSkip shown => "pathPrefixSkip must be a non-negative integer, got " ++ shown

/-! ## All failures -/

/-- A cause for which the program stops. -/
inductive Failure where
  | unresolved (reference : String)
  | unsupportedDocument
  | load (cause : LoadFailure)
  | settings (cause : SettingsFailure)
  | missingParameters (missing provided : List String)
  | malformed
  deriving DecidableEq, Repr

/-- The wording of a failure. -/
def Failure.message : Failure → String
  | unresolved reference => "Failed to resolve reference: " ++ reference
  | unsupportedDocument =>
    "Unsupported specification format: missing 'openapi' or 'swagger' field"
  | load cause => cause.message
  | settings cause => cause.message
  | missingParameters missing provided =>
    "Missing required path parameters: " ++ Text.join ", " missing ++ ". Provided params: " ++
      Text.join ", " provided
  | malformed => ""

end ApiTypes
