/-
  Loading a document.

  A document comes from a file or from the web; a source that is an address of the
  web is asked for with a client, any other is a path. It must be JSON and carry the
  marker of a dialect.
-/
import ApiTypes.Client
import ApiTypes.Dialect
import ApiTypes.Disk
import ApiTypes.Json.Reader
import ApiTypes.Link

namespace ApiTypes

open Json (Value)

/-- Where a document is looked for. -/
structure Surroundings where
  disk : Disk
  client : Client

/-- The text that comes back for an address. -/
def fetchText (client : Client) (address : String) : Except Failure String :=
  match client address with
  | .failed words => .error (.load (.unreachable address words))
  | .broken => .error .malformed
  | .response r =>
    if r.status = 200 then (r.text.map .ok).getD (.error .malformed)
    else .error (.load (.badStatus address r.status r.reason))

/-- The text of a file that is there. -/
def readText (disk : Disk) (path : Path) : Except Failure String := do
  if ← disk.has path then
    match disk.read path with
    | .ok text => return text
    | .error .badEncoding | .error .badName => throw .malformed
    | .error fault => throw (.load (.unreadable path.text fault))
  else throw (.load (.notFound path.text))

/-- The document that a text of a source writes. -/
def documentOfText (source text : String) : Except Failure Value :=
  match Json.read text with
  | .error (.fault f) => .error (.load (.notJson source f))
  | .error .oversizedNumber => .error .malformed
  | .ok document =>
    if (Dialect.of? document).isSome then .ok document else .error (.load .noMarker)

/-- Loads the document at a path. -/
def loadFile (disk : Disk) (path : Path) (source : String) : Except Failure Value := do
  documentOfText source (← readText disk path)

/-- Loads the document of a source: an address or the text of a path. -/
def load (s : Surroundings) (source : String) : Except Failure Value := do
  if ← isWebAddress source then documentOfText source (← fetchText s.client source)
  else loadFile s.disk (Path.ofText source) source

end ApiTypes
