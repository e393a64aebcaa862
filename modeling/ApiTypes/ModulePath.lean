/-
  Paths of modules inside the output.

  A module is named by its path without the file ending, relative to the output
  directory. `ModulePath.relative` gives the path by which one module imports
  another; `endpointModule` the module of an endpoint.
-/
import ApiTypes.Failure

namespace ApiTypes

/-- Where a path leads from the directory it is read in: so many steps up, and then
down through the names. A rooted path starts at the root. -/
structure ModulePath where
  rooted : Bool
  up : Nat
  names : List String
  deriving DecidableEq, Repr

namespace ModulePath

/-- Goes on from a place by one name. -/
def step (p : ModulePath) (name : String) : ModulePath :=
  if name = "" ∨ name = "." then p
  else if name = ".." then
    if p.names ≠ [] then { p with names := p.names.dropLast }
    else if p.rooted then p
    else { p with up := p.up + 1 }
  else { p with names := p.names ++ [name] }

/-- Where a path leads. -/
def ofText (path : String) : ModulePath :=
  (Text.split '/' path).foldl step ⟨path.toList.head? == some '/', 0, []⟩

/-- The number of names that two paths start with together. -/
def common : List String → List String → Nat
  | a :: as, b :: bs => if a = b then common as bs + 1 else 0
  | _, _ => 0

/-- The names that lead from one place to another: up to where both part, and down
again. The names above the directory of both are not known, so a place that is
higher up is left without naming the way back. -/
def between (source target : ModulePath) : List String :=
  if source.up = target.up then
    let n := common source.names target.names
    List.replicate (source.names.length - n) ".." ++ target.names.drop n
  else
    List.replicate (source.names.length + (target.up - source.up)) ".." ++ target.names

/-- The directory part of a path: what is before the last slash, without slashes at
its end. -/
def directory (path : String) : String :=
  let head := ((path.toList.reverse.dropWhile (· != '/')).reverse)
  let bare := (head.reverse.dropWhile (· == '/')).reverse
  String.ofList (if bare.isEmpty then head else bare)

/-- The path from the directory of one module to another; there is none to a module
without a name. -/
def relative (source target : String) : Except Failure String :=
  if target = "" then .error .malformed
  else
    let path := match between (ofText (directory source)) (ofText target) with
      | [] => "."
      | names => Text.join "/" names
    .ok (if path.toList.head? = some '.' then path else "./" ++ path)

end ModulePath

/-- A path behind a directory; a rooted one replaces it. -/
def joined (directory path : String) : String :=
  if path.toList.head? = some '/' then path
  else if directory = "" ∨ directory.toList.getLast? = some '/' then directory ++ path
  else directory ++ "/" ++ path

/-- The module of an endpoint in a folder, which may be empty. -/
def endpointModule (name folder : String) : String :=
  if folder = "" then "endpoints/" ++ name else joined (joined "endpoints" folder) name

end ApiTypes
