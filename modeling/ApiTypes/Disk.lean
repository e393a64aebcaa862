/-
  Files and directories.

  A disk maps places to files and directories. A place is the list of names
  from the root, without points; relative paths start at the working directory,
  which is always there. A path is followed name by name (`locate`): each
  name must be in a directory, and two points lead back to the one above.

  * `read` gives the text of a file or a fault;
  * `write` makes the missing directories and then the file;
  * `clear` removes a directory with everything in it.

  The changing operations also give the disk when they fail, with what was done
  before the failure.
-/
import ApiTypes.Failure
import ApiTypes.Path
import ApiTypes.Text.CodePoints
import ApiTypes.Text.Utf8

namespace ApiTypes

/-- A place: the names from the root. -/
abbrev Place := List String

/-- What is at a place. -/
inductive Entry where
  | directory
  | file (content : ByteArray)

/-- Whether two entries are both directories, or files with the same bytes. -/
def Entry.same : Entry → Entry → Bool
  | .directory, .directory => true
  | .file a, .file b => a.data == b.data
  | _, _ => false

/-- The working directory, and everything known below the root. -/
structure Disk where
  home : Place
  entries : List (Place × Entry)

namespace Disk

/-! ## Places -/

/-- What is at a place. The working directory and those above it are there. -/
def entry? (disk : Disk) (l : Place) : Option Entry :=
  if l.isPrefixOf disk.home then some .directory
  else (disk.entries.find? (·.1 = l)).map (·.2)

/-- The disk with an entry at a place. -/
def put (disk : Disk) (l : Place) (entry : Entry) : Disk :=
  { disk with entries := disk.entries.filter (·.1 ≠ l) ++ [(l, entry)] }

/-- The most bytes that a name has. -/
def longestName : Nat := 255

/-- The most bytes that the text of a path has. -/
def longestPath : Nat := 4095

/-- Where a path starts. -/
def origin (disk : Disk) (path : Path) : Place := if path.root = "" then disk.home else []

/-- The bytes of a code point in a name. Half of a pair stands for one byte that belongs to no
character; what is no code point has no bytes. -/
def pointSize (point : Nat) : Nat :=
  if point < 0x80 then 1
  else if point < 0x800 then 2
  else if Text.isLowHalf point then 1
  else if point < 0x10000 then 3
  else if point < 0x110000 then 4
  else 0

/-- How many bytes code points have. -/
def pointsSize (points : List Nat) : Nat :=
  points.foldr (fun point size => pointSize point + size) 0

/-- How many bytes a name or a path has. -/
def byteSize (name : String) : Nat := pointsSize (Text.codePoints name)

/-- Follows one name from a place. -/
def follow (disk : Disk) (l : Place) (name : String) : Except ReadFault Place :=
  match disk.entry? l with
  | none => .error .missing
  | some (.file _) => .error .throughFile
  | some .directory =>
    if name = ".." then .ok l.dropLast
    else if longestName < byteSize name then .error .nameTooLong
    else .ok (l ++ [name])

/-- Whether a code point can be in a name: the null character cannot, nor can half of a
pair, unless it stands for a byte that belongs to no character. -/
def isNamePoint (point : Nat) : Bool :=
  if Text.isHighHalf point || Text.isLowHalf point then 0xdc80 ≤ point && point ≤ 0xdcff
  else point != 0

/-- A path that the system refuses to look at. -/
def refused (path : Path) : Option ReadFault :=
  if path.names.any fun name => (Text.codePoints name).any (!isNamePoint ·) then some .badName
  else if longestPath < byteSize path.text then some .nameTooLong
  else none

/-- The place that a path leads to. There need not be anything at it, but all
directories on the way are there. -/
def locate (disk : Disk) (path : Path) : Except ReadFault Place :=
  match refused path with
  | some fault => .error fault
  | none => path.names.foldlM disk.follow (disk.origin path)

/-! ## Reading -/

/-- The text of the file at a path, with unified line ends. -/
def read (disk : Disk) (path : Path) : Except ReadFault String := do
  match disk.entry? (← disk.locate path) with
  | none => throw .missing
  | some .directory => throw .isDirectory
  | some (.file content) =>
    match String.fromUTF8? content with
    | some s => return Text.ofChars (Text.unifyLineEnds s).toList
    | none => throw .badEncoding

/-- Whether there is anything at a path. A name that is too long is a failure of its
own. -/
def has (disk : Disk) (path : Path) : Except Failure Bool :=
  match disk.locate path with
  | .ok l => .ok (disk.entry? l).isSome
  | .error .nameTooLong => .error .malformed
  | .error _ => .ok false

/-! ## Changing -/

/-- Follows a name, and makes the directory that it names if it is missing. -/
def enter (disk : Disk) (l : Place) (name : String) : Except ReadFault Place × Disk :=
  match disk.follow l name with
  | .error fault => (.error fault, disk)
  | .ok next =>
    match disk.entry? next with
    | some .directory => (.ok next, disk)
    | some (.file _) => (.error .throughFile, disk)
    | none => (.ok next, disk.put next .directory)

/-- Follows names from a place, and makes the directories that are missing. -/
def makeDirectories (disk : Disk) (l : Place) : List String → Except ReadFault Place × Disk
  | [] => (.ok l, disk)
  | name :: rest =>
    match disk.enter l name with
    | (.ok next, changed) => changed.makeDirectories next rest
    | (.error fault, changed) => (.error fault, changed)

/-- Writes a file, whose directory is made if it is missing. -/
def write (disk : Disk) (path : Path) (content : ByteArray) : Except Failure Unit × Disk :=
  match refused path, path.names.getLast? with
  | none, some name =>
    match disk.makeDirectories (disk.origin path) path.parent.names with
    | (.error _, changed) => (.error .malformed, changed)
    | (.ok directory, changed) =>
      match changed.follow directory name with
      | .error _ => (.error .malformed, changed)
      | .ok l =>
        match changed.entry? l with
        | some .directory => (.error .malformed, changed)
        | _ => (.ok (), changed.put l (.file content))
  | _, _ => (.error .malformed, disk)

/-- Makes a directory and those above it. -/
def makeDirectory (disk : Disk) (path : Path) : Disk :=
  (disk.makeDirectories (disk.origin path) path.names).2

/-- Removes the directory at a path with everything in it, if there is one. A file
cannot be removed in this way; the working directory and a directory named by two
points are emptied, but stay. -/
def clear (disk : Disk) (path : Path) : Except Failure Unit × Disk :=
  match disk.has path, disk.locate path with
  | .error e, _ => (.error e, disk)
  | .ok false, _ => (.ok (), disk)
  | .ok true, .error _ => (.ok (), disk)
  | .ok true, .ok l =>
    match disk.entry? l with
    | some .directory =>
      let emptied : Disk :=
        { disk with entries := disk.entries.filter fun e => !l.isPrefixOf e.1 || e.1 = l }
      match path.names.getLast? with
      | none | some ".." => (.error .malformed, emptied)
      | some _ => (.ok (), { emptied with entries := emptied.entries.filter (·.1 ≠ l) })
    | _ => (.error .malformed, disk)

/-- The files below a place, by the rest of their names. -/
def filesBelow (disk : Disk) (l : Place) : List (Place × ByteArray) :=
  disk.entries.filterMap fun (at_, entry) =>
    match entry with
    | .file content => if l.isPrefixOf at_ then some (at_.drop l.length, content) else none
    | .directory => none

end Disk

end ApiTypes
