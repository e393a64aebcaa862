/-
  The program.

  What a run looks at is read from the file system into a disk, the run is made
  on that disk, and what it changed is written back. The web is not reached: no address
  answers.
-/
import ApiTypes.CommandLine.Messages
import ApiTypes.Web

namespace ApiTypes

/-- The paths that a run looks at, as far as the disk shows them: the settings file,
and the input and output that it or the options name. -/
def consulted (disk : Disk) (arguments : List String) : List Path :=
  match CommandLine.parse arguments with
  | .request request =>
    let named := match Settings.merge disk request.options request.settingsFile with
      | .ok s => [s.input, s.output].filterMap fun v => v.text?.map Path.ofText
      | .error _ => []
    request.settingsFile.getD (Settings.defaultPath disk) :: named
  | _ => []

/-- A text as the system writes it. -/
def systemText (s : String) : String := (Text.chars? s).elim s String.ofList

/-- A text that the system has written. -/
def ofSystem (s : String) : String := Text.ofChars s.toList

/-- The text of a place. -/
def placeText (place : Place) : String := systemText ("/" ++ Text.join "/" place)

/-- Reads what is at a place into the disk, a directory with all below it. -/
partial def readPlace (disk : Disk) (place : Place) : IO Disk := do
  let here ← IO.currentDir
  let file := here / placeText place
  if ← file.isDir then
    let entries ← file.readDir
    entries.foldlM (fun disk entry => readPlace disk (place ++ [ofSystem entry.fileName]))
      (disk.put place .directory)
  else if ← file.pathExists then
    return disk.put place (.file (← IO.FS.readBinFile file))
  else return disk

/-- Reads a path into the disk, with the directories and files that it goes through. -/
def readPath (disk : Disk) (path : Path) : IO Disk := do
  let here ← IO.currentDir
  let step (state : Disk × Place) (name : String) : IO (Disk × Place) := do
    let (disk, place) := state
    let next := if name = ".." then place.dropLast else place ++ [name]
    let file := here / placeText next
    if ← file.isDir then return (disk.put next .directory, next)
    else return (← readPlace disk next, next)
  let (disk, place) ← path.names.foldlM step (disk, disk.origin path)
  readPlace disk place

/-- Writes what differs from the disk before to the file system. -/
def writeBack (before after : Disk) : IO Unit := do
  let gone := before.entries.filter fun (place, _) => (after.entry? place).isNone
  for (place, entry) in gone do
    match entry with
    | .file _ => IO.FS.removeFile (placeText place)
    | .directory => pure ()
  for (place, entry) in gone.mergeSort fun a b => decide (b.1.length ≤ a.1.length) do
    match entry with
    | .file _ => pure ()
    | .directory => IO.FS.removeDir (placeText place)
  for (place, entry) in after.entries do
    unless (before.entry? place).any entry.same do
      match entry with
      | .directory => IO.FS.createDirAll (placeText place)
      | .file content => IO.FS.writeBinFile (placeText place) content

end ApiTypes

open ApiTypes in
/-- Runs the command line in the working directory. -/
def main (arguments : List String) : IO UInt32 := do
  let arguments := arguments.map ofSystem
  let home := (Path.ofText (ofSystem (← IO.currentDir).toString)).names
  let start : Disk := ⟨home, []⟩
  let settled ← (consulted start arguments).foldlM readPath start
  let before ← (consulted settled arguments).foldlM readPath settled
  let client := Web.client [] true
  let (ending, after) := run CommandLine.parse ⟨before, client⟩ arguments
  writeBack before after
  IO.print (systemText ending.output)
  IO.eprint (systemText ending.errors)
  return UInt32.ofNat ending.code
