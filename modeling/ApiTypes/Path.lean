/-
  Paths of files, as they are written.

  A path is a root and the names behind it. Empty names and names of one point
  are dropped on reading, names of two points are kept: where they lead depends
  on what is on the disk.
-/
import ApiTypes.Text.Split

namespace ApiTypes

/-- A path: no root, one slash or two slashes, and names. -/
structure Path where
  root : String
  names : List String
  deriving DecidableEq, Repr

namespace Path

/-- The root that a text starts with. Two slashes differ from one and from three. -/
def rootOf : List Char → String
  | '/' :: '/' :: '/' :: _ => "/"
  | '/' :: '/' :: _ => "//"
  | '/' :: _ => "/"
  | _ => ""

/-- Reads a path. -/
def ofText (text : String) : Path :=
  ⟨rootOf text.toList, (Text.split '/' text).filter fun name => name ≠ "" ∧ name ≠ "."⟩

/-- The text of a path; the path without names is a point. -/
def text (p : Path) : String :=
  if p.root = "" ∧ p.names = [] then "." else p.root ++ Text.join "/" p.names

/-- A path seen from a directory: a rooted one stays as it is. -/
def within (p directory : Path) : Path :=
  if p.root = "" then ⟨directory.root, directory.names ++ p.names⟩ else p

/-- The path without its last name. -/
def parent (p : Path) : Path := ⟨p.root, p.names.dropLast⟩

end Path

end ApiTypes
