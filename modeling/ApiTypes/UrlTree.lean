/-
  The tree of URL constants.

  Endpoints are put into folders by their names; each leaf is the URL of one
  endpoint. Where a folder lands on a name that already has a URL, or a URL on
  a name that is already a folder, the URL goes into the folder under `_self`.

  * `UrlTree.insert` adds one URL, `UrlTree.build` those of a list of endpoints;
  * `UrlTree.render` writes the entries of a tree, sorted by name, as the inside
    of an object literal.
-/
import ApiTypes.Entries
import ApiTypes.Json.Writer
import ApiTypes.Text.CodePoints
import ApiTypes.Text.Split

namespace ApiTypes

/-- A URL, or a folder of named trees. -/
inductive UrlTree where
  | url (path : String)
  | folder (entries : List (String × UrlTree))
  deriving Inhabited

namespace UrlTree

/-- The name of a folder's own URL. -/
def selfKey : String := "_self"

/-- What a folder holds that takes the place of an entry. -/
def asFolder : Option UrlTree → List (String × UrlTree)
  | some (.folder entries) => entries
  | some (.url path) => [(selfKey, .url path)]
  | none => []

/-- Adds the URL of an endpoint in a folder given by its segments. -/
def insert (entries : List (String × UrlTree)) (segments : List String) (name path : String) :
    List (String × UrlTree) :=
  match segments with
  | [] =>
    match Entries.get? entries name with
    | some (.folder inner) =>
      Entries.set entries name (.folder (Entries.set inner selfKey (.url path)))
    | _ => Entries.set entries name (.url path)
  | segment :: rest =>
    let inner := asFolder (Entries.get? entries segment)
    Entries.set entries segment (.folder (insert inner rest name path))

/-- The segments of a folder. -/
def segments (folder : String) : List String := (Text.split '/' folder).filter (· ≠ "")

/-- The place and the URL of an endpoint. -/
structure Leaf where
  name : String
  folder : String
  path : String
  deriving DecidableEq, Repr

/-- The entries of the tree of several endpoints. -/
def build (leaves : List Leaf) : List (String × UrlTree) :=
  leaves.foldl (fun entries leaf => insert entries (segments leaf.folder) leaf.name leaf.path) []

/-! ## Text -/

/-- The indentation of the entries at a depth; there is none below zero. -/
def pad (depth : Int) : String := "".pushn ' ' (2 * (depth + 1).toNat)

/-- The texts of entries in the order of their names. -/
def inOrder (texts : List (String × String)) : List String :=
  (texts.mergeSort fun a b => !decide (Text.codePoints b.1 < Text.codePoints a.1)).map (·.2)

mutual

/-- The text of an entry. -/
def renderEntry (depth : Int) (name : String) : UrlTree → String
  | .url path => pad depth ++ name ++ ": " ++ Json.writeText path
  | .folder entries =>
    pad depth ++ name ++ ": \x7b\n" ++
      Text.join ",\n" (inOrder (renderEntries (depth + 1) entries)) ++ "\n" ++ pad depth ++ "\x7d"

/-- The texts of entries, each with its name. -/
def renderEntries (depth : Int) : List (String × UrlTree) → List (String × String)
  | [] => []
  | (name, tree) :: rest => (name, renderEntry depth name tree) :: renderEntries depth rest

end

/-- The text of the entries of a tree, without the braces around it. -/
def render (entries : List (String × UrlTree)) (depth : Int) : String :=
  Text.join ",\n" (inOrder (renderEntries depth entries))

end UrlTree

end ApiTypes
