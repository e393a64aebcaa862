/-
  Placeholders in a URL path: the names between braces.

  A placeholder runs from an opening brace to the next closing one; opening
  braces in between belong to its name, and one that is never closed is none.
-/

namespace ApiTypes

/-- The names between braces, in order. Inside a placeholder, `name` holds the
characters read so far, last first. -/
def placeholdersFrom (name : Option (List Char)) : List Char → List String
  | [] => []
  | c :: rest =>
    match name with
    | none => placeholdersFrom (if c = '\x7b' then some [] else none) rest
    | some read =>
      if c = '\x7d' then String.ofList read.reverse :: placeholdersFrom none rest
      else placeholdersFrom (some (c :: read)) rest

/-- The names between braces, in order; a name may be empty. -/
def placeholders (path : String) : List String := placeholdersFrom none path.toList

end ApiTypes
