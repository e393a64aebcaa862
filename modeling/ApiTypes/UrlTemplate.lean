/-
  Filling the placeholders of a URL.

  The parameters are put in one after another, each for every occurrence of its
  placeholder; if a placeholder is left over, parameters are missing.
-/
import ApiTypes.Failure
import ApiTypes.Json.Display
import ApiTypes.Placeholder

namespace ApiTypes

open Json (Value)

/-- The text of a parameter in a URL. -/
def urlText : Value → String
  | .bool true => "true"
  | .bool false => "false"
  | v => v.display

/-- The template with the parameters put in. -/
def fillTemplate (template : String) (parameters : List (String × Value)) : String :=
  parameters.foldl
    (fun url (name, v) => Text.replaceAll ("\x7b" ++ name ++ "\x7d") (urlText v) url) template

/-- The URL of a template, unless a placeholder is left over. -/
def buildUrl (template : String) (parameters : List (String × Value)) :
    Except Failure String :=
  let url := fillTemplate template parameters
  match (placeholders url).filter (· ≠ "") with
  | [] => .ok url
  | missing => .error (.missingParameters missing (Entries.keys parameters))

end ApiTypes
