/-
  Document text in comments of the generated code.

  `block` puts a text of several lines into a block comment, one line of the
  comment for each; `line` puts a text into a comment of one line.
-/
import ApiTypes.Document
import ApiTypes.Json.Display

namespace ApiTypes.Comment

open Json (Value given?)

/-- A block comment with the lines of a text. -/
def body (indent text : String) : String :=
  indent ++ "/**\n" ++ indent ++ " * " ++
    Text.join ("\n" ++ indent ++ " * ") (Text.split '\n' text) ++ "\n" ++ indent ++ " */"

/-- A block comment on lines of its own, or nothing for an empty text. -/
def block (indent text : String) : String :=
  if text = "" then "" else body indent text ++ "\n"

/-- A text of a document that is cut into lines: empty if left out, and otherwise a
text. -/
def lines (description : Option Value) : Except Failure String :=
  match given? description with
  | none => .ok ""
  | some (.str s) => .ok s
  | some _ => .error .malformed

/-- A block comment with a description that may be left out. -/
def blockOf (indent : String) (description : Option Value) : Except Failure String :=
  (block indent) <$> lines description

/-- A comment of one line inside an object type. -/
def line (text : String) : String := "  /** " ++ text ++ " */"

/-- The text for the comment of a property: any value that is given, as running
text. -/
def ofProperty? (description : Option Value) : Option String :=
  (given? description).map (·.display)

end ApiTypes.Comment
