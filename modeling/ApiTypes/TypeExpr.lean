/-
  TypeScript type expressions and their text.

  * `TypeExpr` is the tree of a type, `TypeExpr.text` the way it is written:
    unions and intersections of branches stand in parentheses, a union of
    literals and an alternative with `null` do not;
  * `keyText` writes a property name, bare if it is an identifier;
  * `Literal.text` writes a constant.
-/
import ApiTypes.Comment
import ApiTypes.Text.Split

namespace ApiTypes

/-! ## Property names -/

/-- A character that an identifier may start with. -/
def isIdentifierStart (c : Char) : Bool := c.isAlpha || c == '_' || c == '$'

/-- A character that an identifier may go on with. -/
def isIdentifierPart (c : Char) : Bool := c.isAlphanum || c == '_' || c == '$'

theorem isIdentifierPart_of_isIdentifierStart {c : Char} (h : isIdentifierStart c = true) :
    isIdentifierPart c = true := by
  simp only [isIdentifierStart, isIdentifierPart, Char.isAlphanum, Bool.or_eq_true] at h ⊢
  rcases h with (halpha | hunderscore) | hdollar
  · exact Or.inl (Or.inl (Or.inl halpha))
  · exact Or.inl (Or.inr hunderscore)
  · exact Or.inr hdollar

/-- ASCII letters, digits, underscores and dollar signs, not starting with a
digit. -/
def isIdentifier : List Char → Bool
  | [] => false
  | c :: rest => isIdentifierStart c && rest.all isIdentifierPart

/-- A name is written bare if it is an identifier; one line end behind it is let
pass. -/
def isBare (name : String) : Bool :=
  let cs := name.toList
  isIdentifier cs || (cs.getLast? == some '\n' && isIdentifier cs.dropLast)

/-- A text between single quotes, with a backslash before each single quote. -/
def singleQuoted (s : String) : String := "'" ++ Text.replaceAll "'" "\\'" s ++ "'"

/-- A property name as it stands in an object type. -/
def keyText (name : String) : String := if isBare name then name else singleQuoted name

/-! ## Types -/

/-- The types with a name of their own in the language. -/
inductive Keyword where
  | string
  | number
  | boolean
  | null
  | unknown
  | never
  deriving DecidableEq, Repr

/-- The name of a keyword type. -/
def Keyword.text : Keyword → String
  | string => "string"
  | number => "number"
  | boolean => "boolean"
  | null => "null"
  | unknown => "unknown"
  | never => "never"

/-- A constant as a type: a text, or another value in its written form. -/
inductive Literal where
  | text (s : String)
  | written (s : String)
  deriving DecidableEq, Repr

/-- The text of a constant. -/
def Literal.form : Literal → String
  | text s => singleQuoted s
  | written s => s

/-- The head of a property: its comment, its name, and whether it may be missing. -/
structure PropertyHead where
  comment : Option String
  name : String
  optional : Bool
  deriving DecidableEq, Repr

/-- A type expression. -/
inductive TypeExpr where
  | keyword (k : Keyword)
  | named (name : String)
  | literals (constants : List Literal)
  | orNull (base : TypeExpr)
  | union (branches : List TypeExpr)
  | intersection (branches : List TypeExpr)
  | array (items : TypeExpr)
  | record (values : TypeExpr)
  | object (properties : List (PropertyHead × TypeExpr)) (index : Option TypeExpr)
  deriving Inhabited

/-- The type of which nothing is known. -/
def TypeExpr.unknown : TypeExpr := .keyword .unknown

/-- The lines of a property whose type has the given text. -/
def PropertyHead.lines (head : PropertyHead) (type : String) : List String :=
  (head.comment.map Comment.line).toList ++
    ["  " ++ keyText head.name ++ (if head.optional then "?" else "") ++ ": " ++ type ++ ";"]

/-- An object type made of lines. -/
def objectText (lines : List String) : String :=
  "\x7b\n" ++ Text.join "\n" lines ++ "\n\x7d"

mutual

/-- The text of a type expression. -/
def TypeExpr.text : TypeExpr → String
  | .keyword k => k.text
  | .named name => name
  | .literals constants => Text.join " | " (constants.map Literal.form)
  | .orNull base => base.text ++ " | null"
  | .union branches => "(" ++ Text.join " | " (texts branches) ++ ")"
  | .intersection branches => "(" ++ Text.join " & " (texts branches) ++ ")"
  | .array items => items.text ++ "[]"
  | .record values => "Record<string, " ++ values.text ++ ">"
  | .object properties none => objectText (propertyLines properties)
  | .object properties (some index) =>
    objectText (propertyLines properties ++ ["  [key: string]: " ++ index.text ++ ";"])

/-- The texts of several type expressions. -/
def TypeExpr.texts : List TypeExpr → List String
  | [] => []
  | t :: rest => t.text :: texts rest

/-- The lines of the properties of an object type. -/
def TypeExpr.propertyLines : List (PropertyHead × TypeExpr) → List String
  | [] => []
  | (head, t) :: rest => head.lines t.text ++ propertyLines rest

end

-- one equation for each kind of type expression

section

variable (name : String) (constants : List Literal) (t : TypeExpr) (branches : List TypeExpr)
  (properties : List (PropertyHead × TypeExpr))

theorem TypeExpr.text_keyword (k : Keyword) : (keyword k).text = k.text := rfl

theorem TypeExpr.text_named : (named name).text = name := rfl

theorem TypeExpr.text_literals :
    (literals constants).text = Text.join " | " (constants.map Literal.form) := rfl

theorem TypeExpr.text_orNull : (orNull t).text = t.text ++ " | null" := rfl

theorem TypeExpr.text_union :
    (union branches).text = "(" ++ Text.join " | " (texts branches) ++ ")" := rfl

theorem TypeExpr.text_intersection :
    (intersection branches).text = "(" ++ Text.join " & " (texts branches) ++ ")" := rfl

theorem TypeExpr.text_array : (array t).text = t.text ++ "[]" := rfl

theorem TypeExpr.text_record : (record t).text = "Record<string, " ++ t.text ++ ">" := rfl

theorem TypeExpr.text_object : (object properties none).text =
    objectText (propertyLines properties) := rfl

theorem TypeExpr.text_object_index : (object properties (some t)).text =
    objectText (propertyLines properties ++ ["  [key: string]: " ++ t.text ++ ";"]) := rfl

end

/-- The code that declares a type under a name. -/
def exportType (name : String) (type : TypeExpr) : String :=
  "export type " ++ name ++ " = " ++ type.text ++ ";"

/-- The texts are those of the types, one by one. -/
theorem TypeExpr.texts_eq_map (types : List TypeExpr) : texts types = types.map text := by
  induction types with
  | nil => rfl
  | cons t rest ih => rw [texts, ih, List.map_cons]

end ApiTypes
