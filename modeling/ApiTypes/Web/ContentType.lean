/-
  The character set that a content type names.

  A content type is a list of parameters with semicolons between them. A parameter is a
  name, an equals sign and a value, which may be quoted. The value of a parameter may be
  spread over several (`Piece`), whose names carry a star and a number, and may then be
  escaped and say in which character set it is written itself.

  `ContentType.charset` gives the name in the parameter `charset`. Some content types
  cannot be read: those with pieces of which some are numbered and some are not, or whose
  numbers are too long.
-/
import ApiTypes.Charset
import ApiTypes.Text.Case
import ApiTypes.Text.Integer
import ApiTypes.Text.Percent
import ApiTypes.Text.Split

namespace ApiTypes.ContentType

/-! ## Parameters -/

/-- Cuts a text at the semicolons that are first in their parameter or have an even number
of quotes before them in it; a quote behind a backslash does not count. The parameter in
hand is `piece`, last character first. -/
def cutFrom (piece : List Char) (isOpen : Bool) : List Char → List (List Char)
  | [] => [piece.reverse]
  | c :: rest =>
    if c = ';' ∧ (piece = [] ∨ !isOpen) then piece.reverse :: cutFrom [] false rest
    else
      let isQuote := c = '"' ∧ piece.head? ≠ some '\\'
      cutFrom (c :: piece) (if isQuote then !isOpen else isOpen) rest

/-- Blanks around a name or a value; the marks that separate records are among them. -/
def isBlank (c : Char) : Bool := Text.isBlank c || (0x1c ≤ c.toNat && c.toNat ≤ 0x1f)

/-- The text without blanks around it. -/
def trim (cs : List Char) : String := Text.strip isBlank (String.ofList cs)

/-- The name and the value of a parameter; the value of one without an equals sign is
empty. -/
def parameter (cs : List Char) : String × String :=
  if '=' ∈ cs then
    (Text.lower (trim (cs.takeWhile (· != '='))), trim ((cs.dropWhile (· != '=')).drop 1))
  else (trim cs, "")

/-- The parameters of a content type. -/
def parameters (text : String) : List (String × String) :=
  (cutFrom [] false text.toList).map parameter

/-! ## Quotes -/

/-- The value without the quotes or the brackets around it. Between quotes a backslash
stands before a backslash and before a quote. -/
def unquote (value : String) : String :=
  let cs := value.toList
  let inside := String.ofList ((cs.drop 1).dropLast)
  if cs.length < 2 then value
  else if cs.head? = some '"' ∧ cs.getLast? = some '"' then
    Text.replaceAll "\\\"" "\"" (Text.replaceAll "\\\\" "\\" inside)
  else if cs.head? = some '<' ∧ cs.getLast? = some '>' then inside
  else value

/-- The value with backslashes as they stand between quotes. -/
def escapeQuotes (value : String) : String :=
  Text.replaceAll "\"" "\\\"" (Text.replaceAll "\\" "\\\\" value)

/-- The value between quotes. -/
def quote (value : String) : String := "\"" ++ escapeQuotes value ++ "\""

/-! ## Pieces -/

/-- A piece of a value: its number if it has one, its text, and whether that is escaped. -/
structure Piece where
  number : Option Nat
  text : String
  isEscaped : Bool
  deriving DecidableEq, Repr

/-- A character of the name of a value that comes in pieces. -/
def isNameChar (c : Char) : Bool := c.isAlphanum || c == '_'

/-- The name of the value that a parameter is a piece of, and the digits of its number:
letters, digits and underscores before a star, the digits behind it, and then nothing, or
another star behind digits. -/
def pieceName? (name : String) : Option (String × List Char) :=
  let before := name.toList.takeWhile isNameChar
  match before, name.toList.drop before.length with
  | _ :: _, '*' :: rest =>
    let digits := rest.takeWhile Char.isDigit
    let after := rest.drop digits.length
    if after = [] ∨ (after = ['*'] ∧ digits ≠ []) then some (String.ofList before, digits)
    else none
  | _, _ => none

/-- The piece that a parameter is, by the name of its value, unless its number is too
long. -/
def piece? (name : String) (digits : List Char) (value : String) : Option Piece :=
  let isEscaped := name.toList.getLast? == some '*'
  if digits = [] then some ⟨none, value, isEscaped⟩
  else (Text.magnitude? digits).map fun n => ⟨some n, value, isEscaped⟩

/-- Whether a piece comes before another: by number, then by text. -/
def Piece.precedes (a b : Piece) : Bool :=
  let m := a.number.getD 0
  let n := b.number.getD 0
  if m ≠ n then m < n
  else if a.text ≠ b.text then a.text < b.text
  else !a.isEscaped || b.isEscaped

/-- The text of a piece without escapes; each byte is the character with its number. -/
def Piece.plain (p : Piece) : String :=
  if p.isEscaped then
    String.ofList ((Text.percentBytes p.text.toList).map fun b => Char.ofNat b.toNat)
  else p.text

/-- The value that pieces make together, between quotes, and the name of its character
set; there is one if a piece is escaped and two single quotes stand in the value. Pieces
of which some are numbered and some are not make none. -/
def assemble? (pieces : List Piece) : Option (String × Option String) :=
  if pieces.any (·.number.isSome) && pieces.any (·.number.isNone) then none
  else
    let value := escapeQuotes (String.join ((pieces.mergeSort Piece.precedes).map Piece.plain))
    if pieces.any (·.isEscaped) then
      match Text.split '\'' value with
      | set :: _ :: first :: rest => some ("\"" ++ Text.join "'" (first :: rest) ++ "\"", some set)
      | _ => some ("\"" ++ value ++ "\"", some "")
    else some ("\"" ++ value ++ "\"", none)

/-! ## Values -/

/-- Values by name, between quotes, each with the name of its character set if it is
escaped. -/
abbrev Values := List (String × String × Option String)

/-- The values of parameters: the first one as it is written, then those in one piece, then
those in pieces. -/
def values? (parameters : List (String × String)) : Option Values := do
  let (first, rest) ← match parameters with
    | first :: rest => some (first, rest)
    | [] => none
  let unquoted := rest.map fun (name, value) => (name, unquote value)
  let whole := unquoted.filter fun (name, _) => (pieceName? name).isNone
  let pieces ← (unquoted.filterMap fun (name, value) =>
    (pieceName? name).map fun (of_, digits) => (of_, piece? name digits value)).mapM
      fun (of_, piece) => piece.map fun p => (of_, p)
  let assembled ← (pieces.map (·.1)).eraseDups.mapM fun of_ => do
    let (value, set) ← assemble? ((pieces.filter (·.1 = of_)).map (·.2))
    return (of_, value, set)
  return [(first.1, first.2, none)] ++ (whole.map fun (name, value) => (name, quote value, none)) ++
    assembled

/-- Reads bytes that need not start with a byte order mark: without one, the last byte of a
number leads. -/
def readUnmarked (s : Charset) (bytes : List UInt8) : Option (List Char) :=
  (s.read bytes).or
    (if s.name = Charset.utf16.name then Charset.utf16Small.read bytes
     else if s.name = Charset.utf32.name then Charset.utf32Small.read bytes
     else none)

/-- The text of a value that is written in a character set: if the set is not known or does
not read it, it stands as it is. -/
def readIn (set value : String) : String :=
  let bytes := value.toList.map fun c => UInt8.ofNat c.toNat
  match (Charset.find? (if set = "" then "ascii" else set)).bind (readUnmarked · bytes) with
  | some cs => if Text.replacement ∈ cs then value else String.ofList cs
  | none => value

/-- What a content type says about the character set. -/
inductive Named where
  | nothing
  | name (name : String)
  | unreadable
  deriving DecidableEq, Repr

/-- A name with a null character cannot be looked up. -/
def hasNull (name : String) : Bool := name.toList.any (·.toNat = 0)

/-- The name of the character set in a content type; one that is no ASCII is none. -/
def charset (text : String) : Named :=
  match values? (parameters text) with
  | none => .unreadable
  | some values =>
    match values.find? fun (name, _) => Text.lower name = "charset" with
    | none => .nothing
    | some (_, value, set) =>
      let name := match set with
        | some set => readIn set (unquote value)
        | none => unquote value
      if set.any hasNull then .unreadable
      else if name.toList.any fun c => 127 < c.toNat then .nothing
      else if hasNull name then .unreadable
      else .name (Text.lower name)

end ApiTypes.ContentType
