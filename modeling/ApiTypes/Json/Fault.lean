/-
  Why a text is not JSON, and where.

  A fault names what was expected or wrong and the place: an offset counted in
  code points from zero, and a line and a column counted from one.
-/
import ApiTypes.Text.CodePoints

namespace ApiTypes.Json

/-- What is wrong at a place of the text. -/
inductive Fault.Kind where
  | value
  | memberName
  | colon
  | comma
  | afterEnd
  | openText
  | control
  | escape
  | codePoint
  | byteOrderMark
  deriving DecidableEq, Repr

/-- The words for what is wrong. -/
def Fault.Kind.words : Fault.Kind → String
  | value => "Expecting value"
  | memberName => "Expecting property name enclosed in double quotes"
  | colon => "Expecting ':' delimiter"
  | comma => "Expecting ',' delimiter"
  | afterEnd => "Extra data"
  | openText => "Unterminated string starting at"
  | control => "Invalid control character at"
  | escape => "Invalid \\escape"
  | codePoint => "Invalid \\uXXXX escape"
  | byteOrderMark => "Unexpected UTF-8 BOM (decode using utf-8-sig)"

/-- A fault and its place. -/
structure Fault where
  kind : Fault.Kind
  line : Nat
  column : Nat
  offset : Nat
  deriving DecidableEq, Repr

/-- The fault of a kind after the first `offset` characters of a text. -/
def Fault.at (kind : Fault.Kind) (text : List Char) (offset : Nat) : Fault :=
  let before := text.take offset
  let line := (before.reverse.takeWhile (· != '\n')).reverse
  ⟨kind, before.count '\n' + 1, (Text.points line).length + 1, (Text.points before).length⟩

/-- The fault with its place, in one line. -/
def Fault.message (f : Fault) : String :=
  f.kind.words ++ ": line " ++ toString f.line ++ " column " ++ toString f.column ++
    " (char " ++ toString f.offset ++ ")"

/-- A text is refused for a fault, or for a whole number with more digits than
are read. -/
inductive Refusal where
  | fault (f : Fault)
  | oversizedNumber
  deriving DecidableEq, Repr

end ApiTypes.Json
