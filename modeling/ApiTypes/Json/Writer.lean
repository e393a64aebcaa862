/-
  Writing JSON in one line of ASCII.

  Items are separated by a comma and a space, a key and its value by a colon
  and a space. In a text, controls are written by their short escape if they
  have one, and all other code points that are not visible ASCII by their UTF-16
  code units; half of a surrogate pair is one unit.
-/
import ApiTypes.Decimal.Shortest
import ApiTypes.Json.Value
import ApiTypes.Text.CodePoints
import ApiTypes.Text.Hexadecimal

namespace ApiTypes.Json

/-- A float is written with a point for the decimal exponents from -4 to 15 and
with an exponent of at least two digits otherwise. -/
def floatLayout : Decimal.Layout where
  leastPositional := -4
  greatestPositional := 15
  exponentDigits := 2
  infinity := "Infinity"
  undefined := "NaN"

/-- The escape of one UTF-16 code unit. -/
def escapeUnit (unit : Nat) : List Char := '\\' :: 'u' :: Text.hexadecimal 4 unit

/-- How a code point is written inside a text. -/
def escapePoint (point : Nat) : List Char :=
  if point = '"'.toNat then ['\\', '"']
  else if point = '\\'.toNat then ['\\', '\\']
  else if point = '\n'.toNat then ['\\', 'n']
  else if point = '\r'.toNat then ['\\', 'r']
  else if point = '\t'.toNat then ['\\', 't']
  else if point = 8 then ['\\', 'b']
  else if point = 12 then ['\\', 'f']
  else if 32 ≤ point ∧ point < 127 then [Char.ofNat point]
  else if point < 0x10000 then escapeUnit point
  else
    escapeUnit (0xd800 + (point - 0x10000) / 0x400) ++
      escapeUnit (0xdc00 + (point - 0x10000) % 0x400)

/-- What is written of a text between its quotes. -/
def escapeText (s : String) : List Char := (Text.codePoints s).flatMap escapePoint

/-- A text between double quotes. -/
def writeText (s : String) : String := String.ofList ('"' :: escapeText s ++ ['"'])

mutual

/-- The text of a value. -/
def write : Value → String
  | .null => "null"
  | .bool true => "true"
  | .bool false => "false"
  | .int n => toString n
  | .float x => floatLayout.text x
  | .str s => writeText s
  | .arr items => "[" ++ String.intercalate ", " (writeItems items) ++ "]"
  | .obj fields => "\x7b" ++ String.intercalate ", " (writeFields fields) ++ "\x7d"

/-- The texts of the items of a list. -/
def writeItems : List Value → List String
  | [] => []
  | v :: rest => write v :: writeItems rest

/-- The texts of the members of an object. -/
def writeFields : List (String × Value) → List String
  | [] => []
  | (k, v) :: rest => (writeText k ++ ": " ++ write v) :: writeFields rest

end

end ApiTypes.Json
