/-
  The text of a value inside generated code and messages.

  A text stands for itself; the other values are spelled `None`, `True`,
  `False`, decimal numbers, lists in brackets and objects in braces, with the texts inside lists and
  objects between quotes.
-/
import ApiTypes.Decimal.Shortest
import ApiTypes.Json.Value
import ApiTypes.Text.Quoted

namespace ApiTypes.Json

/-- A float is shown like a written one, with short names for the values without
digits. -/
def shownFloat : Decimal.Layout where
  leastPositional := -4
  greatestPositional := 15
  exponentDigits := 2
  infinity := "inf"
  undefined := "nan"

mutual

/-- A value shown so that a text can be told from other values. -/
def Value.shown : Value → String
  | .null => "None"
  | .bool true => "True"
  | .bool false => "False"
  | .int n => toString n
  | .float x => shownFloat.text x
  | .str s => Text.quoted s
  | .arr items => "[" ++ String.intercalate ", " (shownItems items) ++ "]"
  | .obj fields => "\x7b" ++ String.intercalate ", " (shownFields fields) ++ "\x7d"

/-- The items of a list, each shown. -/
def shownItems : List Value → List String
  | [] => []
  | v :: rest => v.shown :: shownItems rest

/-- The members of an object, each shown. -/
def shownFields : List (String × Value) → List String
  | [] => []
  | (k, v) :: rest => (Text.quoted k ++ ": " ++ v.shown) :: shownFields rest

end

/-- A value as running text: a text stands for itself. -/
def Value.display : Value → String
  | .str s => s
  | v => v.shown

end ApiTypes.Json
