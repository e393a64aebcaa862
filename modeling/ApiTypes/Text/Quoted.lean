/-
  A text shown between quotes in a message.

  Single quotes are taken, unless the text holds a single quote and no double
  quote. The quote itself, the backslash and everything unprintable is escaped.
-/
import ApiTypes.Text.CodePoints
import ApiTypes.Text.Hexadecimal
import ApiTypes.Text.Printable

namespace ApiTypes.Text

/-- The quote for a text. -/
def quoteFor (cs : List Char) : Char :=
  if '\'' ∈ cs ∧ '"' ∉ cs then '"' else '\''

/-- How a code point is shown between the given quotes. -/
def quotedPoint (quote : Char) (point : Nat) : List Char :=
  let c := Char.ofNat point
  if c = quote ∨ c = '\\' then ['\\', c]
  else if c = '\n' then ['\\', 'n']
  else if c = '\r' then ['\\', 'r']
  else if c = '\t' then ['\\', 't']
  else if isPrintable c then [c]
  else if point < 0x100 then '\\' :: 'x' :: hexadecimal 2 point
  else if point < 0x10000 then '\\' :: 'u' :: hexadecimal 4 point
  else '\\' :: 'U' :: hexadecimal 8 point

/-- The text between quotes. -/
def quoted (s : String) : String :=
  let quote := quoteFor s.toList
  String.ofList (quote :: (codePoints s).flatMap (quotedPoint quote) ++ [quote])

end ApiTypes.Text
