/-
  Character sets in which every byte is a character of its own.
-/
import ApiTypes.Charset.Basic

namespace ApiTypes

/-- A character set by its table: bytes below `first` are the characters with their
numbers, those from it on the characters of the rows, in order. -/
structure SingleByte where
  name : String
  aliases : List String
  first : Nat
  rows : List String

namespace SingleByte

/-- The characters of the rows. -/
def table (s : SingleByte) : Array Char := (s.rows.flatMap String.toList).toArray

/-- The character of a byte, given the characters of the rows. -/
def charOf (first : Nat) (table : Array Char) (b : UInt8) : Char :=
  if b.toNat < first then Char.ofNat b.toNat
  else table.getD (b.toNat - first) Text.replacement

/-- The character set of a table. -/
def charset (s : SingleByte) : Charset where
  name := s.name
  aliases := s.aliases
  read bytes :=
    let table := s.table
    some (bytes.map (charOf s.first table))

end SingleByte

end ApiTypes
