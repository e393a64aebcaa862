/-
  Lower and upper case of a text in any script.

  * `lower` writes each character in lower case. Two rules go beyond a table:
    the capital I with a dot becomes an i and a combining dot, and a capital
    sigma that ends a word becomes the final sigma (`endsWord`);
  * `upper` writes each character in upper case; some become two or three.
-/
import ApiTypes.Text.CaseTable

namespace ApiTypes.Text

/-! ## Classes of letters -/

/-- Whether a character lies in one of the ranges. -/
def inRanges (ranges : List (Nat × Nat)) (c : Char) : Bool :=
  ranges.any fun (first, last) => first ≤ c.toNat && c.toNat ≤ last

/-- A character that has a case and is not passed over. -/
def isCased (c : Char) : Bool := inRanges CaseTable.casedRanges c

/-- A character that is passed over when the end of a word is looked for. -/
def isIgnorable (c : Char) : Bool := inRanges CaseTable.ignorableRanges c

/-- A position ends a word when the nearest character before it that is not
passed over has a case, and the nearest one after it has none. -/
def endsWord (before after : List Char) : Bool :=
  (before.find? (!isIgnorable ·)).any isCased && !(after.find? (!isIgnorable ·)).any isCased

/-! ## Lower case -/

/-- The lower-case form of a character, apart from its neighbours. -/
def lowerChar (c : Char) : List Char :=
  if c.toNat < 128 then [c.toLower]
  else if c.toNat = 0x130 then ['i', Char.ofNat 0x307]
  else [((CaseTable.form? CaseTable.lowerRuns c.toNat).map Char.ofNat).getD c]

/-- The lower-case form of the characters that follow `before`, which is kept
nearest first. -/
def lowerChars (before : List Char) : List Char → List Char
  | [] => []
  | c :: rest =>
    (if c.toNat = 0x3a3 then [if endsWord before rest then 'ς' else 'σ'] else lowerChar c) ++
      lowerChars (c :: before) rest

/-- The text in lower case. -/
def lower (s : String) : String := String.ofList (lowerChars [] s.toList)

/-! ## Upper case -/

/-- The upper-case form of a character. -/
def upperChar (c : Char) : List Char :=
  if c.toNat < 128 then [c.toUpper]
  else match CaseTable.upperExpansions.lookup c.toNat with
    | some form => form.map Char.ofNat
    | none => [((CaseTable.form? CaseTable.upperRuns c.toNat).map Char.ofNat).getD c]

/-- The text in upper case. -/
def upper (s : String) : String := String.ofList (s.toList.flatMap upperChar)

end ApiTypes.Text
