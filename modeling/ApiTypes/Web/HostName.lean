/-
  Names of hosts in any script.

  A name is labels with points between them. A label of any script (`isLabel`) has an
  ASCII form, which starts with `xn--`, and a name is written with ASCII labels where it
  is asked for.

  * `HostName.toAscii?` writes a name with ASCII labels;
  * `HostName.ofAscii?` reads such a name.

  Neither gives a name with a label that no host may have.
-/
import ApiTypes.Text.Case
import ApiTypes.Text.Composition
import ApiTypes.Text.Punycode
import ApiTypes.Text.Split
import ApiTypes.Web.HostTable

namespace ApiTypes.HostName

open HostTable

/-! ## Characters in their places -/

/-- A character that stands anywhere in a label. -/
def isAllowed (c : Char) : Bool := allowedRuns.any (·.holds c.toNat)

/-- A mark that makes a conjunct of what is before and behind it. -/
def isConjoining (c : Char) : Bool := Text.markClass c == 9

/-- Whether the nearest character that joining does not pass over lies in the ranges. -/
def reaches (ranges : List (Nat × Nat)) (cs : List Char) : Bool :=
  (cs.find? (!Text.inRanges transparentRanges ·)).any (Text.inRanges ranges)

/-- A digit of the one or the other set of Arabic digits. -/
def isArabicDigit (c : Char) : Bool := 0x660 ≤ c.toNat && c.toNat ≤ 0x669
def isExtendedArabicDigit (c : Char) : Bool := 0x6f0 ≤ c.toNat && c.toNat ≤ 0x6f9

/-- Whether a character that stands in some places only may stand behind `before`, which
is kept nearest first, and before `after`. -/
def isInPlace (c : Char) (before after : List Char) : Bool :=
  let around := before ++ after
  match c.toNat with
  | 0x200c =>
    before.head?.any isConjoining ||
      (reaches leftJoiningRanges before && reaches rightJoiningRanges after)
  | 0x200d => before.head?.any isConjoining
  | 0xb7 => before.head? == some 'l' && after.head? == some 'l'
  | 0x375 => after.head?.any (Text.inRanges greekRanges)
  | 0x5f3 | 0x5f4 => before.head?.any (Text.inRanges hebrewRanges)
  | 0x30fb => around.any fun d => d != c && Text.inRanges kanaRanges d
  | _ =>
    if isArabicDigit c then !around.any isExtendedArabicDigit
    else isExtendedArabicDigit c && !around.any isArabicDigit

/-- Whether all characters that follow `before` are allowed where they stand. -/
def allInPlace (before : List Char) : List Char → Bool
  | [] => true
  | c :: rest => (isAllowed c || isInPlace c before rest) && allInPlace (c :: before) rest

/-! ## Labels -/

/-- Whether the directions of the characters of a label go together: a label with
letters or digits that are written from the right starts with such a letter, has no
other letters and only digits of one kind, and ends, but for marks, in a letter or a
digit. -/
def hasOneDirection (label : List Char) : Bool :=
  let isLeftward := Text.inRanges leftwardRanges
  let isArabic := Text.inRanges arabicNumberRanges
  let isEuropean := Text.inRanges europeanNumberRanges
  let last := label.reverse.find? (!Text.inRanges nonspacingRanges ·)
  !label.any (fun c => isLeftward c || isArabic c) ||
    (label.head?.any isLeftward && !label.any (Text.inRanges rightwardRanges) &&
      !(label.any isArabic && label.any isEuropean) &&
      last.any fun c => isLeftward c || isArabic c || isEuropean c)

/-- Whether hyphens stand where they may: not at an end, and not third and fourth. -/
def hyphensInPlace (label : List Char) : Bool :=
  (label.drop 2).take 2 != ['-', '-'] && label.head? != some '-' && label.getLast? != some '-'

/-- The most characters of a name, of a name without a point at its end, and of a label
in ASCII. -/
def longestName : Nat := 254
def longestOpenName : Nat := 253
def longestLabel : Nat := 63

/-- Whether characters make a label. -/
def isLabel (label : List Char) : Bool :=
  label != [] && label.length ≤ longestName && allInPlace [] label && hyphensInPlace label &&
    !label.head?.any (Text.inRanges markRanges) && hasOneDirection label && Text.isComposed label

/-- What the ASCII form of a label in another script starts with. -/
def asciiMark : List Char := ['x', 'n', '-', '-']

/-- An ASCII character. -/
def isAscii (c : Char) : Bool := c.toNat < 128

/-- Reads a label: its ASCII form gives the label in its own script. -/
def readLabel? (label : List Char) : Option (List Char) :=
  let low := label.map Char.toLower
  let read :=
    if !label.all isAscii then some label
    else if asciiMark.isPrefixOf low then
      let digits := low.drop asciiMark.length
      if digits = [] ∨ digits.getLast? = some '-' then none
      else
        ((Text.Punycode.decode digits).toOption.filter (·.all Nat.isValidChar)).map
          (·.map Char.ofNat)
    else some low
  read.filter isLabel

/-- Writes a label in ASCII. -/
def writeLabel? (label : List Char) : Option (List Char) :=
  let written :=
    if label.all isAscii then (readLabel? label).map fun _ => label
    else if isLabel label then some (asciiMark ++ Text.Punycode.encode label)
    else none
  written.filter (·.length ≤ longestLabel)

/-! ## Names -/

/-- The points between labels. -/
def isPoint (c : Char) : Bool := [0x2e, 0x3002, 0xff0e, 0xff61].contains c.toNat

/-- The name with each label changed; a point at the end stays. -/
def mapLabels? (f : List Char → Option (List Char)) (name : List Char) : Option (List Char) :=
  if longestName < name.length then none
  else
    match name.splitOnP isPoint with
    | [] | [[]] => none
    | labels =>
      if labels.getLast? = some [] then do
        let changed ← labels.dropLast.mapM f
        return ['.'].intercalate (changed ++ [[]])
      else do return ['.'].intercalate (← labels.mapM f)

/-- The name with its labels in ASCII. -/
def toAscii? (name : String) : Option String :=
  let written := mapLabels? writeLabel? name.toList
  (written.filter fun cs =>
    cs.length ≤ if cs.getLast? = some '.' then longestName else longestOpenName).map String.ofList

/-- The name with its labels in their own scripts. -/
def ofAscii? (name : String) : Option String :=
  (mapLabels? readLabel? name.toList).map String.ofList

end ApiTypes.HostName
