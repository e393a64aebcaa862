/-
  Japanese character sets.

  Their characters are those of a row and a cell (`japaneseBasic`), extended in several
  ways. A byte of kana is a character of its own. There are two ways to write a row and a
  cell:

  * both 128 higher, the supplement and the second plane behind the byte 0x8f, and kana
    behind the byte 0x8e;
  * shifted, so that two rows share a first byte and kana stand between the first bytes.
-/
import ApiTypes.Charset.Japanese.BasicTable
import ApiTypes.Charset.Japanese.ExtendedTable
import ApiTypes.Charset.Japanese.SupplementTable
import ApiTypes.Charset.Japanese.VendorTable

namespace ApiTypes.Charset

/-! ## Characters -/

/-- The half-wide kana of a byte. -/
def kana? (b : Nat) : Option Char :=
  if 0xa1 ≤ b ∧ b ≤ 0xdf then some (Char.ofNat (0xfec0 + b)) else none

/-- The byte of ASCII, with a yen sign and an overline in the places of two others. -/
def roman? (b : Nat) : Option Char :=
  if b = 0x5c then some '¥' else if b = 0x7e then some '‾' else ascii? b

/-- The editions of the extended sets. -/
inductive JapaneseEdition where
  | first
  | second
  deriving DecidableEq, Repr

/-- The codes of the first plane that the second edition has added. -/
def addedCodes : List Nat :=
  [0x2e21, 0x2f7e, 0x4f54, 0x4f7e, 0x7427, 0x7e7a, 0x7e7b, 0x7e7c, 0x7e7d, 0x7e7e]

/-- What a code of the first plane stands for; one that the second edition has added is a
character already in the first, but not known which. -/
def firstPlane? (edition : JapaneseEdition) (code : Nat) : Option (List Char) :=
  if edition = .first ∧ code ∈ addedCodes then some [Text.replacement]
  else
    match (japaneseBasic.char? code).or (japaneseFirstPlane.char? code) with
    | some c => some [c]
    | none => (japaneseMarked.lookup code).map String.toList

/-- What a code of the second plane stands for; the second edition has changed one. -/
def secondPlane? (edition : JapaneseEdition) (code : Nat) : Option (List Char) :=
  if edition = .first ∧ code = 0x7d3b then some ['鬝']
  else (japaneseSecondPlane.char? code).map ([·])

/-! ## Rows and cells 128 higher -/

/-- Reads a character of one byte or two, or of three behind 0x8f. -/
def stepExtended (pair? : Nat → Nat → Option (List Char))
    (triple? : Nat → Nat → Option (List Char)) (bytes : List Nat) : Step Unit :=
  match bytes with
  | 0x8f :: a :: b :: _ =>
    match triple? a b with
    | some cs => ⟨cs, 3, ()⟩
    | none => noChar 1
  | 0x8f :: _ => noChar bytes.length
  | 0x8e :: b :: _ =>
    match kana? b with
    | some c => one c 2
    | none => noChar 1
  | _ => stepPair ascii? pair? bytes

def eucJapanese : Charset where
  name := "euc_jp"
  aliases := ["eucjp", "u_jis", "ujis"]
  read := readSteps <| stepExtended
    (fun a b => (rowCell? a b).bind fun code => (japaneseBasic.char? code).map ([·]))
    (fun a b => (rowCell? a b).bind fun code => (japaneseSupplement.char? code).map ([·]))

/-- Reads the characters of both planes and of the supplement. -/
def readBothPlanes (edition : JapaneseEdition) : List UInt8 → Option (List Char) :=
  readSteps <| stepExtended
    (fun a b => (rowCell? a b).bind (firstPlane? edition))
    (fun a b => (rowCell? a b).bind fun code =>
      (secondPlane? edition code).or ((japaneseSupplement.char? code).map ([·])))

def eucFirstEdition : Charset where
  name := "euc_jisx0213"
  aliases := ["eucjisx0213"]
  read := readBothPlanes .first

def eucSecondEdition : Charset where
  name := "euc_jis_2004"
  aliases := ["jisx0213", "eucjis2004", "euc_jis2004"]
  read := readBothPlanes .second

/-! ## Rows and cells shifted -/

/-- The row and the cell that two bytes stand for. -/
def shifted? (a b : Nat) : Option Nat :=
  if ((0x81 ≤ a ∧ a ≤ 0x9f) ∨ (0xe0 ≤ a ∧ a ≤ 0xfc)) ∧
      ((0x40 ≤ b ∧ b ≤ 0x7e) ∨ (0x80 ≤ b ∧ b ≤ 0xfc)) then
    let rows := if a < 0xe0 then a - 0x81 else a - 0xc1
    let cell := if b < 0x80 then b - 0x40 else b - 0x41
    some (pairCode (0x21 + 2 * rows + cell / 94) (0x21 + cell % 94))
  else none

def shiftJapanese : Charset where
  name := "shift_jis"
  aliases := ["csshiftjis", "shiftjis", "sjis", "s_jis", "x_mac_japanese"]
  read := readSteps <| stepPair (fun b => (ascii? b).or (kana? b))
    fun a b => (shifted? a b).bind fun code => (japaneseBasic.char? code).map ([·])

/-- The bytes that vendors use besides those of ASCII and kana. -/
def vendorByte? (b : Nat) : Option Char :=
  [(0x80, Char.ofNat 0x80), (0xa0, Char.ofNat 0xf8f0), (0xfd, Char.ofNat 0xf8f1),
   (0xfe, Char.ofNat 0xf8f2), (0xff, Char.ofNat 0xf8f3)].lookup b

/-- What two bytes stand for, if they are not of a row and a cell: ten first bytes are kept
for private characters. -/
def vendorPair? (a b : Nat) : Option Char :=
  (shifted? a b).bind fun code =>
    if 0xf0 ≤ a ∧ a ≤ 0xf9 then
      some (Char.ofNat (0xe000 + 188 * (a - 0xf0) + (if b < 0x80 then b - 0x40 else b - 0x41)))
    else (japaneseVendor.char? code).or (japaneseBasic.char? code)

def shiftVendor : Charset where
  name := "cp932"
  aliases := ["932", "ms932", "mskanji", "ms_kanji"]
  read := readSteps <| stepPair (fun b => ((ascii? b).or (kana? b)).or (vendorByte? b))
    fun a b => (vendorPair? a b).map ([·])

/-- The rows of the second plane, in the order in which they follow those of the first. -/
def secondPlaneRows : List Nat :=
  [0x21, 0x28, 0x23, 0x24, 0x25, 0x2c, 0x2d, 0x2e, 0x2f] ++ (List.range 17).map (0x6e + ·)

/-- What a shifted row and cell stand for: the rows of the second plane follow those of the
first. A backslash and a tilde stand where the first plane has wide ones. -/
def shiftedPlanes? (edition : JapaneseEdition) (code : Nat) : Option (List Char) :=
  if code = 0x2140 then some ['\\']
  else if code = 0x2232 then some ['~']
  else if code / 256 ≤ 0x7e then firstPlane? edition code
  else do
    let row ← secondPlaneRows[code / 256 - 0x7f]?
    secondPlane? edition (pairCode row (code % 256))

/-- Reads the shifted characters of both planes. -/
def readShiftedPlanes (edition : JapaneseEdition) : List UInt8 → Option (List Char) :=
  readSteps <| stepPair (fun b => (roman? b).or (kana? b))
    fun a b => (shifted? a b).bind (shiftedPlanes? edition)

def shiftFirstEdition : Charset where
  name := "shift_jisx0213"
  aliases := ["shiftjisx0213", "sjisx0213", "s_jisx0213"]
  read := readShiftedPlanes .first

def shiftSecondEdition : Charset where
  name := "shift_jis_2004"
  aliases := ["shiftjis2004", "sjis_2004", "s_jis_2004"]
  read := readShiftedPlanes .second

/-- The Japanese character sets in which every character stands for itself. -/
def japanese : List Charset :=
  [eucJapanese, eucFirstEdition, eucSecondEdition, shiftJapanese, shiftVendor, shiftFirstEdition,
   shiftSecondEdition]

end ApiTypes.Charset
