/-
  Character sets of simplified Chinese.

  Their characters are those of a row and a cell (`simplifiedBasic`), written both 128
  higher, then those that share the two bytes with them, then those of four bytes. In one
  set rows and cells are written as they are, between marks of ASCII.
-/
import ApiTypes.Charset.Simplified.BasicTable
import ApiTypes.Charset.Simplified.ExtendedTable
import ApiTypes.Charset.Simplified.SpanTable

namespace ApiTypes.Charset

/-- The basic character of two bytes. -/
def simplifiedBasic? (a b : Nat) : Option Char := (rowCell? a b).bind simplifiedBasic.char?

/-- The basic or extended character of two bytes. -/
def simplified? (a b : Nat) : Option Char :=
  (simplifiedExtended.char? (pairCode a b)).or (simplifiedBasic? a b)

def simplifiedChinese : Charset where
  name := "gb2312"
  aliases := ["chinese", "csiso58gb231280", "euccn", "euc_cn", "eucgb2312_cn", "gb2312_1980",
    "gb2312_80", "iso_ir_58", "x_mac_simp_chinese"]
  read := readSteps <| stepPair ascii? fun a b => (simplifiedBasic? a b).map ([·])

def extendedChinese : Charset where
  name := "gbk"
  aliases := ["936", "cp936", "ms936"]
  read := readSteps <| stepPair ascii? fun a b => (simplified? a b).map ([·])

/-! ## All of Unicode -/

/-- Whether a byte is a digit. -/
def isDigitByte (b : Nat) : Bool := 0x30 ≤ b && b ≤ 0x39

/-- The number of four bytes, of which the second and the last are digits. -/
def fourNumber? (a b c d : Nat) : Option Nat :=
  if 0x81 ≤ a ∧ a ≤ 0xfe ∧ isDigitByte b ∧ 0x81 ≤ c ∧ c ≤ 0xfe ∧ isDigitByte d then
    some ((((a - 0x81) * 10 + (b - 0x30)) * 126 + (c - 0x81)) * 10 + (d - 0x30))
  else none

/-- The number of the first four bytes that stand for a character beyond the first
plane of Unicode. -/
def beyondFirstPlane : Nat := 15 * 10 * 126 * 10

/-- The code point of four bytes. -/
def fourPoint? (a b c d : Nat) : Option Nat := do
  let n ← fourNumber? a b c d
  if n < beyondFirstPlane then (Span.char? simplifiedFourSpans n).map Char.toNat
  else
    let point := 0x10000 + (n - beyondFirstPlane)
    if point < 0x110000 then some point else none

/-- Reads a character of one, two or four bytes; a digit behind a first byte starts four. -/
def stepAllChinese (bytes : List Nat) : Step Unit :=
  match bytes with
  | a :: b :: rest =>
    if (ascii? a).isNone && isDigitByte b then
      match rest with
      | c :: d :: _ =>
        match fourPoint? a b c d with
        | some point => onePoint point 4
        | none => noChar 1
      | _ => noChar bytes.length
    else
      stepPair ascii?
        (fun a b =>
          ((simplified? a b).or (Span.char? simplifiedPairSpans (pairCode a b))).map ([·]))
        bytes
  | _ => stepPair ascii? (fun _ _ => none) bytes

def allChinese : Charset where
  name := "gb18030"
  aliases := ["gb18030_2000"]
  read := readSteps stepAllChinese

/-! ## Between marks -/

/-- Reads a byte of ASCII or, between marks, a row and a cell. The marks are a tilde with
a brace; one with another tilde is a tilde, and one with a line end is nothing. -/
def stepBetweenMarks (isChinese : Bool) (bytes : List Nat) : Step Bool :=
  let bad (taken : Nat) : Step Bool := ⟨[Text.replacement], taken, isChinese⟩
  match bytes with
  | [] => bad 1
  | 0x7e :: [] => bad 1
  | 0x7e :: b :: _ =>
    match isChinese, b with
    | false, 0x7e => ⟨['~'], 2, false⟩
    | false, 0x7b => ⟨[], 2, true⟩
    | false, 0x0a => ⟨[], 2, false⟩
    | true, 0x7d => ⟨[], 2, false⟩
    | _, _ => bad 1
  | a :: rest =>
    if 128 ≤ a then bad 1
    else if !isChinese then ⟨[Char.ofNat a], 1, false⟩
    else
      match rest with
      | [] => bad 1
      | b :: _ =>
        match simplifiedBasic.char? (pairCode a b) with
        | some c => ⟨[c], 2, true⟩
        | none => bad 1

def markedChinese : Charset where
  name := "hz"
  aliases := ["hzgb", "hz_gb", "hz_gb_2312"]
  read bytes := some (readBy false stepBetweenMarks bytes)

/-- The character sets of simplified Chinese. -/
def simplified : List Charset := [simplifiedChinese, extendedChinese, allChinese, markedChinese]

end ApiTypes.Charset
