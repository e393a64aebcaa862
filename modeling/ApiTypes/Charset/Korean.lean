/-
  Korean character sets.

  Their characters are those of a row and a cell (`koreanBasic`), among them some of the
  Hangul syllables. The other syllables are written

  * as four letters of two bytes each, of which the first is a filler,
  * in the pairs of bytes that are left, in the order of the syllables, or
  * as the five-bit numbers of their sounds, like all syllables then.
-/
import ApiTypes.Charset.Korean.BasicTable
import ApiTypes.Text.Composition

namespace ApiTypes.Charset

/-! ## Letters -/

/-- The letters of the sounds that lead a syllable. -/
def leadingLetters : List Char :=
  ['ㄱ', 'ㄲ', 'ㄴ', 'ㄷ', 'ㄸ', 'ㄹ', 'ㅁ', 'ㅂ', 'ㅃ', 'ㅅ', 'ㅆ', 'ㅇ', 'ㅈ', 'ㅉ', 'ㅊ', 'ㅋ',
   'ㅌ', 'ㅍ', 'ㅎ']

/-- The letters of the sounds that trail in a syllable. -/
def trailingLetters : List Char :=
  ['ㄱ', 'ㄲ', 'ㄳ', 'ㄴ', 'ㄵ', 'ㄶ', 'ㄷ', 'ㄹ', 'ㄺ', 'ㄻ', 'ㄼ', 'ㄽ', 'ㄾ', 'ㄿ', 'ㅀ', 'ㅁ',
   'ㅂ', 'ㅄ', 'ㅅ', 'ㅆ', 'ㅇ', 'ㅈ', 'ㅊ', 'ㅋ', 'ㅌ', 'ㅍ', 'ㅎ']

/-- The letter of a vowel. -/
def vowelLetter (n : Nat) : Char := Char.ofNat (0x314f + n)

/-- The syllable of a leading sound, a vowel and a trailing sound, which is zero if there
is none. -/
def syllable (leading vowel trailing : Nat) : Char :=
  Char.ofNat (Text.syllables + (leading * 21 + vowel) * 28 + trailing)

/-! ## Syllables of four letters -/

/-- The letter of a second byte. -/
def letter? (b : Nat) : Option Char :=
  if 0xa1 ≤ b ∧ b ≤ 0xbe then some (Char.ofNat (0x3131 + (b - 0xa1))) else none

/-- The trailing sound of a second byte; the filler is none. -/
def trailing? (b : Nat) : Option Nat :=
  if b = 0xd4 then some 0
  else (letter? b).bind fun c => (trailingLetters.idxOf? c).map (· + 1)

/-- The syllable of the bytes of three letters behind a filler. -/
def spelled? (bytes : List Nat) : Option Char :=
  match bytes with
  | [0xa4, a, 0xa4, b, 0xa4, c] => do
    let leading ← (letter? a).bind leadingLetters.idxOf?
    let vowel ← if 0xbf ≤ b ∧ b ≤ 0xd3 then some (b - 0xbf) else none
    return syllable leading vowel (← trailing? c)
  | _ => none

/-- Reads a character of one byte or two, or a syllable of four letters. -/
def stepSpelled (bytes : List Nat) : Step Unit :=
  match bytes with
  | 0xa4 :: 0xd4 :: rest =>
    if rest.length < 6 then noChar bytes.length
    else
      match spelled? (rest.take 6) with
      | some c => one c 8
      | none => noChar 1
  | _ =>
    stepPair ascii? (fun a b => (rowCell? a b).bind fun code => (koreanBasic.char? code).map ([·]))
      bytes

def eucKorean : Charset where
  name := "euc_kr"
  aliases := ["euckr", "korean", "ksc5601", "ks_c_5601", "ks_c_5601_1987", "ksx1001", "ks_x_1001",
    "x_mac_korean"]
  read := readSteps stepSpelled

/-! ## Syllables in the pairs that are left -/

/-- Whether a number is that of a Hangul syllable. -/
def isSyllable (n : Nat) : Bool := Text.syllables ≤ n && n < Text.syllables + 19 * 21 * 28

/-- The numbers of the syllables in the table, in their order. -/
def basicSyllables : List Nat :=
  (koreanBasic.runs.toList.flatMap fun run => run.2.toList.map Char.toNat).filter isSyllable

/-- The numbers from one on that a list in ascending order does not have. -/
def missingFrom (n : Nat) : (count : Nat) → List Nat → List Nat
  | 0, _ => []
  | count + 1, known =>
    if known.head? = some n then missingFrom (n + 1) count (known.drop 1)
    else n :: missingFrom (n + 1) count known

/-- The syllables that are not in the table, in their order. -/
def otherSyllables : Array Char :=
  ((missingFrom Text.syllables (19 * 21 * 28) basicSyllables).map Char.ofNat).toArray

/-- The place of a second byte among those that are used: letters of both cases and, of the
bytes from 0x81 on, so many. -/
def secondPlace? (upper b : Nat) : Option Nat :=
  if 0x41 ≤ b ∧ b ≤ 0x5a then some (b - 0x41)
  else if 0x61 ≤ b ∧ b ≤ 0x7a then some (b - 0x61 + 26)
  else if 0x81 ≤ b ∧ b < 0x81 + upper then some (b - 0x81 + 52)
  else none

/-- The syllable of a pair that is left: the first bytes below 0xa1 leave more of them. -/
def otherSyllable? (a b : Nat) : Option Char := do
  let place ←
    if 0x81 ≤ a ∧ a ≤ 0xa0 then (secondPlace? 126 b).map ((a - 0x81) * 178 + ·)
    else if 0xa1 ≤ a ∧ a ≤ 0xc6 then (secondPlace? 32 b).map (32 * 178 + (a - 0xa1) * 84 + ·)
    else none
  otherSyllables[place]?

def unifiedKorean : Charset where
  name := "cp949"
  aliases := ["949", "ms949", "uhc"]
  read := readSteps <| stepPair ascii? fun a b =>
    (((rowCell? a b).bind koreanBasic.char?).or (otherSyllable? a b)).map ([·])

/-! ## Syllables by the numbers of their sounds -/

/-- A sound of a number: one that is, or the filler. -/
inductive Sound where
  | filler
  | sound (n : Nat)
  deriving DecidableEq, Repr

/-- The leading sound of five bits. -/
def leadingSound? (n : Nat) : Option Sound :=
  if n = 1 then some .filler else if 2 ≤ n ∧ n ≤ 20 then some (.sound (n - 2)) else none

/-- The vowel of five bits; in every eight numbers the first two are not used, but for the
filler. -/
def vowelSound? (n : Nat) : Option Sound :=
  if n = 2 then some .filler
  else if n % 8 < 2 ∨ n < 2 ∨ 29 < n then none
  else some (.sound (n / 8 * 6 + n % 8 - 3))

/-- The trailing sound of five bits, counted from one; one number is not used. -/
def trailingSound? (n : Nat) : Option Sound :=
  if n = 1 then some .filler
  else if 2 ≤ n ∧ n ≤ 17 then some (.sound (n - 1))
  else if 19 ≤ n ∧ n ≤ 29 then some (.sound (n - 2))
  else none

/-- The character of three sounds: a syllable, a letter, or a wide blank. -/
def Sound.char? : (leading vowel trailing : Sound) → Option Char
  | .filler, .filler, .filler => some (Char.ofNat 0x3000)
  | .filler, .filler, .sound n => trailingLetters[n - 1]?
  | .filler, .sound n, .filler => some (vowelLetter n)
  | .sound n, .filler, .filler => leadingLetters[n]?
  | .sound l, .sound v, .filler => some (syllable l v 0)
  | .sound l, .sound v, .sound t => some (syllable l v t)
  | _, _, _ => none

/-- The row and the cell of two bytes above those of the syllables; a row and the next one
share a first byte. -/
def highRowCell? (a b : Nat) : Option Nat :=
  let isUsed := 0xd9 ≤ a ∧ a ≤ 0xf9 ∧ a ≠ 0xdf ∧
    ((0x31 ≤ b ∧ b ≤ 0x7e) ∨ (0x91 ≤ b ∧ b ≤ 0xfe)) ∧ ¬(a = 0xda ∧ 0xa1 ≤ b ∧ b ≤ 0xd3)
  if isUsed then
    let place := if b < 0x91 then b - 0x31 else b - 0x43
    let row := if a < 0xe0 then 2 * (a - 0xd9) else 2 * a - 0x197
    some (pairCode (0x21 + row + place / 94) (0x21 + place % 94))
  else none

/-- The character of two bytes of which the first bit is set. -/
def combined? (a b : Nat) : Option Char :=
  if a < 0xd8 then do
    let leading ← leadingSound? (a / 4 % 32)
    let vowel ← vowelSound? (a % 4 * 8 + b / 32)
    Sound.char? leading vowel (← trailingSound? (b % 32))
  else (highRowCell? a b).bind koreanBasic.char?

def combinedKorean : Charset where
  name := "johab"
  aliases := ["cp1361", "ms1361"]
  read := readSteps <| stepPair ascii? fun a b => (combined? a b).map ([·])

/-- The Korean character sets in which every character stands for itself. -/
def korean : List Charset := [eucKorean, unifiedKorean, combinedKorean]

end ApiTypes.Charset
