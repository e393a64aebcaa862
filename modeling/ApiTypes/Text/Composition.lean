/-
  Composed texts: a letter with its marks is one character wherever there is one.

  A text is taken apart (`decompose`), its marks are brought in order (`order`) and
  its characters are put together again (`compose`). A text that all this leaves as
  it is, is composed (`isComposed`).

  A Hangul syllable is made of a leading sound, a vowel and perhaps a trailing sound,
  each in one block of characters; the block of the syllables runs through all of them.
-/
import ApiTypes.Text.CompositionTable

namespace ApiTypes.Text

/-! ## Pairs -/

/-- The first Hangul syllable, and the sounds that the syllables are made of. The
trailing sounds are counted from one; none is counted as zero. -/
def syllables : Nat := 0xac00
def leadingSounds : Nat := 0x1100
def vowels : Nat := 0x1161
def trailingSounds : Nat := 0x11a7

/-- The two characters that a Hangul syllable is made of. -/
def splitSyllable? (c : Nat) : Option (Nat × Nat) :=
  let index := c - syllables
  if c < syllables ∨ 19 * 21 * 28 ≤ index then none
  else if index % 28 = 0 then
    some (leadingSounds + index / 28 / 21, vowels + index / 28 % 21)
  else some (c - index % 28, trailingSounds + index % 28)

/-- The Hangul syllable that two characters make. -/
def joinSyllable? (a b : Nat) : Option Nat :=
  if leadingSounds ≤ a ∧ a < leadingSounds + 19 ∧ vowels ≤ b ∧ b < vowels + 21 then
    some (syllables + ((a - leadingSounds) * 21 + (b - vowels)) * 28)
  else if syllables ≤ a ∧ a < syllables + 19 * 21 * 28 ∧ (a - syllables) % 28 = 0 ∧
      trailingSounds < b ∧ b < trailingSounds + 28 then
    some (a + (b - trailingSounds))
  else none

/-- The two characters that a character is made of. -/
def splitPair? (c : Char) : Option (Char × Char) :=
  let two := match CompositionTable.pairs.lookup c.toNat with
    | some two => some two
    | none => splitSyllable? c.toNat
  two.map fun (a, b) => (Char.ofNat a, Char.ofNat b)

/-- The character that two characters make. -/
def joinPair? (a b : Char) : Option Char :=
  let one := match CompositionTable.pairs.find? (·.2 = (a.toNat, b.toNat)) with
    | some (c, _) => some c
    | none => joinSyllable? a.toNat b.toNat
  one.map Char.ofNat

/-- The class of a mark; a character that is no mark has class zero. -/
def markClass (c : Char) : Nat :=
  ((CompositionTable.classRanges.find? fun (first, last, _) =>
    first ≤ c.toNat && c.toNat ≤ last).map (·.2.2)).getD 0

/-! ## Taking apart -/

/-- The text with each character taken apart once. -/
def splitOnce (cs : List Char) : List Char :=
  cs.flatMap fun c =>
    match splitPair? c with
    | some (a, b) => [a, b]
    | none => [c]

/-- The text taken apart. No character can be taken apart more than three times. -/
def decompose (cs : List Char) : List Char := splitOnce (splitOnce (splitOnce cs))

/-- Puts a character behind a text, which is kept last first; a mark goes before the
marks of a greater class. -/
def placeMark (c : Char) : List Char → List Char
  | [] => [c]
  | d :: rest =>
    if markClass c ≠ 0 ∧ markClass c < markClass d then d :: placeMark c rest else c :: d :: rest

/-- The text with its marks in order. -/
def order (cs : List Char) : List Char := (cs.foldl (fun done c => placeMark c done) []).reverse

/-! ## Putting together -/

/-- A text that is being composed: what is done, last first, then a character that may
still take marks, and the marks behind it, last first. -/
structure Composing where
  done : List Char
  taking : Option Char
  marks : List Char

namespace Composing

/-- The characters so far, last first. -/
def all (s : Composing) : List Char := s.marks ++ s.taking.toList ++ s.done

/-- Goes on with a character that is not taken. -/
def append (s : Composing) (c : Char) : Composing :=
  if markClass c = 0 then ⟨s.all, some c, []⟩ else { s with marks := c :: s.marks }

/-- Goes on with a character. It is taken if the two make one character and no mark of
its class or a greater one stands between them. -/
def next (s : Composing) (c : Char) : Composing :=
  let isFree := match s.marks with
    | [] => true
    | m :: _ => markClass m < markClass c
  match s.taking.bind (joinPair? · c) with
  | some one => if isFree then { s with taking := some one } else s.append c
  | none => s.append c

end Composing

/-- The text with its characters put together. -/
def compose (cs : List Char) : List Char :=
  (cs.foldl Composing.next ⟨[], none, []⟩).all.reverse

/-- Whether a text is composed. -/
def isComposed (cs : List Char) : Bool :=
  !cs.any (fun c => CompositionTable.neverRanges.any fun (first, last) =>
    first ≤ c.toNat && c.toNat ≤ last) && compose (order (decompose cs)) == cs

end ApiTypes.Text
