/-
  Tables of characters that are written in several bytes.

  A code is a number made of bytes, of which the first leads. `CodeTable` gives
  characters run by run, `Span` those whose numbers follow one another as their codes do.
  `stepPair` reads a character of one byte or of two.
-/
import ApiTypes.Charset.Basic

namespace ApiTypes.Charset

/-- Characters by code. Each run starts at a code and goes on code by code; the replacement
character fills the place of a code that stands for none. -/
structure CodeTable where
  /-- The runs in the order of their codes. -/
  runs : Array (Nat × String)

/-- The character of a code. -/
def CodeTable.char? (t : CodeTable) (code : Nat) : Option Char := do
  let (first, chars) ← t.runs.findRev? (·.1 ≤ code)
  let c ← chars.toList[code - first]?
  if c = Text.replacement then none else some c

/-- So many characters with numbers one after another, from a code and a number on. -/
structure Span where
  code : Nat
  number : Nat
  count : Nat

/-- The character of a code in one of the spans, which are in the order of their codes. -/
def Span.char? (spans : Array Span) (code : Nat) : Option Char := do
  let s ← spans.findRev? (·.code ≤ code)
  if code < s.code + s.count then some (Char.ofNat (s.number + (code - s.code))) else none

/-- The character of a byte of ASCII. -/
def ascii? (b : Nat) : Option Char := if b < 128 then some (Char.ofNat b) else none

/-- The code of two bytes. -/
def pairCode (a b : Nat) : Nat := a * 256 + b

/-- The code of two bytes that both lie 128 above a row and a cell. -/
def rowCell? (a b : Nat) : Option Nat :=
  if 128 ≤ a ∧ 128 ≤ b then some (pairCode (a - 128) (b - 128)) else none

/-- Reads a character of one byte or, where there is none, what two bytes stand for. -/
def stepPair (single? : Nat → Option Char) (pair? : Nat → Nat → Option (List Char))
    (bytes : List Nat) : Step Unit :=
  match bytes with
  | [] => noChar 1
  | a :: rest =>
    match single? a, rest with
    | some c, _ => one c 1
    | none, [] => noChar 1
    | none, b :: _ =>
      match pair? a b with
      | some cs => ⟨cs, 2, ()⟩
      | none => noChar 1

/-- Reads characters by steps that do not depend on one another. -/
def readSteps (step : List Nat → Step Unit) (bytes : List UInt8) : Option (List Char) :=
  some (readBy () (fun _ => step) bytes)

end ApiTypes.Charset
