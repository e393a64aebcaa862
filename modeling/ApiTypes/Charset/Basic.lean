/-
  Character sets.

  A character set reads bytes as characters. Where bytes stand for no character, the
  replacement character is read; some character sets refuse such bytes altogether.

  Most sets are read step by step: a step takes some bytes and gives characters
  (`readBy`).
-/
import ApiTypes.Text.CodePoints
import ApiTypes.Text.Utf8

namespace ApiTypes

/-- A character set: its name, the other names that it has, and how bytes are read, as they
stand in a text. -/
structure Charset where
  name : String
  aliases : List String
  read : List UInt8 → Option (List Char)

namespace Charset

/-- What a step gives: characters, how many bytes they are read from, and the state for
the next step. -/
structure Step (State : Type) where
  chars : List Char
  taken : Nat
  state : State

/-- Reads bytes step by step; the first `skip` bytes have been read. A step sees all bytes
that are left, and takes one at least. -/
def readFrom {State : Type} (step : State → List Nat → Step State) :
    (state : State) → (skip : Nat) → List Nat → List Char
  | _, _, [] => []
  | state, skip + 1, _ :: rest => readFrom step state skip rest
  | state, 0, b :: rest =>
    let s := step state (b :: rest)
    s.chars ++ readFrom step s.state (s.taken - 1) rest

/-- Reads bytes by steps from a state. -/
def readBy {State : Type} (start : State) (step : State → List Nat → Step State)
    (bytes : List UInt8) : List Char :=
  readFrom step start 0 (bytes.map UInt8.toNat)

/-- A step that reads one character from some bytes. -/
def one (c : Char) (taken : Nat) : Step Unit := ⟨[c], taken, ()⟩

/-- A step that reads one code point from some bytes. -/
def onePoint (point taken : Nat) : Step Unit := ⟨Text.ofPoint point, taken, ()⟩

/-- A step over bytes that stand for no character. -/
def noChar (taken : Nat) : Step Unit := one Text.replacement taken

end Charset

end ApiTypes
