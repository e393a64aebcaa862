/-
  Character sets that write characters by escapes in plain ASCII.

  * `unicode_escape`: escapes behind a backslash, as in a quoted text: of one letter, of
    up to three octal digits, of two, four or eight hexadecimal digits. Names of
    characters are not known here;
  * `raw_unicode_escape`: those of four and eight hexadecimal digits alone;
  * `punycode`: distances behind the last hyphen.

  A byte without an escape stands for the character with its number.
-/
import ApiTypes.Charset.Basic
import ApiTypes.Text.Hexadecimal
import ApiTypes.Text.Punycode

namespace ApiTypes.Charset

/-- Reads an escape of so many hexadecimal digits behind a backslash and a letter. One that
lacks digits, or has no character, is taken up to where it fails. -/
def hexEscape (count : Nat) (digits : List Nat) : Step Unit :=
  let values := (digits.take count).map fun b => Text.hexDigit? (Char.ofNat b)
  let read := (values.takeWhile Option.isSome).filterMap id
  let n := read.foldl (fun n d => n * 16 + d) 0
  if read.length = count ∧ n < 0x110000 then onePoint n (count + 2)
  else noChar (read.length + 2)

/-- The characters of the escapes of one letter. -/
def letterEscapes : List (Char × Char) :=
  [('\\', '\\'), ('\'', '\''), ('"', '"'), ('b', Char.ofNat 8), ('f', Char.ofNat 12), ('t', '\t'),
   ('n', '\n'), ('r', '\r'), ('v', Char.ofNat 11), ('a', Char.ofNat 7)]

/-- The length of a name in braces, with its braces, if there is one. -/
def nameLength? (bytes : List Nat) : Option Nat :=
  match bytes with
  | 0x7b :: rest =>
    let name := rest.takeWhile (· != 0x7d)
    if name.length = 0 ∨ name.length = rest.length then none else some (name.length + 2)
  | _ => none

/-- How many bytes are taken of a name that is none. -/
def badNameLength (bytes : List Nat) : Nat :=
  match bytes with
  | 0x7b :: rest => (rest.takeWhile (· != 0x7d)).length + 1
  | _ => 0

/-- Reads a character or an escape. -/
def stepEscaped (bytes : List Nat) : Step Unit :=
  match bytes with
  | 0x5c :: letter :: rest =>
    let c := Char.ofNat letter
    let octal := ((letter :: rest).take 3).takeWhile fun b => 48 ≤ b && b < 56
    if c = '\n' then ⟨[], 2, ()⟩
    else if octal != [] then
      onePoint (octal.foldl (fun n b => n * 8 + (b - 48)) 0) (octal.length + 1)
    else if c = 'x' then hexEscape 2 rest
    else if c = 'u' then hexEscape 4 rest
    else if c = 'U' then hexEscape 8 rest
    else if c = 'N' then noChar ((nameLength? rest).getD (badNameLength rest) + 2)
    else
      match letterEscapes.lookup c with
      | some e => one e 2
      | none => ⟨['\\', c], 2, ()⟩
  | 0x5c :: _ => noChar 1
  | b :: _ => one (Char.ofNat b) 1
  | [] => noChar 1

/-- Reads a character or an escape of hexadecimal digits. -/
def stepRawEscaped (bytes : List Nat) : Step Unit :=
  match bytes with
  | 0x5c :: letter :: rest =>
    let c := Char.ofNat letter
    if c = 'u' then hexEscape 4 rest
    else if c = 'U' then hexEscape 8 rest
    else ⟨['\\', c], 2, ()⟩
  | b :: _ => one (Char.ofNat b) 1
  | [] => noChar 1

/-- Reads distances behind the last hyphen; where they are none, nothing more is read. -/
def readPunycode (bytes : List UInt8) : Option (List Char) :=
  let digits := (bytes.reverse.takeWhile (· != 45)).reverse
  let basic := bytes.take (bytes.length - digits.length - 1)
  let char (b : UInt8) := if b.toNat < 128 then Char.ofNat b.toNat else Text.replacement
  if digits.all (·.toNat < 128) then
    let before := basic.map fun b => (char b).toNat
    match Text.Punycode.insertFrom true 72 128 0 before (digits.map char) with
    | .ok points | .error points => some (points.flatMap Text.ofPoint)
  else none

/-- The character sets with escapes. -/
def escaped : List Charset :=
  [⟨"unicode_escape", [], fun bytes => some (readBy () (fun _ => stepEscaped) bytes)⟩,
   ⟨"raw_unicode_escape", [], fun bytes => some (readBy () (fun _ => stepRawEscaped) bytes)⟩,
   ⟨"punycode", [], readPunycode⟩]

end ApiTypes.Charset
