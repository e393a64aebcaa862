/-
  Percent escapes: a percent sign and two hexadecimal digits stand for a byte.

  * `percentEscape` writes the characters that are not safe by the escapes of their
    UTF-8 bytes;
  * `percentBytes` gives the bytes that a text with escapes stands for.
-/
import ApiTypes.Text.Hexadecimal

namespace ApiTypes.Text

/-- The upper-case digit of a number below sixteen. -/
def upperHexDigit (n : Nat) : Char :=
  if n < 10 then Char.ofNat (48 + n) else Char.ofNat (55 + n)

/-- The escape of a byte. -/
def percentByte (b : UInt8) : List Char :=
  ['%', upperHexDigit (b.toNat / 16), upperHexDigit (b.toNat % 16)]

/-- The text with every character that is not safe as the escapes of its bytes. -/
def percentEscape (safe : Char → Bool) (cs : List Char) : List Char :=
  cs.flatMap fun c => if safe c then [c] else (String.utf8EncodeChar c).flatMap percentByte

/-- The byte that two hexadecimal digits stand for. -/
def byteOf? (a b : Char) : Option UInt8 := do
  let high ← hexDigit? a
  let low ← hexDigit? b
  return UInt8.ofNat (high * 16 + low)

/-- The bytes of a text, each escape being one byte. -/
def percentBytes : List Char → List UInt8
  | [] => []
  | '%' :: a :: b :: rest =>
    match byteOf? a b with
    | some byte => byte :: percentBytes rest
    | none => String.utf8EncodeChar '%' ++ percentBytes (a :: b :: rest)
  | c :: rest => String.utf8EncodeChar c ++ percentBytes rest

end ApiTypes.Text
