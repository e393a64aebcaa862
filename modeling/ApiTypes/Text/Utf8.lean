/-
  Bytes as text.

  * `decodeLossy` reads bytes as UTF-8 and puts one replacement character for
    each longest run of bytes that starts a character but does not finish it,
    and for each byte that starts none;
  * `unifyLineEnds` ends every line with a line feed.
-/

namespace ApiTypes.Text

/-! ## Lossy decoding -/

/-- What a character that has been started still needs: the bits read so far and
the range of each byte to come. -/
structure Started where
  bits : Nat
  ranges : List (Nat × Nat)

/-- The range of a byte that goes on with a character. -/
def following : Nat × Nat := (0x80, 0xbf)

/-- What a first byte of two to four starts; the second byte has a narrower range
where a shorter form or no character would follow. -/
def start? (b : Nat) : Option Started :=
  if 0xc2 ≤ b ∧ b ≤ 0xdf then some ⟨b - 0xc0, [following]⟩
  else if b = 0xe0 then some ⟨0, [(0xa0, 0xbf), following]⟩
  else if b = 0xed then some ⟨b - 0xe0, [(0x80, 0x9f), following]⟩
  else if 0xe1 ≤ b ∧ b ≤ 0xef then some ⟨b - 0xe0, [following, following]⟩
  else if b = 0xf0 then some ⟨0, [(0x90, 0xbf), following, following]⟩
  else if 0xf1 ≤ b ∧ b ≤ 0xf3 then some ⟨b - 0xf0, [following, following, following]⟩
  else if b = 0xf4 then some ⟨4, [(0x80, 0x8f), following, following]⟩
  else none

/-- The replacement character. -/
def replacement : Char := Char.ofNat 0xfffd

/-- What a byte gives where a character may start. -/
def firstByte (b : Nat) : List Char × Option Started :=
  if b < 0x80 then ([Char.ofNat b], none)
  else match start? b with
    | some started => ([], some started)
    | none => ([replacement], none)

/-- What a byte gives after what was started before it. -/
def nextByte (started : Option Started) (b : Nat) : List Char × Option Started :=
  match started with
  | none => firstByte b
  | some ⟨bits, (least, greatest) :: ranges⟩ =>
    if least ≤ b ∧ b ≤ greatest then
      let bits := bits * 64 + (b - 0x80)
      if ranges.isEmpty then ([Char.ofNat bits], none) else ([], some ⟨bits, ranges⟩)
    else
      let (cs, started) := firstByte b
      (replacement :: cs, started)
  | some ⟨_, []⟩ => firstByte b

/-- The characters of bytes that follow what was started before them. -/
def decodeFrom (started : Option Started) : List UInt8 → List Char
  | [] => if started.isSome then [replacement] else []
  | b :: rest =>
    let (cs, started) := nextByte started b.toNat
    cs ++ decodeFrom started rest

/-- The text of bytes, with replacement characters for what is no UTF-8. -/
def decodeLossy (bytes : ByteArray) : String :=
  match String.fromUTF8? bytes with
  | some s => s
  | none => String.ofList (decodeFrom none bytes.toList)

/-! ## Line ends -/

/-- The characters with a line feed for each carriage return, alone or together
with a line feed behind it. -/
def unifyChars : List Char → List Char
  | [] => []
  | '\r' :: '\n' :: rest => '\n' :: unifyChars rest
  | '\r' :: rest => '\n' :: unifyChars rest
  | c :: rest => c :: unifyChars rest

/-- The text with a line feed at every line end. -/
def unifyLineEnds (s : String) : String := String.ofList (unifyChars s.toList)

end ApiTypes.Text
