/-
  The forms in which Unicode text is written as bytes.

  * One byte at a time: UTF-8, with or without a byte order mark;
  * two or four bytes at a time, the first or the last of them leading: with an order
    that the name says, or with a byte order mark, without which nothing is read;
  * seven bits at a time: what is no plain ASCII stands as the digits of base 64 between
    a plus sign and a hyphen.
-/
import ApiTypes.Charset.Basic

namespace ApiTypes.Charset

/-! ## UTF-8 -/

/-- Reads UTF-8. -/
def readUtf8 (bytes : List UInt8) : List Char :=
  (Text.decodeFrom none bytes).flatMap fun c => Text.ofPoint c.toNat

def utf8 : Charset where
  name := "utf_8"
  aliases := ["u8", "utf", "utf8", "utf8_ucs2", "utf8_ucs4", "cp65001"]
  read bytes := some (readUtf8 bytes)

/-- The byte order mark in UTF-8. -/
def utf8Mark : List UInt8 := [0xef, 0xbb, 0xbf]

/-- A mark in front is dropped, a part of one as well if nothing follows it. -/
def utf8Marked : Charset where
  name := "utf_8_sig"
  aliases := []
  read bytes :=
    if bytes.isPrefixOf utf8Mark then some []
    else if utf8Mark.isPrefixOf bytes then some (readUtf8 (bytes.drop 3))
    else some (readUtf8 bytes)

/-! ## UTF-16 and UTF-32 -/

/-- Which byte of a number leads. -/
inductive Order where
  | greatFirst
  | smallFirst
  deriving DecidableEq, Repr

/-- The number of bytes in an order. -/
def Order.number (order : Order) (bytes : List Nat) : Nat :=
  let inOrder := match order with
    | greatFirst => bytes
    | smallFirst => bytes.reverse
  inOrder.foldl (fun n b => n * 256 + b) 0

/-- Reads a character of one or two units of two bytes. -/
def stepUtf16 (order : Order) (bytes : List Nat) : Step Unit :=
  match bytes with
  | a :: b :: rest =>
    let unit := order.number [a, b]
    if Text.isHighHalf unit then
      match rest with
      | c :: d :: _ =>
        let second := order.number [c, d]
        if Text.isLowHalf second then onePoint (Text.ofPair unit second) 4 else noChar 2
      | _ => noChar bytes.length
    else if Text.isLowHalf unit then noChar 2
    else onePoint unit 2
  | _ => noChar 1

/-- Reads a character of four bytes. -/
def stepUtf32 (order : Order) (bytes : List Nat) : Step Unit :=
  match bytes with
  | a :: b :: c :: d :: _ =>
    let n := order.number [a, b, c, d]
    if n.isValidChar then onePoint n 4 else noChar 4
  | _ => noChar bytes.length

/-- Reads bytes that a byte order mark starts; `mark` writes the mark in an order. Fewer
bytes than a mark has are no character. -/
def readMarked (mark : Order → List UInt8) (step : Order → List Nat → Step Unit)
    (bytes : List UInt8) : Option (List Char) :=
  let size := (mark .greatFirst).length
  if bytes = [] then some []
  else if bytes.length < size then some [Text.replacement]
  else
    ([Order.greatFirst, .smallFirst].find? fun order => (mark order).isPrefixOf bytes).map
      fun order => readBy () (fun _ => step order) (bytes.drop size)

/-- The byte order mark in two bytes. -/
def mark16 : Order → List UInt8
  | .greatFirst => [0xfe, 0xff]
  | .smallFirst => [0xff, 0xfe]

/-- The byte order mark in four bytes. -/
def mark32 : Order → List UInt8
  | .greatFirst => [0, 0, 0xfe, 0xff]
  | .smallFirst => [0xff, 0xfe, 0, 0]

def utf16 : Charset where
  name := "utf_16"
  aliases := ["u16", "utf16"]
  read := readMarked mark16 stepUtf16

def utf16Great : Charset where
  name := "utf_16_be"
  aliases := ["unicodebigunmarked", "utf_16be"]
  read bytes := some (readBy () (fun _ => stepUtf16 .greatFirst) bytes)

def utf16Small : Charset where
  name := "utf_16_le"
  aliases := ["unicodelittleunmarked", "utf_16le"]
  read bytes := some (readBy () (fun _ => stepUtf16 .smallFirst) bytes)

def utf32 : Charset where
  name := "utf_32"
  aliases := ["u32", "utf32"]
  read := readMarked mark32 stepUtf32

def utf32Great : Charset where
  name := "utf_32_be"
  aliases := ["utf_32be"]
  read bytes := some (readBy () (fun _ => stepUtf32 .greatFirst) bytes)

def utf32Small : Charset where
  name := "utf_32_le"
  aliases := ["utf_32le"]
  read bytes := some (readBy () (fun _ => stepUtf32 .smallFirst) bytes)

/-! ## UTF-7 -/

/-- The value of a digit of base 64. -/
def digit64? (b : Nat) : Option Nat :=
  if 65 ≤ b ∧ b ≤ 90 then some (b - 65)
  else if 97 ≤ b ∧ b ≤ 122 then some (b - 71)
  else if 48 ≤ b ∧ b ≤ 57 then some (b + 4)
  else if b = 43 then some 62
  else if b = 47 then some 63
  else none

/-- A section of digits: the bits read so far that are no character yet, their number,
and the first half of a pair if the second one is awaited. -/
structure Section where
  bits : Nat
  count : Nat
  half : Option Nat

namespace Section

/-- Takes a digit: six more bits, and a character if there are sixteen. -/
def digit (s : Section) (d : Nat) : List Char × Section :=
  let bits := s.bits * 64 + d
  let count := s.count + 6
  if count < 16 then ([], { s with bits, count })
  else
    let spare := count - 16
    let unit := bits >>> spare
    let left : Section := ⟨bits - (unit <<< spare), spare, none⟩
    let awaiting : Section := { left with half := some unit }
    match s.half with
    | some high =>
      if Text.isLowHalf unit then (Text.ofPoint (Text.ofPair high unit), left)
      else if Text.isHighHalf unit then (Text.ofPoint high, awaiting)
      else (Text.ofPoint high ++ Text.ofPoint unit, left)
    | none => if Text.isHighHalf unit then ([], awaiting) else (Text.ofPoint unit, left)

/-- Whether the bits left are more than the padding of the last character. -/
def isBroken (s : Section) : Bool := 6 ≤ s.count || s.bits != 0

end Section

/-- Reads a byte of UTF-7, outside and inside a section. The last byte also ends a section,
which must not be broken and not await a half. -/
def stepUtf7 (state : Option Section) (bytes : List Nat) : Step (Option Section) :=
  let isLast := bytes.length ≤ 1
  let b := bytes.headD 0
  match state with
  | none =>
    if b = 43 then
      match bytes.drop 1 with
      | [] => ⟨[], 1, none⟩
      | c :: _ =>
        if c = 45 then ⟨['+'], 2, none⟩
        else if (digit64? c).isSome then ⟨[], 1, some ⟨0, 0, none⟩⟩
        else ⟨[Text.replacement], 2, none⟩
    else if b < 128 then ⟨[Char.ofNat b], 1, none⟩
    else ⟨[Text.replacement], 1, none⟩
  | some s =>
    match digit64? b with
    | some d =>
      let (chars, s) := s.digit d
      let isUnfinished := isLast && (s.isBroken || s.half.isSome)
      ⟨chars ++ if isUnfinished then [Text.replacement] else [], 1, some s⟩
    | none =>
      if s.isBroken then ⟨[Text.replacement], 1, none⟩
      else
        let half := (s.half.map Text.ofPoint).getD []
        if b = 45 then ⟨half, 1, none⟩
        else if b < 128 then ⟨half ++ [Char.ofNat b], 1, none⟩
        else ⟨[Text.replacement], 1, none⟩

def utf7 : Charset where
  name := "utf_7"
  aliases := ["u7", "utf7", "unicode_1_1_utf_7"]
  read bytes := some (readBy none stepUtf7 bytes)

/-- The forms of Unicode text. -/
def unicode : List Charset :=
  [utf8, utf8Marked, utf16, utf16Great, utf16Small, utf32, utf32Great, utf32Small, utf7]

end ApiTypes.Charset
