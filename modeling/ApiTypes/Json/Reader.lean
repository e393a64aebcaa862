/-
  Reading JSON.

  * `read` gives the value of a text or the first fault in it. The three words
    `NaN`, `Infinity` and `-Infinity` are numbers, a repeated key keeps its
    first place and its last value, and an escaped half of a surrogate pair
    may stand alone;
  * every reading step takes at least one character, which `Rest` records and
    on which the recursion ends. A fault is first noted by how many characters
    were left (`Stop`), and `read` turns that into a place. Values are read however
    deep they are nested; that a stack can be too small for them is left out.
-/
import ApiTypes.Decimal.Shortest
import ApiTypes.Json.Fault
import ApiTypes.Json.Value
import ApiTypes.Text.CodePoints
import ApiTypes.Text.Hexadecimal

namespace ApiTypes.Json

/-! ## Steps -/

/-- What is left of a text after a step that took a character. -/
abbrev Rest (text : List Char) := { rest : List Char // rest.length < text.length }

/-- Where reading stopped: at a fault with a number of characters left, or at a
whole number that is too long. -/
inductive Stop where
  | fault (kind : Fault.Kind) (left : Nat)
  | oversizedNumber

/-- The characters between values that mean nothing. -/
def isSpace (c : Char) : Bool := c == ' ' || c == '\t' || c == '\n' || c == '\r'

/-- The text from the first character that is no space. -/
def skipSpace (text : List Char) : List Char := text.dropWhile isSpace

theorem length_skipSpace_le (text : List Char) : (skipSpace text).length ≤ text.length :=
  (List.dropWhile_suffix isSpace).length_le

theorem length_lt_of_skipSpace {text rest : List Char} {c : Char}
    (h : skipSpace text = c :: rest) : rest.length < text.length := by
  have := length_skipSpace_le text
  rw [h, List.length_cons] at this
  omega

/-! ## Texts -/

/-- The value of four hexadecimal digits. -/
def codeUnit? (a b c d : Char) : Option Nat := do
  let a ← Text.hexDigit? a
  let b ← Text.hexDigit? b
  let c ← Text.hexDigit? c
  let d ← Text.hexDigit? d
  return ((a * 16 + b) * 16 + c) * 16 + d

/-- The character that a letter after a backslash stands for. -/
def shortEscape? : Char → Option Char
  | '"' => some '"'
  | '\\' => some '\\'
  | '/' => some '/'
  | 'b' => some (Char.ofNat 8)
  | 'f' => some (Char.ofNat 12)
  | 'n' => some '\n'
  | 'r' => some '\r'
  | 't' => some '\t'
  | _ => none

/-- Reads what follows a backslash behind the first half of a surrogate pair: the
second half, unless something else follows. -/
def secondHalf? (text : List Char) : Option (Except Stop (Nat × Rest text)) :=
  match text with
  | 'u' :: a :: b :: c :: d :: e :: rest =>
    match codeUnit? a b c d with
    | none => some (.error (.fault .codePoint (rest.length + 6)))
    | some unit =>
      if Text.isLowHalf unit then
        some (.ok (unit, ⟨e :: rest, by simp only [List.length_cons]; omega⟩))
      else none
  | _ => none

/-- Reads what follows a backslash and `u`: four hexadecimal digits that do not
end the text and, after the first half of a surrogate pair, the escape of the
second half. It gives the characters that stand for the code point. -/
def readCodePoint (text : List Char) : Except Stop (List Char × Rest text) :=
  match text with
  | a :: b :: c :: d :: e :: rest =>
    match codeUnit? a b c d with
    | none => .error (.fault .codePoint (rest.length + 6))
    | some unit =>
      if Text.isHighHalf unit && e == '\\' then
        match secondHalf? rest with
        | none => .ok (Text.ofPoint unit, ⟨e :: rest, by simp only [List.length_cons]; omega⟩)
        | some (.error stop) => .error stop
        | some (.ok (second, ⟨rest', h⟩)) =>
          .ok (Text.ofPoint (Text.ofPair unit second),
            ⟨rest', by simp only [List.length_cons]; omega⟩)
      else .ok (Text.ofPoint unit, ⟨e :: rest, by simp only [List.length_cons]; omega⟩)
  | _ => .error (.fault .codePoint (text.length + 1))

/-- Reads a text from behind its opening quote to behind its closing one. `quoted` is what
is left at the opening quote. -/
def readText (quoted : List Char) (text : List Char) : Except Stop (List Char × Rest text) :=
  match text with
  | [] => .error (.fault .openText quoted.length)
  | '"' :: rest => .ok ([], ⟨rest, by simp⟩)
  | '\\' :: 'u' :: rest => do
    let (first, ⟨rest', h⟩) ← readCodePoint rest
    let (cs, ⟨left, h'⟩) ← readText quoted rest'
    return (first ++ cs, ⟨left, by simp only [List.length_cons]; omega⟩)
  | '\\' :: e :: rest =>
    match shortEscape? e with
    | none => .error (.fault .escape (rest.length + 2))
    | some c => do
      let (cs, ⟨rest', h⟩) ← readText quoted rest
      return (c :: cs, ⟨rest', by simp only [List.length_cons]; omega⟩)
  | ['\\'] => .error (.fault .openText quoted.length)
  | c :: rest =>
    if c.toNat < 32 then .error (.fault .control (rest.length + 1))
    else do
      let (cs, ⟨rest', h⟩) ← readText quoted rest
      return (c :: cs, ⟨rest', by simp only [List.length_cons]; omega⟩)
termination_by text.length

/-! ## Numbers -/

/-- The number that decimal digits write. -/
def ofDigits (digits : List Char) : Nat :=
  digits.foldl (fun n c => n * 10 + (c.toNat - '0'.toNat)) 0

/-- The parts of a number: the digits before the point, those behind it, and the
exponent. -/
structure Numeral where
  negative : Bool
  whole : List Char
  fraction : Option (List Char)
  exponent : Option Int

/-- The value of a numeral: whole without point and exponent, and then of at most
4300 digits; otherwise the nearest float. -/
def Numeral.value (n : Numeral) : Except Stop Value :=
  if n.fraction.isNone && n.exponent.isNone then
    if 4300 < n.whole.length then .error .oversizedNumber
    else
      let m : Int := ofDigits n.whole
      .ok (.int (if n.negative then -m else m))
  else
    let fraction := n.fraction.getD []
    let digits := ofDigits (n.whole ++ fraction)
    let x := Decimal.Scientific.toFloat ⟨digits, n.exponent.getD 0 - fraction.length⟩
    .ok (.float (if n.negative then -x else x))

/-- The digits that a text starts with, and what follows them. -/
def readDigits (text : List Char) : List Char × { rest : List Char // rest.length ≤ text.length } :=
  (text.takeWhile Char.isDigit,
    ⟨text.dropWhile Char.isDigit, (List.dropWhile_suffix Char.isDigit).length_le⟩)

/-- The digits before a point or an exponent: a zero, or digits that do not start
with one. -/
def readWhole? (text : List Char) : Option (List Char × Rest text) :=
  match text with
  | '0' :: rest => some (['0'], ⟨rest, by simp⟩)
  | c :: rest =>
    if c.isDigit then
      let (digits, ⟨rest', h⟩) := readDigits rest
      some (c :: digits, ⟨rest', by simp only [List.length_cons]; omega⟩)
    else none
  | [] => none

/-- The digits behind a point, if a point and a digit follow. -/
def readFraction (text : List Char) :
    Option (List Char) × { rest : List Char // rest.length ≤ text.length } :=
  match text with
  | '.' :: rest =>
    match readDigits rest with
    | ([], _) => (none, ⟨'.' :: rest, by simp⟩)
    | (digits, ⟨rest', h⟩) => (some digits, ⟨rest', by simp only [List.length_cons]; omega⟩)
  | text => (none, ⟨text, Nat.le_refl _⟩)

/-- The digits of an exponent with its sign, when there are any. -/
def readExponentDigits? (negative : Bool) (text : List Char) :
    Option (Int × { rest : List Char // rest.length ≤ text.length }) :=
  match readDigits text with
  | ([], _) => none
  | (digits, rest) =>
    let n : Int := ofDigits digits
    some (if negative then -n else n, rest)

/-- The exponent, if a letter `e` and a whole number follow. -/
def readExponent (text : List Char) :
    Option Int × { rest : List Char // rest.length ≤ text.length } :=
  let signed (negative : Bool) (rest : List Char) (h : rest.length ≤ text.length) :
      Option Int × { rest : List Char // rest.length ≤ text.length } :=
    match readExponentDigits? negative rest with
    | some (n, ⟨rest', h'⟩) => (some n, ⟨rest', Nat.le_trans h' h⟩)
    | none => (none, ⟨text, Nat.le_refl _⟩)
  match text, signed with
  | c :: '-' :: rest, signed =>
    if c == 'e' || c == 'E' then signed true rest (by simp only [List.length_cons]; omega)
    else (none, ⟨_, Nat.le_refl _⟩)
  | c :: '+' :: rest, signed =>
    if c == 'e' || c == 'E' then signed false rest (by simp only [List.length_cons]; omega)
    else (none, ⟨_, Nat.le_refl _⟩)
  | c :: rest, signed =>
    if c == 'e' || c == 'E' then signed false rest (by simp only [List.length_cons]; omega)
    else (none, ⟨_, Nat.le_refl _⟩)
  | [], _ => (none, ⟨_, Nat.le_refl _⟩)

/-- Reads a number without its sign. -/
def readMagnitude? (negative : Bool) (text : List Char) : Option (Except Stop Value × Rest text) :=
  match readWhole? text with
  | none => none
  | some (whole, ⟨afterWhole, h⟩) =>
    let (fraction, ⟨afterFraction, h'⟩) := readFraction afterWhole
    let (exponent, ⟨rest, h''⟩) := readExponent afterFraction
    some (Numeral.value ⟨negative, whole, fraction, exponent⟩,
      ⟨rest, Nat.lt_of_le_of_lt (Nat.le_trans h'' h') h⟩)

/-- Reads a number: the longest text of the form sign, digits, point and digits,
exponent. -/
def readNumber (text : List Char) : Except Stop (Value × Rest text) :=
  let found : Option (Except Stop Value × Rest text) :=
    match text with
    | '-' :: rest =>
      (readMagnitude? true rest).map fun (v, ⟨rest', h⟩) =>
        (v, ⟨rest', by simp only [List.length_cons]; omega⟩)
    | text => readMagnitude? false text
  match found with
  | none => .error (.fault .value text.length)
  | some (v, rest) => v.map (·, rest)

/-! ## Values -/

/-- Reads a word that is a value. -/
def readWord? (text : List Char) : Option (Value × Rest text) :=
  match text with
  | 'n' :: 'u' :: 'l' :: 'l' :: rest => some (.null, ⟨rest, by simp only [List.length_cons]; omega⟩)
  | 't' :: 'r' :: 'u' :: 'e' :: rest =>
    some (.bool true, ⟨rest, by simp only [List.length_cons]; omega⟩)
  | 'f' :: 'a' :: 'l' :: 's' :: 'e' :: rest =>
    some (.bool false, ⟨rest, by simp only [List.length_cons]; omega⟩)
  | 'N' :: 'a' :: 'N' :: rest =>
    some (.float (0.0 / 0.0), ⟨rest, by simp only [List.length_cons]; omega⟩)
  | 'I' :: 'n' :: 'f' :: 'i' :: 'n' :: 'i' :: 't' :: 'y' :: rest =>
    some (.float (1.0 / 0.0), ⟨rest, by simp only [List.length_cons]; omega⟩)
  | '-' :: 'I' :: 'n' :: 'f' :: 'i' :: 'n' :: 'i' :: 't' :: 'y' :: rest =>
    some (.float (-1.0 / 0.0), ⟨rest, by simp only [List.length_cons]; omega⟩)
  | _ => none

mutual

/-- Reads a value that starts at the first character. -/
def readValue (text : List Char) : Except Stop (Value × Rest text) :=
  match text with
  | '"' :: rest =>
    match readText ('"' :: rest) rest with
    | .error stop => .error stop
    | .ok (cs, ⟨rest', h⟩) => .ok (.str (String.ofList cs), ⟨rest', Nat.lt_succ_of_lt h⟩)
  | '[' :: rest =>
    match hs : skipSpace rest with
    | ']' :: rest' => .ok (.arr [], ⟨rest', Nat.lt_succ_of_lt (length_lt_of_skipSpace hs)⟩)
    | start =>
      match readItems start with
      | .error stop => .error stop
      | .ok (items, ⟨rest', h⟩) =>
        .ok (.arr items, ⟨rest', Nat.lt_succ_of_lt
          (Nat.lt_of_lt_of_le h (hs ▸ length_skipSpace_le rest))⟩)
  | '\x7b' :: rest =>
    match hs : skipSpace rest with
    | '\x7d' :: rest' => .ok (.obj [], ⟨rest', Nat.lt_succ_of_lt (length_lt_of_skipSpace hs)⟩)
    | start =>
      match readEntries start with
      | .error stop => .error stop
      | .ok (entries, ⟨rest', h⟩) =>
        .ok (.obj (Entries.ofList entries), ⟨rest', Nat.lt_succ_of_lt
          (Nat.lt_of_lt_of_le h (hs ▸ length_skipSpace_le rest))⟩)
  | text =>
    match readWord? text with
    | some found => .ok found
    | none => readNumber text
termination_by (text.length, 0)
decreasing_by
  all_goals
    have := length_skipSpace_le rest
    rw [hs] at this
    simp only [Prod.lex_def, List.length_cons]
    omega

/-- Reads the items of a list to behind its closing bracket. -/
def readItems (text : List Char) : Except Stop (List Value × Rest text) :=
  match readValue text with
  | .error stop => .error stop
  | .ok (item, ⟨rest, h⟩) =>
    match hs : skipSpace rest with
    | ']' :: rest' => .ok ([item], ⟨rest', Nat.lt_trans (length_lt_of_skipSpace hs) h⟩)
    | ',' :: rest' =>
      match readItems (skipSpace rest') with
      | .error stop => .error stop
      | .ok (items, ⟨left, h'⟩) =>
        .ok (item :: items, ⟨left, Nat.lt_trans (Nat.lt_of_lt_of_le h' (length_skipSpace_le rest'))
          (Nat.lt_trans (length_lt_of_skipSpace hs) h)⟩)
    | rest' => .error (.fault .comma rest'.length)
termination_by (text.length, 1)
decreasing_by
  · simp [Prod.lex_def]
  · have := length_skipSpace_le rest'
    have := length_lt_of_skipSpace hs
    simp only [Prod.lex_def]
    omega

/-- Reads the members of an object to behind its closing brace. -/
def readEntries (text : List Char) : Except Stop (List (String × Value) × Rest text) :=
  match text with
  | '"' :: rest =>
    match readText ('"' :: rest) rest with
    | .error stop => .error stop
    | .ok (key, ⟨afterKey, h⟩) =>
      match hs : skipSpace afterKey with
      | ':' :: afterColon =>
        match readValue (skipSpace afterColon) with
        | .error stop => .error stop
        | .ok (value, ⟨afterValue, hv⟩) =>
          have hlt : afterValue.length < rest.length :=
            Nat.lt_trans (Nat.lt_of_lt_of_le hv (length_skipSpace_le afterColon))
              (Nat.lt_trans (length_lt_of_skipSpace hs) h)
          match hs' : skipSpace afterValue with
          | '\x7d' :: rest' =>
            .ok ([(String.ofList key, value)],
              ⟨rest', Nat.lt_succ_of_lt (Nat.lt_trans (length_lt_of_skipSpace hs') hlt)⟩)
          | ',' :: rest' =>
            match readEntries (skipSpace rest') with
            | .error stop => .error stop
            | .ok (entries, ⟨left, h'⟩) =>
              .ok ((String.ofList key, value) :: entries,
                ⟨left, Nat.lt_succ_of_lt (Nat.lt_trans
                  (Nat.lt_of_lt_of_le h' (length_skipSpace_le rest'))
                  (Nat.lt_trans (length_lt_of_skipSpace hs') hlt))⟩)
          | rest' => .error (.fault .comma rest'.length)
      | rest' => .error (.fault .colon rest'.length)
  | text => .error (.fault .memberName text.length)
termination_by (text.length, 1)
decreasing_by
  · have := length_skipSpace_le afterColon
    have := length_lt_of_skipSpace hs
    simp only [Prod.lex_def, List.length_cons]
    omega
  · have := length_skipSpace_le rest'
    have := length_lt_of_skipSpace hs'
    simp only [Prod.lex_def, List.length_cons]
    omega

end

/-! ## Whole texts -/

/-- Reads a value with space around it and nothing else. -/
def readWhole (text : List Char) : Except Stop Value := do
  let (v, ⟨rest, _⟩) ← readValue (skipSpace text)
  match skipSpace rest with
  | [] => .ok v
  | rest' => .error (.fault .afterEnd rest'.length)

/-- The value that a text writes, or why it writes none. -/
def read (s : String) : Except Refusal Value :=
  let text := s.toList
  match text with
  | '\ufeff' :: _ => .error (.fault (.at .byteOrderMark text 0))
  | _ =>
    match readWhole text with
    | .ok v => .ok v
    | .error (.fault kind left) => .error (.fault (.at kind text (text.length - left)))
    | .error .oversizedNumber => .error .oversizedNumber

end ApiTypes.Json
