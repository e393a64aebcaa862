/-
  Characters of any script written with letters, digits and hyphens.

  A text is written as its ASCII characters, a hyphen, and then, for each other
  character in ascending order, how far it is from the one before: in numbers and in
  places. Such a distance is a number of digits of base 36 whose last digit is known
  by a threshold, and the thresholds follow the distances seen before (`adapt`).

  `encode` writes a text, `decode` reads the code points of one.
-/

namespace ApiTypes.Text.Punycode

/-! ## Digits -/

/-- The digit of a value below 36: the letters, then the ten digits. -/
def digit (n : Nat) : Char := if n < 26 then Char.ofNat (97 + n) else Char.ofNat (48 + (n - 26))

/-- The value of a digit, in lower or upper case. -/
def digitValue? (c : Char) : Option Nat :=
  if 'a' ≤ c ∧ c ≤ 'z' then some (c.toNat - 97)
  else if 'A' ≤ c ∧ c ≤ 'Z' then some (c.toNat - 65)
  else if '0' ≤ c ∧ c ≤ '9' then some (c.toNat - 48 + 26)
  else none

/-- The threshold of the digit at a place: a digit below it is the last one. Places are
counted in steps of 36, the first is 36. -/
def threshold (place bias : Nat) : Nat := min 26 (max 1 (place - bias))

theorem threshold_pos (place bias : Nat) : 0 < threshold place bias := by
  unfold threshold; omega

/-- Divides by 35 until at most 455 is left; every division counts 36. -/
def shrink (counted delta : Nat) : Nat × Nat :=
  if 455 < delta then shrink (counted + 36) (delta / 35) else (counted, delta)
termination_by delta
decreasing_by omega

/-- The bias after a distance, by the number of characters with the new one. -/
def adapt (delta count : Nat) (isFirst : Bool) : Nat :=
  let scaled := if isFirst then delta / 700 else delta / 2
  let (counted, left) := shrink 0 (scaled + scaled / count)
  counted + 36 * left / (left + 38)

/-! ## Distances -/

/-- The digits of a distance. -/
def distance (bias place n : Nat) : List Char :=
  if n < threshold place bias then [digit n]
  else
    let above := n - threshold place bias
    let base := 36 - threshold place bias
    digit (threshold place bias + above % base) :: distance bias (place + 36) (above / base)
termination_by n
decreasing_by
  have := threshold_pos place bias
  exact Nat.lt_of_le_of_lt (Nat.div_le_self _ _) (by omega)

/-- Reads a distance: its value, and what follows it. -/
def readDistance (bias : Nat) : (place weight sum : Nat) → List Char → Option (Nat × List Char)
  | _, _, _, [] => none
  | place, weight, sum, c :: rest =>
    match digitValue? c with
    | none => none
    | some d =>
      if d < threshold place bias then some (sum + d * weight, rest)
      else
        readDistance bias (place + 36) (weight * (36 - threshold place bias)) (sum + d * weight)
          rest

theorem length_lt_of_readDistance {bias place weight sum n : Nat} {cs rest : List Char}
    (h : readDistance bias place weight sum cs = some (n, rest)) : rest.length < cs.length := by
  induction cs generalizing place weight sum with
  | nil => simp [readDistance] at h
  | cons c cs ih =>
    rw [readDistance] at h
    split at h
    · cases h
    · next d _ =>
      split at h
      · cases h; simp
      · have := ih h
        simp only [List.length_cons]
        omega

/-! ## Texts -/

/-- A text that is being written: the digits so far, the distance since the last
written character, the bias, and how many characters are written. -/
structure Writing where
  digits : List Char
  delta : Nat
  bias : Nat
  count : Nat

/-- Goes over one character of the text while the characters `wanted` are written. -/
def Writing.pass (isFirst : Nat → Bool) (wanted : Nat) (s : Writing) (c : Char) : Writing :=
  if c.toNat < wanted then { s with delta := s.delta + 1 }
  else if c.toNat = wanted then
    { digits := s.digits ++ distance s.bias 36 s.delta
      delta := 0
      bias := adapt s.delta (s.count + 1) (isFirst s.count)
      count := s.count + 1 }
  else s

/-- Writes the characters with the given numbers, in this order; the numbers from `from_`
on are not yet passed. -/
def writeFrom (text : List Char) (isFirst : Nat → Bool) (from_ : Nat) (s : Writing) :
    List Nat → Writing
  | [] => s
  | wanted :: rest =>
    let far := { s with delta := s.delta + (wanted - from_) * (s.count + 1) }
    let passed := text.foldl (Writing.pass isFirst wanted) far
    writeFrom text isFirst (wanted + 1) { passed with delta := passed.delta + 1 } rest

/-- An ASCII character. -/
def isBasic (c : Char) : Bool := c.toNat < 128

/-- Writes a text. -/
def encode (text : List Char) : List Char :=
  let basic := text.filter isBasic
  let others := ((text.filter (!isBasic ·)).map Char.toNat).mergeSort.eraseReps
  let written := writeFrom text (· == basic.length) 128 ⟨[], 0, 72, basic.length⟩ others
  (if basic.isEmpty then [] else basic ++ ['-']) ++ written.digits

/-- Puts the code points in that the digits tell; the next one is put in at `place` or
behind it, and is at least `point`. Where the digits tell none, what is there so far is the
error. -/
def insertFrom (isFirst : Bool) (bias point place : Nat) (text : List Nat) (digits : List Char) :
    Except (List Nat) (List Nat) :=
  match digits with
  | [] => .ok text
  | c :: cs =>
    match h : readDistance bias 36 1 0 (c :: cs) with
    | none => .error text
    | some (delta, rest) =>
      let count := text.length + 1
      let point := point + (place + delta) / count
      let here := (place + delta) % count
      if point < 0x110000 then
        insertFrom false (adapt delta count isFirst) point (here + 1) (text.insertIdx here point)
          rest
      else .error text
termination_by digits.length
decreasing_by exact length_lt_of_readDistance h

/-- Reads a text: what is before the last hyphen stands for itself. -/
def decode (cs : List Char) : Except (List Nat) (List Nat) :=
  let digits := (cs.reverse.takeWhile (· != '-')).reverse
  insertFrom true 72 128 0 ((cs.take (cs.length - digits.length - 1)).map Char.toNat) digits

end ApiTypes.Text.Punycode
