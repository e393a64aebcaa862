/-
  Character sets that are made of others, which escape sequences choose.

  There are three places for a set. The bytes of ASCII stand for the characters of the
  set in the first place; a shift chooses the second one for all that follows on the
  line, and an escape the third one for a single character (`thirdChar?`).
  An escape sequence designates a set to a place. It ends in a capital letter or in an at
  sign, which names the set.

  Bytes that cannot be waited for, and a third set that has no such characters, are
  refused.
-/
import ApiTypes.Charset.Japanese
import ApiTypes.Charset.Korean
import ApiTypes.Charset.Simplified
import ApiTypes.Charset.SingleByteTable

namespace ApiTypes.Charset

/-! ## Sets -/

/-- A set that can be designated: the byte that names it, how many bytes a character has,
and what they stand for. Sets of one byte and of two are named apart. -/
structure Designated where
  name : Char
  width : Nat
  read : List Nat → Option (List Char)

/-- A set of two bytes, by its row and cell. -/
def Designated.ofPairs (name : Char) (read : Nat → Option (List Char)) : Designated where
  name := name
  width := 2
  read
    | [a, b] => read (pairCode a b)
    | _ => none

/-- A set of one byte. -/
def Designated.ofBytes (name : Char) (read : Nat → Option Char) : Designated where
  name := name
  width := 1
  read
    | [b] => (read b).map ([·])
    | _ => none

/-- ASCII, which is in every place at first. -/
def plainSet : Designated := .ofBytes 'B' ascii?

/-- The Japanese sets of one byte: Latin letters, and kana. -/
def romanSet : Designated := .ofBytes 'J' roman?
def kanaSet : Designated := .ofBytes 'I' fun b => if b < 128 then kana? (b + 128) else none

/-- Sets whose characters are the upper half of a set of bytes. They have none in the first
two places. -/
def latinSet : Designated := .ofBytes 'A' fun _ => none
def greekSet : Designated := .ofBytes 'F' fun _ => none

/-- The Japanese sets of two bytes: that of the basic characters, by both its names, the
supplement, and the planes of an edition; the first one has a plain tilde, and the second
one is that of the second edition. -/
def basicSets : List Designated :=
  ['B', '@'].map fun name => .ofPairs name fun code => (japaneseBasic.char? code).map ([·])
def supplementSet : Designated :=
  .ofPairs 'D' fun code => (japaneseSupplement.char? code).map ([·])
def planeSets (edition : JapaneseEdition) : List Designated :=
  [.ofPairs (if edition = .first then 'O' else 'Q') fun code =>
     if code = 0x2232 then some ['~'] else firstPlane? edition code,
   .ofPairs 'P' (secondPlane? .second)]

/-- The Chinese and the Korean set. -/
def chineseSet : Designated := .ofPairs 'A' fun code => (simplifiedBasic.char? code).map ([·])
def koreanSet : Designated := .ofPairs 'C' fun code => (koreanBasic.char? code).map ([·])

/-! ## The third place -/

/-- The Greek letter of a byte in the third place: the one 128 higher in its set, which has
got three more characters since. A byte that is too high is one of ASCII. -/
def greekChar? (b : Nat) : Option Char :=
  if 128 ≤ b then ascii? (b - 128)
  else if b ∈ [0x24, 0x25, 0x2a] then none
  else do
    let greek ← SingleByte.all.find? (·.name = "iso8859_7")
    let c := SingleByte.charOf greek.first greek.table (UInt8.ofNat (b + 128))
    if c = Text.replacement then none else some c

/-- What a byte stands for in the third place, which only some sets can take. -/
def thirdChar? (set : Designated) (b : Nat) : Option (Option Char) :=
  if set.width ≠ 1 then none
  else if set.name = latinSet.name then
    some (if b < 128 then some (Char.ofNat (b + 128)) else none)
  else if set.name = greekSet.name then some (greekChar? b)
  else if set.name = plainSet.name then some (ascii? b)
  else none

/-! ## Escape sequences -/

/-- What a character set made of others allows. -/
structure Rules where
  /-- The sets that can be designated, ASCII apart. -/
  sets : List Designated
  /-- Whether a shift chooses the second place. -/
  hasShift : Bool
  /-- Whether there is a third place. -/
  hasThird : Bool
  /-- Whether a revision of the basic Japanese set may be announced before it. -/
  hasRevision : Bool

namespace Rules

/-- Whether a byte ends an escape sequence. -/
def isEnd (b : Nat) : Bool := 0x40 ≤ b && b ≤ 0x5a

/-- The length of an escape sequence, of which so many places of sixteen are left. One that
does not end there has length zero, and of one that is not over it is not known. The two
bytes that announce a revision, and the next one, end nothing. -/
def lengthFrom? (rules : Rules) (left : Nat) (bytes : List Nat) : Option Nat :=
  match left, bytes with
  | 0, _ => some 0
  | _ + 1, [] => none
  | left + 1, b :: rest =>
    if isEnd b then some (16 - left)
    else if rules.hasRevision ∧ b = 0x26 ∧ rest.head? = some 0x40 then
      lengthFrom? rules (left - 2) (rest.drop 2)
    else lengthFrom? rules left rest
  termination_by left
  decreasing_by all_goals omega

/-- The place that a byte designates to. -/
def place? (rules : Rules) (b : Nat) : Option Nat :=
  if b = 0x28 then some 0
  else if b = 0x29 then some 1
  else if b = 0x2e ∧ rules.hasThird then some 2
  else none

/-- The place, the width and the name that an escape sequence designates. -/
def designation? (rules : Rules) (sequence : List Nat) : Option (Nat × Nat × Char) :=
  match sequence with
  | [_, 0x24, name] => some (0, 2, Char.ofNat name)
  | [_, b, name] => (rules.place? b).map (·, 1, Char.ofNat name)
  | [_, 0x24, 0x28, name] => some (0, 2, Char.ofNat name)
  | [_, 0x24, 0x29, name] => some (1, 2, Char.ofNat name)
  | [_, _, _, 0x1b, 0x24, 0x42] => if rules.hasRevision then some (0, 2, 'B') else none
  | _ => none

/-- The place and the set that an escape sequence designates, if the set is allowed. -/
def designated? (rules : Rules) (sequence : List Nat) : Option (Nat × Designated) := do
  let (place, width, name) ← rules.designation? sequence
  let set ← (plainSet :: rules.sets).find? fun s => s.width = width ∧ s.name = name
  return (place, set)

end Rules

/-! ## Reading -/

/-- What has been read so far about the places: the sets in them, whether the second one
is chosen, and whether an unknown sequence is passed through. -/
structure Places where
  first : Designated
  second : Designated
  third : Designated
  isShifted : Bool
  isPassing : Bool

namespace Places

/-- The places before anything is read. -/
def start : Places := ⟨plainSet, plainSet, plainSet, false, false⟩

/-- Puts a set in a place. -/
def put (p : Places) (place : Nat) (set : Designated) : Places :=
  match place with
  | 0 => { p with first := set }
  | 1 => { p with second := set }
  | _ => { p with third := set }

/-- A step that changes nothing but reads characters. -/
def reads (p : Places) (cs : List Char) (taken : Nat) : Option (Step Places) := some ⟨cs, taken, p⟩

/-- A step over bytes that stand for nothing. -/
def skips (p : Places) (taken : Nat) : Option (Step Places) := p.reads [Text.replacement] taken

/-- The greatest number of bytes of a sequence that is not over. -/
def mostWaiting : Nat := 8

/-- Reads an escape; nothing is read where bytes are refused. -/
def stepEscape (rules : Rules) (p : Places) (bytes : List Nat) : Option (Step Places) :=
  match bytes with
  | _ :: b :: rest =>
    if b ∈ [0x24, 0x26, 0x28, 0x29, 0x2e] then
      match rules.lengthFrom? 15 (b :: rest) with
      | none => if mostWaiting < bytes.length then none else p.skips bytes.length
      | some 0 => p.skips 1
      | some length =>
        match rules.designated? (bytes.take length) with
        | some (place, set) => some ⟨[], length, p.put place set⟩
        | none => p.skips length
    else if rules.hasThird ∧ b = 0x4e then
      match rest with
      | [] => p.skips 2
      | c :: _ => do
        match ← thirdChar? p.third c with
        | some char => p.reads [char] 3
        | none => p.skips 3
    else some ⟨[Char.ofNat 0x1b], 1, { p with isPassing := true }⟩
  | _ => p.skips 1

/-- Reads a character of the set that is chosen. -/
def stepChosen (p : Places) (bytes : List Nat) : Option (Step Places) :=
  let set := if p.isShifted then p.second else p.first
  if bytes.length < set.width then p.skips bytes.length
  else
    match set.read (bytes.take set.width) with
    | some cs => p.reads cs set.width
    | none => p.skips set.width

/-- Reads a character, a shift or an escape. -/
def step (rules : Rules) (p : Places) (bytes : List Nat) : Option (Step Places) :=
  let b := bytes.headD 0
  if p.isPassing then some ⟨[Char.ofNat b], 1, { p with isPassing := !Rules.isEnd b }⟩
  else if b = 0x1b then p.stepEscape rules bytes
  else if b = 0x0e ∧ rules.hasShift then some ⟨[], 1, { p with isShifted := true }⟩
  else if b = 0x0f ∧ rules.hasShift then some ⟨[], 1, { p with isShifted := false }⟩
  else if b = 0x0a then some ⟨['\n'], 1, { p with isShifted := false }⟩
  else if b < 0x20 then p.reads [Char.ofNat b] 1
  else if 128 ≤ b then p.skips 1
  else p.stepChosen bytes

/-- Reads bytes from the places on, after those that have been read already. -/
def readFrom? (rules : Rules) : (p : Places) → (skip : Nat) → List Nat → Option (List Char)
  | _, _, [] => some []
  | p, skip + 1, _ :: rest => readFrom? rules p skip rest
  | p, 0, b :: rest => do
    let s ← p.step rules (b :: rest)
    return s.chars ++ (← readFrom? rules s.state (s.taken - 1) rest)

end Places

/-- The character set of rules. -/
def Rules.charset (name : String) (aliases : List String) (rules : Rules) : Charset where
  name := name
  aliases := aliases
  read bytes := Places.start.readFrom? rules 0 (bytes.map UInt8.toNat)

/-- A Japanese character set made of others. -/
def japaneseRules (sets : List Designated) : Rules := ⟨sets, false, false, true⟩

/-- The character sets that are made of others. -/
def designated : List Charset :=
  [(japaneseRules (romanSet :: basicSets)).charset "iso2022_jp"
     ["csiso2022jp", "iso2022jp", "iso_2022_jp"],
   (japaneseRules (romanSet :: supplementSet :: basicSets)).charset "iso2022_jp_1"
     ["iso2022jp_1", "iso_2022_jp_1"],
   Rules.charset "iso2022_jp_2" ["iso2022jp_2", "iso_2022_jp_2"]
     ⟨[romanSet, latinSet, greekSet, supplementSet, chineseSet, koreanSet] ++ basicSets, false,
      true, true⟩,
   (japaneseRules (basicSets.take 1 ++ planeSets .second)).charset "iso2022_jp_2004"
     ["iso_2022_jp_2004", "iso2022jp_2004"],
   (japaneseRules (basicSets.take 1 ++ planeSets .first)).charset "iso2022_jp_3"
     ["iso2022jp_3", "iso_2022_jp_3"],
   (japaneseRules (romanSet :: kanaSet :: supplementSet :: basicSets)).charset "iso2022_jp_ext"
     ["iso2022jp_ext", "iso_2022_jp_ext"],
   Rules.charset "iso2022_kr" ["csiso2022kr", "iso2022kr", "iso_2022_kr"]
     ⟨[koreanSet], true, false, false⟩]

end ApiTypes.Charset
