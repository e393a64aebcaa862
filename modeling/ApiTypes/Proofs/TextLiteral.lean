/-
  Texts in quotes, and when they are read as themselves.

  `read?` reads a text literal in single quotes, code point by code point (`State.next`), and
  gives its value as code units; the editions of the language differ in what a literal cannot
  hold as it is.  `nameOf?` reads a property name.

  `singleQuoted` escapes quotes only, so that a text with a backslash or with the end of a
  line in it is not `Clean`.

  * `State.covered_next`: an escape is longer than what it stands for, so that a reader who
    has met one falls behind and never catches up;
  * `follows_of_through`: hence what is read of a text in its written form is the text
    itself, or the literal has ended early, or the reader is behind;
  * `read?_singleQuoted_iff`, `nameOf?_keyText_iff`: a text in quotes and a property name are
    read as themselves exactly if they are clean.
-/
import ApiTypes.Proofs.TypeTree
import ApiTypes.Text.CodePoints
import ApiTypes.Text.Hexadecimal
import Mathlib.Data.List.Induction

namespace ApiTypes.TextLiteral

/-! ## Values -/

/-- The code units of a code point. -/
def unitsOf (point : Nat) : List Nat :=
  if point < 0x10000 then [point]
  else [0xd800 + (point - 0x10000) / 0x400, 0xdc00 + (point - 0x10000) % 0x400]

/-- The value of a text in the language: its code units. -/
def value (s : String) : List Nat := (Text.codePoints s).flatMap unitsOf

/-! ## Reading -/

/-- The quote that literals stand in, and what starts an escape. -/
def quote : Nat := '\''.toNat
def backslash : Nat := '\\'.toNat

/-- The editions of the language: the earlier one also ends a line of the source text at
    U+2028 and U+2029 inside a literal. -/
inductive Edition where
  | earlier
  | later
  deriving DecidableEq, Repr

/-- The code points that end a line. -/
def isLineEnd (point : Nat) : Bool :=
  point == '\n'.toNat || point == '\r'.toNat || point == 0x2028 || point == 0x2029

/-- The code points that a literal cannot hold as they are. -/
def Edition.breaks : Edition → Nat → Bool
  | earlier, point => isLineEnd point
  | later, point => point == '\n'.toNat || point == '\r'.toNat

/-- The value of a hexadecimal digit. -/
def digit? (point : Nat) : Option Nat := Text.hexDigit? (Char.ofNat point)

/-- Where in a literal a text has been read to. -/
inductive State where
  /-- Between code points. -/
  | inside
  /-- Behind a backslash. -/
  | escape
  /-- Behind a backslash and a carriage return, which a line feed may belong to. -/
  | lineBreak
  /-- Behind `\0`, which no digit may follow. -/
  | zero
  /-- Behind `\u`. -/
  | unicode
  /-- Before more digits of a code unit. -/
  | digits (more : Nat) (read : Nat)
  /-- Between the braces of a code point, behind some digits. -/
  | braces (read : Option Nat)
  /-- Behind the closing quote. -/
  | closed
  deriving DecidableEq, Repr

/-- What the letters behind a backslash stand for. -/
def letterEscapes : List (Nat × Nat) :=
  [('b'.toNat, 8), ('t'.toNat, 9), ('n'.toNat, 10), ('v'.toNat, 11), ('f'.toNat, 12), ('r'.toNat, 13)]

/-- What a single code point behind a backslash stands for. -/
def escaped (point : Nat) : Nat := (letterEscapes.lookup point).getD point

/-- A code point between others: the closing quote, the start of an escape, or itself. -/
def State.enter (edition : Edition) (point : Nat) : Option (List Nat × State) :=
  if point = quote then some ([], closed)
  else if point = backslash then some ([], escape)
  else if edition.breaks point then none
  else some (unitsOf point, inside)

/-- The code point behind a backslash. -/
def State.afterBackslash (point : Nat) : Option (List Nat × State) :=
  if point = '\r'.toNat then some ([], lineBreak)
  else if isLineEnd point then some ([], inside)
  else if point = 'u'.toNat then some ([], unicode)
  else if point = 'x'.toNat then some ([], digits 1 0)
  else if point = '0'.toNat then some ([0], zero)
  else if (Char.ofNat point).isDigit then none
  else some (unitsOf (escaped point), inside)

/-- One more digit of a code unit. -/
def State.afterDigit (read d : Nat) : Nat → List Nat × State
  | 0 => ([16 * read + d], inside)
  | more + 1 => ([], digits more (16 * read + d))

/-- A digit of a code point, or the brace behind it. -/
def State.afterBrace (read : Option Nat) (point : Nat) : Option (List Nat × State) :=
  match digit? point, read with
  | some d, read => some ([], braces (some (16 * read.getD 0 + d)))
  | none, some number =>
    if point = '\x7d'.toNat ∧ number < 0x110000 then some (unitsOf number, inside) else none
  | none, none => none

/-- One more code point: the code units that end with it. -/
def State.next (edition : Edition) : State → Nat → Option (List Nat × State)
  | inside, point => enter edition point
  | escape, point => afterBackslash point
  | lineBreak, point => if point = '\n'.toNat then some ([], inside) else enter edition point
  | zero, point => if (Char.ofNat point).isDigit then none else enter edition point
  | unicode, point =>
    if point = '\x7b'.toNat then some ([], braces none)
    else (digit? point).map fun d => ([], digits 2 d)
  | digits more read, point => (digit? point).map fun d => afterDigit read d more
  | braces read, point => afterBrace read point
  | closed, _ => none

/-- The code units that end within a text, and where it stops. -/
def State.through (edition : Edition) : State → List Nat → Option (List Nat × State)
  | s, [] => some ([], s)
  | s, point :: points => (s.next edition point).bind fun (units, s) =>
    (s.through edition points).map fun (more, s) => (units ++ more, s)

/-- The value of a text that is one whole literal in single quotes. -/
def read? (edition : Edition) (text : String) : Option (List Nat) :=
  match Text.codePoints text with
  | [] => none
  | first :: points =>
    if first = quote then
      (State.inside.through edition points).bind fun (units, s) =>
        if s = .closed then some units else none
    else none

variable {edition : Edition} {s s' : State} {point : Nat}
  {units points : List Nat}

theorem State.through_append (s : State) (cs ds : List Nat) :
    s.through edition (cs ++ ds) = (s.through edition cs).bind fun (units, s) =>
      (s.through edition ds).map fun (more, s) => (units ++ more, s) := by
  induction cs generalizing s with
  | nil => simp [through]
  | cons c cs ih =>
    rw [List.cons_append, through, through]
    cases s.next edition c with
    | none => rfl
    | some first =>
      simp only [Option.bind_some, ih]
      cases first.2.through edition cs with
      | none => rfl
      | some second =>
        simp only [Option.bind_some, Option.map_some, Option.map_map]
        congr 1
        funext third
        exact congrArg (·, third.2) (List.append_assoc ..).symm

/-! ## Escapes are longer than what they stand for -/

/-- How many code units a reader is behind, at least, when it has met an escape. -/
def State.behind : State → Nat
  | inside | escape | lineBreak | zero | digits _ _ => 1
  | unicode | braces _ => 2
  | closed => 0

theorem length_unitsOf_pos (point : Nat) : 0 < (unitsOf point).length := by
  unfold unitsOf
  split <;> simp

theorem length_unitsOf_le (point : Nat) : (unitsOf point).length ≤ 2 := by
  unfold unitsOf
  split <;> simp

theorem length_unitsOf_escaped_le (point : Nat) :
    (unitsOf (escaped point)).length ≤ (unitsOf point).length := by
  unfold escaped
  cases h : letterEscapes.lookup point with
  | none => exact Nat.le_refl _
  | some control =>
    have hsmall : ∀ e ∈ letterEscapes, (unitsOf e.2).length = 1 := by decide
    obtain ⟨before, after, heq, -⟩ := List.lookup_eq_some_iff.1 h
    have hmem : (point, control) ∈ letterEscapes :=
      heq ▸ List.mem_append_right before List.mem_cons_self
    rw [Option.getD_some, hsmall _ hmem]
    exact length_unitsOf_pos point

/-- What has been read with a code point, and what may still come, is covered by it. -/
def Covered (behind point : Nat) (read : List Nat × State) : Prop :=
  read.1.length + read.2.behind ≤ behind + (unitsOf point).length

theorem covered_nil {behind : Nat} (h : s.behind ≤ behind + 1) (point : Nat) :
    Covered behind point ([], s) := by
  have hpos := length_unitsOf_pos point
  simp only [Covered, List.length_nil]
  omega

theorem covered_singleton {behind : Nat} (h : s.behind ≤ behind) (unit point : Nat) :
    Covered behind point ([unit], s) := by
  have hpos := length_unitsOf_pos point
  simp only [Covered, List.length_singleton]
  omega

theorem State.covered_enter {read : List Nat × State} (h : enter edition point = some read) :
    Covered 1 point read := by
  unfold enter at h
  split at h
  · exact Option.some.inj h ▸ covered_nil (by decide) point
  split at h
  · exact Option.some.inj h ▸ covered_nil (by decide) point
  split at h
  · exact absurd h nofun
  · obtain rfl := Option.some.inj h
    simp only [Covered, behind]
    omega

theorem State.covered_afterBackslash {read : List Nat × State} (h : afterBackslash point = some read) :
    Covered 1 point read := by
  unfold afterBackslash at h
  split at h
  · exact Option.some.inj h ▸ covered_nil (by decide) point
  split at h
  · exact Option.some.inj h ▸ covered_nil (by decide) point
  split at h
  · exact Option.some.inj h ▸ covered_nil (by decide) point
  split at h
  · exact Option.some.inj h ▸ covered_nil (Nat.le_succ 1) point
  split at h
  · exact Option.some.inj h ▸ covered_singleton (by decide) 0 point
  split at h
  · exact absurd h nofun
  · obtain rfl := Option.some.inj h
    have hle := length_unitsOf_escaped_le point
    simp only [Covered, behind]
    omega

theorem State.covered_afterBrace {read : List Nat × State} {digits : Option Nat}
    (h : afterBrace digits point = some read) : Covered 2 point read := by
  unfold afterBrace at h
  split at h
  · exact Option.some.inj h ▸ covered_nil (Nat.le_succ 2) point
  · next number _ =>
    split at h
    · obtain rfl := Option.some.inj h
      have hpos := length_unitsOf_pos point
      have hle := length_unitsOf_le number
      simp only [Covered, behind]
      omega
    · exact absurd h nofun
  · exact absurd h nofun

/-- **One code point.**  A reader that is behind does not catch up. -/
theorem State.covered_next {read : List Nat × State} (h : s.next edition point = some read) :
    Covered s.behind point read := by
  cases s with
  | inside => exact covered_enter h
  | escape => exact covered_afterBackslash h
  | lineBreak =>
    simp only [next] at h
    split at h
    · exact Option.some.inj h ▸ covered_nil (Nat.le_succ 1) point
    · exact covered_enter h
  | zero =>
    simp only [next] at h
    split at h
    · exact absurd h nofun
    · exact covered_enter h
  | unicode =>
    simp only [next] at h
    split at h
    · exact Option.some.inj h ▸ covered_nil (Nat.le_succ 2) point
    · obtain ⟨d, -, rfl⟩ := Option.map_eq_some_iff.1 h
      exact covered_nil (Nat.le_add_left 1 2) point
  | digits more read =>
    simp only [next] at h
    obtain ⟨d, -, rfl⟩ := Option.map_eq_some_iff.1 h
    cases more with
    | zero => exact covered_singleton (Nat.le_refl 1) _ point
    | succ more => exact covered_nil (Nat.le_succ 1) point
  | braces read => exact covered_afterBrace h
  | closed => exact absurd h nofun

/-! ## Literals as they are written -/

/-- How a character is written between the quotes. -/
def writtenChar (c : Char) : List Char := if c = '\'' then ['\\', '\''] else [c]

/-- How a code point is written between the quotes. -/
def writtenPoint (point : Nat) : List Nat := if point = quote then [backslash, quote] else [point]

theorem toList_singleQuoted (s : String) :
    (singleQuoted s).toList = '\'' :: (s.toList.flatMap writtenChar ++ ['\'']) := by
  have hreplaced : Text.replaceChars "'".toList "\\'".toList 0 s.toList =
      s.toList.flatMap writtenChar := Text.replaceChars_singleton '\'' "\\'".toList s.toList
  rw [singleQuoted, Text.replaceAll, hreplaced]
  simp

theorem writtenPoint_alone (c : Char) (h : c ≠ '\'') :
    writtenPoint (Text.alone c) = [Text.alone c] := by
  refine if_neg fun hquote => h ?_
  unfold Text.alone at hquote
  split at hquote
  · exact absurd hquote (by decide)
  · exact Char.toNat_inj.1 hquote

/-- Characters are written as the code points are that they stand for: what stands for a code
    point together holds no quote. -/
theorem points_flatMap_writtenChar (cs : List Char) :
    Text.points (cs.flatMap writtenChar) = (Text.points cs).flatMap writtenPoint := by
  have hquote (ds : List Char) : Text.points (writtenChar '\'' ++ ds) =
      writtenPoint (Text.alone '\'') ++ Text.points ds := by
    rw [writtenChar, if_pos rfl, List.cons_append, List.singleton_append,
      Text.points_cons_of_ne (by decide), Text.points_cons_of_ne (by decide)]
    rfl
  fun_induction Text.points cs with
  | case1 => rfl
  | case2 c =>
    rw [List.flatMap_singleton, List.flatMap_singleton]
    by_cases hc : c = '\''
    · rw [hc]
      rfl
    · rw [writtenChar, if_neg hc, writtenPoint_alone c hc]
      rfl
  | case3 c d rest point hpoint ih =>
    have hc : c ≠ '\'' := by
      rintro rfl
      rw [Text.together?_of_ne (by decide)] at hpoint
      cases hpoint
    have hd : d ≠ '\'' := by
      rintro rfl
      rw [Text.together?_of_lt (by decide)] at hpoint
      cases hpoint
    have hself : writtenPoint point = [point] := by
      refine if_neg fun heq => ?_
      have hspelled := Text.spelled_of_together? hpoint
      rw [heq] at hspelled
      exact absurd (congrArg List.length hspelled) (by simp [Text.spelled, Text.ofPoint]; decide)
    rw [List.flatMap_cons, List.flatMap_cons, List.flatMap_cons, writtenChar, if_neg hc,
      writtenChar, if_neg hd, hself, List.singleton_append, List.singleton_append, Text.points,
      hpoint, ih, List.singleton_append]
  | case4 c d rest hnone ih =>
    rw [(List.flatMap_cons : (c :: d :: rest).flatMap writtenChar = _),
      (List.flatMap_cons : (Text.alone c :: Text.points (d :: rest)).flatMap writtenPoint = _), ← ih]
    by_cases hc : c = '\''
    · rw [hc, hquote]
    · rw [writtenChar, if_neg hc, writtenPoint_alone c hc, List.singleton_append,
        List.singleton_append]
      refine Text.points_cons fun e he => ?_
      rw [List.flatMap_cons, writtenChar] at he
      split at he
      · obtain rfl := Option.some.inj he
        exact Text.together?_of_lt (by decide) c
      · obtain rfl := Option.some.inj he
        exact hnone

theorem codePoints_singleQuoted (s : String) : Text.codePoints (singleQuoted s) =
    quote :: ((Text.codePoints s).flatMap writtenPoint ++ [quote]) := by
  rw [Text.codePoints, toList_singleQuoted, Text.points_cons_of_ne (by decide),
    Text.points_append_cons (by decide), points_flatMap_writtenChar]
  rfl

/-- A text that can stand between quotes as it is, quotes apart: it holds no backslash, and
    nothing that ends a line. -/
def Edition.Clean (edition : Edition) (s : String) : Prop :=
  ∀ point ∈ Text.codePoints s, point ≠ backslash ∧ edition.breaks point = false

instance (edition : Edition) (s : String) : Decidable (edition.Clean s) :=
  List.decidableBAll _ _

/-- What has become of the code points of a text when they have been read in their written
    form: all of them stand for themselves, the literal has ended early, or the reader is
    behind. -/
inductive Follows (edition : Edition) (read : List Nat) : List Nat → State → Prop
  | same : (∀ point ∈ read, point ≠ backslash ∧ edition.breaks point = false) →
      Follows edition read (read.flatMap unitsOf) .inside
  | ended {units : List Nat} : Follows edition read units .closed
  | behind {units : List Nat} {s : State} :
      units.length + s.behind ≤ (read.flatMap unitsOf).length → Follows edition read units s

theorem flatMap_unitsOf_concat (read : List Nat) (point : Nat) :
    (read ++ [point]).flatMap unitsOf = read.flatMap unitsOf ++ unitsOf point := by
  rw [List.flatMap_append, List.flatMap_singleton]

theorem through_cons : s.through edition (point :: points) =
    (s.next edition point).bind fun (units, s) =>
      (s.through edition points).map fun (more, s) => (units ++ more, s) := rfl

theorem through_singleton : s.through edition [point] = s.next edition point := by
  rw [through_cons]
  cases s.next edition point with
  | none => rfl
  | some found => exact congrArg some (Prod.ext (List.append_nil _) rfl)

theorem through_written_quote : State.inside.through edition (writtenPoint quote) =
    some (unitsOf quote, .inside) := by
  have hescape : State.enter edition backslash = some ([], .escape) := rfl
  have hquote : State.afterBackslash quote = some (unitsOf quote, .inside) := rfl
  simp [writtenPoint, State.through, State.next, hescape, hquote]

/-- Where digits are awaited, only these and a brace are read. -/
theorem next_unicode_eq_none (hdigit : digit? point = none) (hbrace : point ≠ '\x7b'.toNat) :
    State.unicode.next edition point = none := by
  rw [State.next, if_neg hbrace, hdigit]
  rfl

theorem next_digits_eq_none {more read : Nat} (hdigit : digit? point = none) :
    (State.digits more read).next edition point = none := by
  rw [State.next, hdigit]
  rfl

theorem next_braces_eq_none {read : Option Nat} (hdigit : digit? point = none)
    (hbrace : point ≠ '\x7d'.toNat) : (State.braces read).next edition point = none := by
  rw [State.next]
  unfold State.afterBrace
  rw [hdigit]
  cases read with
  | none => rfl
  | some number => exact if_neg fun h => hbrace h.1

/-- An escaped quote ends the literal behind a backslash, and anywhere else it is read as a
    quote or not at all. -/
theorem through_quote (h : s.through edition [backslash, quote] = some (units, s')) :
    s' = .closed ∨ units = unitsOf quote ∧ s' = .inside := by
  have hescape : State.enter edition backslash = some ([], .escape) := rfl
  have hquote : State.afterBackslash quote = some (unitsOf quote, .inside) := rfl
  have hinside : State.escape.through edition [quote] = some (unitsOf quote, .inside) :=
    through_singleton.trans hquote
  have hdigit : digit? backslash = none := by decide
  rw [through_cons] at h
  cases s with
  | inside =>
    obtain ⟨rfl, rfl⟩ : unitsOf quote = units ∧ State.inside = s' := by
      simpa [State.next, hescape, hinside] using h
    exact Or.inr ⟨rfl, rfl⟩
  | lineBreak =>
    have hnext : State.lineBreak.next edition backslash = some ([], .escape) := rfl
    obtain ⟨rfl, rfl⟩ : unitsOf quote = units ∧ State.inside = s' := by
      simpa [hnext, hinside] using h
    exact Or.inr ⟨rfl, rfl⟩
  | zero =>
    have hnext : State.zero.next edition backslash = some ([], .escape) := rfl
    obtain ⟨rfl, rfl⟩ : unitsOf quote = units ∧ State.inside = s' := by
      simpa [hnext, hinside] using h
    exact Or.inr ⟨rfl, rfl⟩
  | escape =>
    have hclose : State.inside.through edition [quote] = some ([], .closed) := rfl
    have hback : State.afterBackslash backslash = some ([92], .inside) := by decide
    obtain ⟨-, rfl⟩ : [92] = units ∧ State.closed = s' := by
      simpa [State.next, hback, hclose] using h
    exact Or.inl rfl
  | unicode =>
    rw [next_unicode_eq_none hdigit (by decide)] at h
    exact absurd h nofun
  | digits more read =>
    rw [next_digits_eq_none hdigit] at h
    exact absurd h nofun
  | braces read =>
    rw [next_braces_eq_none hdigit (by decide)] at h
    exact absurd h nofun
  | closed => exact absurd h nofun

/-- **One code point.**  Its written form is read as the code point itself unless it is a
    backslash or ends the line; the first backslash puts the reader behind, and there it
    stays. -/
theorem Follows.concat {read : List Nat} {more : List Nat} (h : Follows edition read units s)
    (hpoint : s.through edition (writtenPoint point) = some (more, s')) :
    Follows edition (read ++ [point]) (units ++ more) s' := by
  have hlength (hle : units.length + s.behind ≤ (read.flatMap unitsOf).length)
      (hk : more.length + s'.behind ≤ s.behind + (unitsOf point).length) :
      Follows edition (read ++ [point]) (units ++ more) s' := by
    refine .behind ?_
    rw [flatMap_unitsOf_concat, List.length_append, List.length_append]
    omega
  by_cases hquote : point = quote
  · subst hquote
    obtain rfl | ⟨rfl, rfl⟩ := through_quote hpoint
    · exact .ended
    cases h with
    | ended => exact absurd hpoint nofun
    | behind hle =>
      refine hlength hle ?_
      cases s with
      | closed => exact absurd hpoint nofun
      | _ => simp only [State.behind]; omega
    | same hclean =>
      rw [← flatMap_unitsOf_concat]
      refine .same (List.forall_mem_append.2 ⟨hclean, List.forall_mem_singleton.2 ?_⟩)
      cases edition <;> decide
  · rw [writtenPoint, if_neg hquote, through_singleton] at hpoint
    cases h with
    | ended => exact absurd hpoint nofun
    | behind hle => exact hlength hle (State.covered_next hpoint)
    | same hclean =>
      simp only [State.next, State.enter, if_neg hquote] at hpoint
      split at hpoint
      · obtain ⟨rfl, rfl⟩ := Prod.mk.inj (Option.some.inj hpoint)
        have hpos := length_unitsOf_pos point
        refine .behind ?_
        rw [flatMap_unitsOf_concat, List.length_append, List.length_append]
        simp only [State.behind, List.length_nil]
        omega
      split at hpoint
      · exact absurd hpoint nofun
      · next hback hbreaks =>
        obtain ⟨rfl, rfl⟩ := Prod.mk.inj (Option.some.inj hpoint)
        rw [← flatMap_unitsOf_concat]
        refine .same (List.forall_mem_append.2 ⟨hclean, List.forall_mem_singleton.2 ?_⟩)
        exact ⟨hback, by simpa using hbreaks⟩

/-- **A whole text.**  By induction on the code points read, with one more at the end. -/
theorem follows_of_through (h : State.inside.through edition (points.flatMap writtenPoint) =
    some (units, s)) : Follows edition points units s := by
  induction points using List.reverseRecOn generalizing units s with
  | nil =>
    obtain ⟨rfl, rfl⟩ := Prod.mk.inj (Option.some.inj h)
    exact .same nofun
  | append_singleton points point ih =>
    rw [List.flatMap_append, List.flatMap_singleton, State.through_append] at h
    obtain ⟨⟨before, s₀⟩, hbefore, h⟩ := Option.bind_eq_some_iff.1 h
    obtain ⟨⟨more, s₁⟩, hmore, h⟩ := Option.map_eq_some_iff.1 h
    obtain ⟨rfl, rfl⟩ := Prod.mk.inj h
    exact (ih hbefore).concat hmore

theorem through_of_clean
    (h : ∀ point ∈ points, point ≠ backslash ∧ edition.breaks point = false) :
    State.inside.through edition (points.flatMap writtenPoint) =
      some (points.flatMap unitsOf, .inside) := by
  induction points with
  | nil => rfl
  | cons point points ih =>
    obtain ⟨⟨hback, hbreaks⟩, hpoints⟩ := List.forall_mem_cons.1 h
    have hpoint : State.inside.through edition (writtenPoint point) =
        some (unitsOf point, .inside) := by
      by_cases hquote : point = quote
      · rw [hquote]
        exact through_written_quote
      · rw [writtenPoint, if_neg hquote, through_singleton]
        simp [State.next, State.enter, hquote, hback, hbreaks]
    rw [List.flatMap_cons, State.through_append, hpoint, Option.bind_some]
    simp only [ih hpoints]
    rfl

theorem read?_singleQuoted (edition : Edition) (text : String) :
    read? edition (singleQuoted text) =
      (State.inside.through edition ((Text.codePoints text).flatMap writtenPoint)).bind
        fun (units, s) => (s.next edition quote).bind fun (more, s) =>
          if s = .closed then some (units ++ more) else none := by
  have hread : read? edition (singleQuoted text) =
      (State.inside.through edition ((Text.codePoints text).flatMap writtenPoint ++ [quote])).bind
        fun (units, s) => if s = .closed then some units else none := by
    simp only [read?, codePoints_singleQuoted, if_pos]
  rw [hread, State.through_append]
  cases State.inside.through edition ((Text.codePoints text).flatMap writtenPoint) with
  | none => rfl
  | some found =>
    simp only [Option.bind_some, through_singleton]
    cases found.2.next edition quote with
    | none => rfl
    | some last => rfl

/-- A quote that ends the literal adds nothing to its value. -/
theorem eq_nil_of_closed (h : s.next edition quote = some (units, .closed)) : units = [] := by
  have hdigit : digit? quote = none := by decide
  cases s with
  | inside | lineBreak | zero => exact (congrArg Prod.fst (Option.some.inj h)).symm
  | escape | closed => exact absurd h nofun
  | unicode =>
    rw [next_unicode_eq_none hdigit (by decide)] at h
    exact absurd h nofun
  | digits more read =>
    rw [next_digits_eq_none hdigit] at h
    exact absurd h nofun
  | braces read =>
    rw [next_braces_eq_none hdigit (by decide)] at h
    exact absurd h nofun

/-- **Quoted texts.**  A quoted text is one whole literal with the value of the text exactly
    if the text is clean. -/
theorem read?_singleQuoted_iff (edition : Edition) (text : String) :
    read? edition (singleQuoted text) = some (value text) ↔ edition.Clean text := by
  rw [read?_singleQuoted]
  constructor
  · intro h
    obtain ⟨⟨units, s⟩, hbody, h⟩ := Option.bind_eq_some_iff.1 h
    obtain ⟨⟨more, s'⟩, hlast, h⟩ := Option.bind_eq_some_iff.1 h
    dsimp only at h
    split at h
    · next hclosed =>
      subst hclosed
      obtain rfl := eq_nil_of_closed hlast
      have hvalue : units = value text := by simpa using h
      cases follows_of_through hbody with
      | same hclean => exact hclean
      | ended => exact absurd hlast nofun
      | behind hle =>
        rw [hvalue] at hle
        have hbehind : 0 < s.behind := by
          cases s with
          | closed => exact absurd hlast nofun
          | _ => exact Nat.succ_pos _
        simp only [value] at hle
        omega
    · exact absurd h nofun
  · intro hclean
    have hclose : State.inside.next edition quote = some ([], .closed) := rfl
    simp [through_of_clean hclean, hclose, value]

example : read? .later (singleQuoted "it's") = some (value "it's") := by decide

/-! ## Property names -/

/-- The value of a property name: an identifier stands for itself. -/
def nameOf? (edition : Edition) (text : String) : Option (List Nat) :=
  if isIdentifier text.toList then some (value text) else read? edition text

theorem clean_of_isIdentifierPart {c : Char} (h : isIdentifierPart c = true) :
    c.toNat ≠ backslash ∧ edition.breaks c.toNat = false := by
  have hne {d : Char} (hd : isIdentifierPart d = false) : c.toNat ≠ d.toNat := fun heq => by
    rw [Char.toNat_inj.1 heq, hd] at h
    exact absurd h nofun
  have hline : c.toNat ≠ '\n'.toNat := hne (by decide)
  have hreturn : c.toNat ≠ '\r'.toNat := hne (by decide)
  have hseparator : c.toNat ≠ 0x2028 := @hne '\u2028' (by decide)
  have hparagraph : c.toNat ≠ 0x2029 := @hne '\u2029' (by decide)
  refine ⟨hne (by decide), ?_⟩
  cases edition with
  | earlier =>
    simp only [Edition.breaks, isLineEnd, Bool.or_eq_false_iff, beq_eq_false_iff_ne]
    exact ⟨⟨⟨hline, hreturn⟩, hseparator⟩, hparagraph⟩
  | later =>
    simp only [Edition.breaks, Bool.or_eq_false_iff, beq_eq_false_iff_ne]
    exact ⟨hline, hreturn⟩

theorem isIdentifierPart_of_mem {cs : List Char} (h : isIdentifier cs = true) {c : Char}
    (hc : c ∈ cs) : isIdentifierPart c = true := by
  cases cs with
  | nil => exact absurd hc nofun
  | cons d cs =>
    obtain ⟨hstart, hrest⟩ := Bool.and_eq_true_iff.1 h
    obtain rfl | hc := List.mem_cons.1 hc
    · exact isIdentifierPart_of_isIdentifierStart hstart
    · exact List.all_eq_true.1 hrest c hc

/-- An identifier holds no mark, so that its characters are its code points. -/
theorem points_append_of_isIdentifier {cs : List Char} (h : isIdentifier cs = true)
    (ds : List Char) : Text.points (cs ++ ds) = cs.map Char.toNat ++ Text.points ds := by
  refine Text.points_append (fun hmark => ?_) ds
  exact absurd (isIdentifierPart_of_mem h hmark) (by decide)

/-- An identifier is clean. -/
theorem clean_of_isIdentifier {text : String} (h : isIdentifier text.toList = true) :
    edition.Clean text := by
  have hpoints : Text.codePoints text = text.toList.map Char.toNat := by
    have happend := points_append_of_isIdentifier h []
    rwa [List.append_nil, Text.points, List.append_nil] at happend
  rw [Edition.Clean, hpoints]
  exact List.forall_mem_map.2 fun c hc =>
    clean_of_isIdentifierPart (isIdentifierPart_of_mem h hc)

/-- A text that is let pass as an identifier, and is none, ends with a line end behind one. -/
theorem isBare_iff {text : String} : isBare text = true ↔
    isIdentifier text.toList = true ∨
      ∃ word, isIdentifier word.toList = true ∧ text = word ++ "\n" := by
  rw [isBare, Bool.or_eq_true, Bool.and_eq_true, beq_iff_eq]
  refine or_congr_right ⟨?_, ?_⟩
  · rintro ⟨hlast, hword⟩
    obtain ⟨cs, hcs⟩ := List.getLast?_eq_some_iff.1 hlast
    rw [hcs, List.dropLast_concat] at hword
    refine ⟨.ofList cs, by simpa using hword, ?_⟩
    rw [← String.toList_inj, hcs]
    simp
  · rintro ⟨word, hword, rfl⟩
    simpa using hword

/-- A text in quotes is no identifier, nor the same text. -/
theorem singleQuoted_ne (text : String) : singleQuoted text ≠ text := by
  intro h
  have := congrArg (fun s => s.toList.length) h
  simp only [toList_singleQuoted, List.length_cons, List.length_append] at this
  have hle : text.toList.length ≤ (text.toList.flatMap writtenChar).length := by
    induction text.toList with
    | nil => exact Nat.le_refl _
    | cons c cs ih =>
      have : 1 ≤ (writtenChar c).length := by unfold writtenChar; split <;> simp
      rw [List.flatMap_cons, List.length_append, List.length_cons]
      omega
  omega

/-- What starts with an identifier is no literal. -/
theorem read?_append_of_isIdentifier {word : String} (h : isIdentifier word.toList = true)
    (rest : String) : read? edition (word ++ rest) = none := by
  have hpoints := points_append_of_isIdentifier h rest.toList
  rw [← String.toList_append] at hpoints
  rw [read?, Text.codePoints, hpoints]
  cases hword : word.toList with
  | nil =>
    rw [hword] at h
    exact absurd h Bool.false_ne_true
  | cons c cs =>
    have hc : c.toNat ≠ quote := fun heq => by
      have hpart := isIdentifierPart_of_mem h (hword ▸ List.mem_cons_self : c ∈ word.toList)
      rw [Char.toNat_inj.1 heq] at hpart
      exact absurd hpart (by decide)
    exact if_neg hc

theorem keyText_eq_self_iff {text : String} : keyText text = text ↔ isBare text = true := by
  rw [keyText]
  split
  · next h => exact iff_of_true rfl h
  · next h => exact iff_of_false (singleQuoted_ne text) h

/-- **Property names.**  A property name is read as itself exactly if it is clean: an
    identifier is, and with the end of a line behind it it is not. -/
theorem nameOf?_keyText_iff (edition : Edition) (text : String) :
    nameOf? edition (keyText text) = some (value text) ↔ edition.Clean text := by
  rw [keyText]
  split
  · next hbare =>
    by_cases hword : isIdentifier text.toList = true
    · exact iff_of_true (if_pos hword) (clean_of_isIdentifier hword)
    obtain ⟨word, hstart, rfl⟩ := (isBare_iff.1 hbare).resolve_left hword
    refine iff_of_false ?_ ?_
    · rw [nameOf?, if_neg hword, read?_append_of_isIdentifier hstart]
      exact nofun
    · intro hclean
      have hpoints := points_append_of_isIdentifier hstart "\n".toList
      rw [← String.toList_append] at hpoints
      have hend : '\n'.toNat ∈ Text.codePoints (word ++ "\n") := by
        rw [Text.codePoints, hpoints]
        exact List.mem_append_right _ (by decide)
      cases edition <;> exact absurd (hclean _ hend).2 (by decide)
  · next hbare =>
    have hquoted : isIdentifier (singleQuoted text).toList = false := by
      rw [toList_singleQuoted]
      rfl
    rw [nameOf?, hquoted, if_neg Bool.false_ne_true, read?_singleQuoted_iff]

/-! ## Types -/

/-- The texts that a node writes in quotes or as names are read as themselves. -/
def ReadBack (edition : Edition) : TypeExpr → Prop
  | .literals constants =>
    ∀ s, .text s ∈ constants → read? edition (singleQuoted s) = some (value s)
  | .object properties _ =>
    ∀ p ∈ properties, nameOf? edition (keyText p.1.name) = some (value p.1.name)
  | _ => True

/-- The texts of a node are clean. -/
def CleanTexts (edition : Edition) : TypeExpr → Prop
  | .literals constants => ∀ s, .text s ∈ constants → edition.Clean s
  | .object properties _ => ∀ p ∈ properties, edition.Clean p.1.name
  | _ => True

theorem readBack_iff (edition : Edition) (type : TypeExpr) :
    ReadBack edition type ↔ CleanTexts edition type := by
  cases type with
  | literals constants => exact forall₂_congr fun s _ => read?_singleQuoted_iff edition s
  | object properties _ => exact forall₂_congr fun p _ => nameOf?_keyText_iff edition p.1.name
  | _ => exact Iff.rfl

/-- **Texts in the code.**  A text that is a constant, or the name of a property, is read as
    itself exactly if it is clean; it is written without quotes exactly if it is an
    identifier, or one with a line feed behind it.  So in a type, whichever schema it is made
    from, all constants and property names are read as themselves exactly if all of them are
    clean. -/
theorem readBack_iff_clean (edition : Edition) :
    (∀ s : String,
      (read? edition (Literal.ofValue (.str s)).form = some (value s) ↔ edition.Clean s) ∧
      (nameOf? edition (keyText s) = some (value s) ↔ edition.Clean s) ∧
      (keyText s = s ↔ isIdentifier s.toList = true ∨
        ∃ word, isIdentifier word.toList = true ∧ s = word ++ "\n")) ∧
    ∀ type : TypeExpr, type.All (ReadBack edition) ↔ type.All (CleanTexts edition) := by
  refine ⟨fun s => ⟨read?_singleQuoted_iff edition s, nameOf?_keyText_iff edition s,
    keyText_eq_self_iff.trans isBare_iff⟩, fun type => ?_⟩
  rw [funext fun t => propext (readBack_iff edition t)]

/-- A backslash at the end escapes the closing quote, and a line feed behind an identifier
    is written as a part of it. -/
theorem not_readBack :
    (¬ ∀ s : String, read? .later (Literal.ofValue (.str s)).form = some (value s)) ∧
      (¬ ∀ s : String, nameOf? .later (keyText s) = some (value s)) ∧
      ¬ ∀ s : String, keyText s = s → isIdentifier s.toList = true := by
  have hread : read? .later (Literal.ofValue (.str "a\\")).form = none := by decide
  have hname : nameOf? .later (keyText "a\\") = none := by decide
  refine ⟨fun h => ?_, fun h => ?_, fun h => ?_⟩
  · exact absurd (hread.symm.trans (h "a\\")) nofun
  · exact absurd (hname.symm.trans (h "a\\")) nofun
  · exact absurd (h "a\n" (by decide)) (by decide)

end ApiTypes.TextLiteral
