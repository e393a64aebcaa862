/-
  Reading a type expression as the language reads it.

  A text is cut into tokens (`tokens?`), and the tokens are read with a stack
  (`step`).  The precedence is that of the language: `[]` belongs to the operand
  right before it, `&` binds tighter than `|`, and only brackets group
  otherwise.  Inside brackets a phrase is read (`Phrase`): the alternatives
  before the last `|`, the factors before the last `&`, and the operand behind.

  * `Ty` is the type that is read.  Alternatives of alternatives are one list of
    alternatives, as the grouping of `|` has no meaning of its own;
  * `parse` reads a whole text.
-/
import ApiTypes.TypeExpr

namespace ApiTypes.TypeText

/-! ## Tokens -/

/-- A token: a name, keyword or number; a text between quotes as it is spelled; a
    pair of empty brackets; or a sign. -/
inductive Token where
  | word (s : String)
  | quoted (mark : Char) (s : String)
  | brackets
  | sign (c : Char)
  deriving DecidableEq, Repr

/-- The characters of names, keywords and numbers. -/
def isWordChar (c : Char) : Bool := isIdentifierPart c || c == '.' || c == '+' || c == '-'

/-- The characters that are tokens of their own; `[` is one if no `]` follows. -/
def isSign (c : Char) : Bool :=
  ['(', ')', ']', '\x7b', '\x7d', '<', '>', '|', '&', ',', ':', ';', '?'].contains c

/-- Where in a token a text has been cut; what has been read of it, last first. -/
inductive Scan where
  | blank
  | word (read : List Char)
  | quoted (mark : Char) (escaped : Bool) (read : List Char)
  | bracket
  | slash
  | comment (star : Bool)
  deriving DecidableEq, Repr

/-- The first character of a token, or a blank one. -/
def Scan.start (c : Char) : Option (List Token × Scan) :=
  if isWordChar c then some ([], .word [c])
  else if isSign c then some ([.sign c], .blank)
  else if c = '\'' ∨ c = '"' then some ([], .quoted c false [])
  else if c = '[' then some ([], .bracket)
  else if c = '/' then some ([], .slash)
  else if c = ' ' ∨ c = '\n' then some ([], .blank)
  else none

/-- One more character: the tokens that end with it or before it. -/
def Scan.next : Scan → Char → Option (List Token × Scan)
  | .blank, c => start c
  | .word read, c =>
    if isWordChar c then some ([], .word (c :: read))
    else (start c).map fun (tokens, s) => (.word (String.ofList read.reverse) :: tokens, s)
  | .quoted mark true read, c => some ([], .quoted mark false (c :: read))
  | .quoted mark false read, c =>
    if c = mark then some ([.quoted mark (String.ofList read.reverse)], .blank)
    else some ([], .quoted mark (c == '\\') (c :: read))
  | .bracket, c =>
    if c = ']' then some ([.brackets], .blank)
    else (start c).map fun (tokens, s) => (.sign '[' :: tokens, s)
  | .slash, c => if c = '*' then some ([], .comment false) else none
  | .comment star, c => some ([], if star && c == '/' then .blank else .comment (c == '*'))

/-- The token that ends with the text. -/
def Scan.finish : Scan → Option (List Token)
  | .blank => some []
  | .word read => some [.word (String.ofList read.reverse)]
  | .bracket => some [.sign '[']
  | _ => none

/-- The tokens that end within a text, and where it stops. -/
def Scan.through : Scan → List Char → Option (List Token × Scan)
  | s, [] => some ([], s)
  | s, c :: cs => (s.next c).bind fun (tokens, s) =>
    (s.through cs).map fun (more, s) => (tokens ++ more, s)

/-- The tokens of a text. -/
def tokens? (text : String) : Option (List Token) :=
  (Scan.blank.through text.toList).bind fun (tokens, s) => s.finish.map (tokens ++ ·)

/-! ## Types -/

/-- A type as it is read.  A leaf is a name, a keyword or a constant; the members
    of an object come with the tokens in front of their colon. -/
inductive Ty where
  | leaf (spelling : List Token)
  | array (item : Ty)
  | record (key value : Ty)
  | object (members : List (List Token × Ty))
  | union (alternatives : List Ty)
  | intersection (factors : List Ty)

/-- The alternatives of a type: its own, or itself alone. -/
def Ty.alternatives : Ty → List Ty
  | .union ts => ts
  | t => [t]

/-- The type of the alternatives of several types. -/
def either (ts : List Ty) : Ty :=
  match ts.flatMap Ty.alternatives with
  | [t] => t
  | alternatives => .union alternatives

/-- The type of several factors. -/
def both : List Ty → Ty
  | [t] => t
  | factors => .intersection factors

/-! ## Phrases -/

/-- A type that is being read: alternatives before the last `|`, factors before
    the last `&`, and the operand behind, if it has come. -/
structure Phrase where
  alternatives : List Ty
  factors : List Ty
  operand : Option Ty

namespace Phrase

/-- Nothing has been read. -/
def empty : Phrase := ⟨[], [], none⟩

/-- Puts an operand where one is wanted. -/
def put (p : Phrase) (t : Ty) : Option Phrase :=
  match p.operand with
  | none => some { p with operand := some t }
  | some _ => none

/-- Goes on behind a `|`. -/
def or (p : Phrase) : Option Phrase :=
  p.operand.map fun t => ⟨p.alternatives ++ [both (p.factors ++ [t])], [], none⟩

/-- Goes on behind a `&`. -/
def and (p : Phrase) : Option Phrase :=
  p.operand.map fun t => ⟨p.alternatives, p.factors ++ [t], none⟩

/-- A pair of brackets makes the operand before it an array. -/
def listOf (p : Phrase) : Option Phrase :=
  p.operand.map fun t => { p with operand := some (.array t) }

/-- The type that has been read. -/
def close (p : Phrase) : Option Ty :=
  p.operand.map fun t => either (p.alternatives ++ [both (p.factors ++ [t])])

end Phrase

/-! ## The stack -/

/-- The members of an object. -/
abbrev Members := List (List Token × Ty)

/-- What has been opened around a phrase. -/
inductive Opening where
  | parenthesis
  | recordKey
  | recordValue (key : Ty)
  | member (before : Members) (head : List Token)

/-- What is being read: a phrase, the head of a member of an object, or a constant
    in brackets of its own.  The last two stand where the host wants an operand. -/
inductive Mode where
  | phrase (p : Phrase)
  | head (host : Phrase) (before : Members) (depth : Nat) (read : List Token)
  | group (host : Phrase) (depth : Nat) (read : List Token)

/-- What is being read, and the phrases around it with what was opened in each. -/
structure State where
  outer : List (Phrase × Opening)
  mode : Mode

/-- Puts a finished operand into the phrase around it. -/
def State.resume (outer : List (Phrase × Opening)) (host : Phrase) (t : Ty) : Option State :=
  (host.put t).map fun p => ⟨outer, .phrase p⟩

/-- A token inside a constant in brackets. -/
def stepGroup (outer : List (Phrase × Opening)) (host : Phrase) (depth : Nat)
    (read : List Token) (token : Token) : Option State :=
  if token = .sign '[' ∨ token = .sign '\x7b' then
    some ⟨outer, .group host (depth + 1) (read ++ [token])⟩
  else if token = .sign ']' ∨ token = .sign '\x7d' then
    match depth with
    | 0 => State.resume outer host (.leaf (read ++ [token]))
    | depth + 1 => some ⟨outer, .group host depth (read ++ [token])⟩
  else some ⟨outer, .group host depth (read ++ [token])⟩

/-- A token in the head of a member, or in its place the end of the object.  Braces
    that start with a text between double quotes, or hold nothing, are constants. -/
def stepHead (outer : List (Phrase × Opening)) (host : Phrase) (before : Members)
    (depth : Nat) (read : List Token) (token : Token) : Option State :=
  match read, before, token with
  | [], [], .sign '\x7d' => State.resume outer host (.leaf [.sign '\x7b', .sign '\x7d'])
  | [], [], .quoted '"' s => some ⟨outer, .group host 0 [.sign '\x7b', .quoted '"' s]⟩
  | [], before, .sign '\x7d' => State.resume outer host (.object before)
  | read, before, .sign ':' =>
    if depth = 0 then some ⟨(host, .member before read) :: outer, .phrase .empty⟩
    else some ⟨outer, .head host before depth (read ++ [token])⟩
  | read, before, .sign '[' => some ⟨outer, .head host before (depth + 1) (read ++ [token])⟩
  | read, before, .sign ']' => some ⟨outer, .head host before (depth - 1) (read ++ [token])⟩
  | read, before, token => some ⟨outer, .head host before depth (read ++ [token])⟩

/-- A token where an operand is wanted. -/
def stepOperand (outer : List (Phrase × Opening)) (p : Phrase) : Token → Option State
  | .sign '(' => some ⟨(p, .parenthesis) :: outer, .phrase .empty⟩
  | .sign '[' => some ⟨outer, .group p 0 [.sign '[']⟩
  | .sign '\x7b' => some ⟨outer, .head p [] 0 []⟩
  | .sign _ => none
  | token => State.resume outer p (.leaf [token])

/-- A token behind an operand. -/
def stepBehind (outer : List (Phrase × Opening)) (p : Phrase) (operand : Ty) (token : Token) :
    Option State :=
  match token with
  | .sign '|' => p.or.map fun p => ⟨outer, .phrase p⟩
  | .sign '&' => p.and.map fun p => ⟨outer, .phrase p⟩
  | .brackets => p.listOf.map fun p => ⟨outer, .phrase p⟩
  | .sign '<' =>
    match operand with
    | .leaf [.word "Record"] =>
      some ⟨({ p with operand := none }, .recordKey) :: outer, .phrase .empty⟩
    | _ => none
  | token =>
    match outer, token with
    | (host, .parenthesis) :: outer, .sign ')' => p.close.bind (State.resume outer host)
    | (host, .recordKey) :: outer, .sign ',' =>
      p.close.map fun key => ⟨(host, .recordValue key) :: outer, .phrase .empty⟩
    | (host, .recordValue key) :: outer, .sign '>' =>
      p.close.bind fun value => State.resume outer host (.record key value)
    | (host, .member before head) :: outer, .sign ';' =>
      p.close.map fun t => ⟨outer, .head host (before ++ [(head, t)]) 0 []⟩
    | _, _ => none

/-- One more token. -/
def step (state : State) (token : Token) : Option State :=
  match state.mode with
  | .group host depth read => stepGroup state.outer host depth read token
  | .head host before depth read => stepHead state.outer host before depth read token
  | .phrase p =>
    match p.operand with
    | none => stepOperand state.outer p token
    | some operand => stepBehind state.outer p operand token

/-- Several tokens. -/
def run : State → List Token → Option State
  | state, [] => some state
  | state, token :: rest => (step state token).bind (run · rest)

/-- The type that tokens write. -/
def read (tokens : List Token) : Option Ty :=
  match run ⟨[], .phrase .empty⟩ tokens with
  | some ⟨[], .phrase p⟩ => p.close
  | _ => none

/-- The type that a text writes. -/
def parse (text : String) : Option Ty := (tokens? text).bind read

theorem Scan.through_append (s : Scan) (a b : List Char) :
    s.through (a ++ b) = (s.through a).bind fun (tokens, s) =>
      (s.through b).map fun (more, s) => (tokens ++ more, s) := by
  induction a generalizing s with
  | nil => simp [through]
  | cons c a ih =>
    rw [List.cons_append, through, through]
    cases s.next c with
    | none => rfl
    | some first =>
      simp only [Option.bind_some, ih]
      cases first.2.through a with
      | none => rfl
      | some second =>
        simp only [Option.bind_some, Option.map_some, Option.map_map]
        congr 1
        funext third
        exact congrArg (·, third.2) (List.append_assoc ..).symm

theorem run_append (state : State) (a b : List Token) :
    run state (a ++ b) = (run state a).bind (run · b) := by
  induction a generalizing state with
  | nil => rfl
  | cons token a ih =>
    rw [List.cons_append, run, run]
    cases step state token with
    | none => rfl
    | some state' => exact ih state'

end ApiTypes.TypeText
