/-
  Where comments end.

  A block comment ends at the first `*/` behind its start, whatever was meant to stand inside.

  * `Comment.behind?`: what a reader finds behind a block comment;
  * `behindEnd?_append_iff`: the end that is written is where the comment ends if and only if there
    is none before it;
  * `Note`: the two ways in which generated code has a text in a comment;
  * `Note.behind?_written_iff`: the comment around a text ends where it should if and only if the
    text has no `*/`.
-/
import ApiTypes.Comment
import ApiTypes.Text.Split
import Mathlib.Data.List.Infix

namespace ApiTypes

/-! ## Reading comments -/

namespace Comment

/-- What stands behind the end of a block comment, for a reader who is inside of it. -/
def behindEnd? : List Char → Option (List Char)
  | [] => none
  | c :: cs => if c = '*' ∧ cs.head? = some '/' then some cs.tail else behindEnd? cs

/-- What stands behind a block comment, for a reader at its start. -/
def behind? : List Char → Option (List Char)
  | '/' :: '*' :: inside => behindEnd? inside
  | _ => none

/-- The end of a comment stands in a text. -/
def HasEnd (cs : List Char) : Prop := ['*', '/'] <:+: cs

instance (cs : List Char) : Decidable (HasEnd cs) := inferInstanceAs (Decidable (_ <:+: _))

variable {cs ds sep : List Char}

@[simp]
theorem not_hasEnd_nil : ¬ HasEnd [] := by simp [HasEnd]

@[simp]
theorem hasEnd_cons_iff {c : Char} :
    HasEnd (c :: cs) ↔ c = '*' ∧ cs.head? = some '/' ∨ HasEnd cs := by
  rw [HasEnd, List.infix_cons_iff, List.cons_prefix_cons, HasEnd, eq_comm]
  cases cs with
  | nil => simp
  | cons d cs => simp [List.cons_prefix_cons, eq_comm]

/-- The comment ends where its end is written if there is none before. -/
theorem behindEnd?_append_iff {after : List Char} :
    behindEnd? (cs ++ '*' :: '/' :: after) = some after ↔ ¬ HasEnd cs := by
  induction cs with
  | nil => exact iff_of_true rfl not_hasEnd_nil
  | cons c cs ih =>
    have hhead : (cs ++ '*' :: '/' :: after).head? = some '/' ↔ cs.head? = some '/' := by
      cases cs <;> simp
    rw [List.cons_append, behindEnd?, hasEnd_cons_iff]
    simp only [hhead]
    split
    · next hend =>
      refine iff_of_false (fun h => ?_) (not_not_intro (Or.inl hend))
      -- what is left would hold itself, with the end that is written before it
      have hlength := congrArg List.length (Option.some.inj h)
      simp at hlength
      omega
    · next hend => rw [ih, or_iff_right hend]

/-! ## Texts in several parts -/

/-- An end that stands in two texts with a third between them stands in one of the two. -/
def Separates (sep : List Char) : Prop :=
  ∀ cs ds, HasEnd (cs ++ sep ++ ds) ↔ HasEnd cs ∨ HasEnd ds

theorem separates_singleton {c : Char} (hstar : c ≠ '*') (hslash : c ≠ '/') : Separates [c] := by
  intro cs ds
  induction cs with
  | nil =>
    simp [hstar]
  | cons a cs ih =>
    rw [List.cons_append, List.cons_append, hasEnd_cons_iff, hasEnd_cons_iff, ih, or_assoc]
    cases cs with
    | nil => simp [hslash]
    | cons b cs => rfl

theorem Separates.append (hs : Separates cs) (ht : Separates ds) (h : ¬ HasEnd sep) :
    Separates (cs ++ sep ++ ds) := by
  intro front back
  have hassoc : front ++ (cs ++ sep ++ ds) ++ back = front ++ cs ++ (sep ++ ds ++ back) := by simp
  rw [hassoc, hs, ht, or_iff_right h]

/-- An end stands in texts that are joined if and only if it stands in one of them. -/
theorem Separates.hasEnd_intercalate (h : Separates sep) {pieces : List (List Char)} :
    HasEnd (sep.intercalate pieces) ↔ ∃ p ∈ pieces, HasEnd p := by
  induction pieces with
  | nil => simp
  | cons p rest ih =>
    cases rest with
    | nil => simp
    | cons q rest =>
      rw [List.intercalate_cons_cons, h, ih]
      simp

theorem separates_lineFeed : Separates ['\n'] := separates_singleton (by decide) (by decide)

theorem separates_space : Separates [' '] := separates_singleton (by decide) (by decide)

/-- What stands between the lines of a text in a comment. -/
theorem separates_lines : Separates "\n * ".toList := by
  have hbetween : ¬ HasEnd [' ', '*'] := by simp
  exact separates_lineFeed.append separates_space hbetween

/-- The lines of a text with what is put between them. -/
theorem hasEnd_lines (text : String) :
    HasEnd (Text.join "\n * " (Text.split '\n' text)).toList ↔ HasEnd text.toList := by
  have htext := congrArg String.toList (Text.join_split '\n' text)
  rw [Text.toList_join] at htext
  rw [Text.toList_join, separates_lines.hasEnd_intercalate, ← htext]
  exact separates_lineFeed.hasEnd_intercalate.symm

end Comment

/-! ## Notes -/

open Comment

/-- A text in a comment: with a line of its own for each of its lines, or inside one line. -/
inductive Note where
  | block (text : String)
  | line (text : String)

namespace Note

/-- The text that the note is about. -/
def text : Note → String
  | block text | line text => text

/-- The comment. -/
def written : Note → String
  | block text => Comment.body "" text
  | line text => "/** " ++ text ++ " */"

/-- What stands between the start and the end of the comment. -/
def inside : Note → List Char
  | block text =>
    '*' :: '\n' :: ' ' :: '*' :: ' ' ::
      ((Text.join "\n * " (Text.split '\n' text)).toList ++ ['\n', ' '])
  | line text => '*' :: ' ' :: (text.toList ++ [' '])

theorem toList_written (n : Note) : n.written.toList = '/' :: '*' :: (n.inside ++ ['*', '/']) := by
  cases n <;> simp [written, inside, Comment.body]

theorem hasEnd_inside_iff (n : Note) : HasEnd n.inside ↔ HasEnd n.text.toList := by
  cases n with
  | block text =>
    have hinside : (block text).inside = ['*'] ++ "\n * ".toList ++
        ((Text.join "\n * " (Text.split '\n' text)).toList ++ ['\n'] ++ [' ']) := by
      simp [inside]
    rw [hinside, separates_lines, separates_lineFeed, hasEnd_lines]
    simp [Note.text]
  | line text =>
    have hinside : (line text).inside = ['*'] ++ [' '] ++ (text.toList ++ [' '] ++ []) := by
      simp [inside]
    rw [hinside, separates_space, separates_space]
    simp [Note.text]

/-- **Where the comment of a note ends.**  A reader is behind it where the note ends, if and only if
    the text has no `*/`. -/
theorem behind?_written_iff (n : Note) (after : String) :
    behind? (n.written ++ after).toList = some after.toList ↔ ¬ ['*', '/'] <:+: n.text.toList := by
  have hwritten : (n.written ++ after).toList =
      '/' :: '*' :: (n.inside ++ '*' :: '/' :: after.toList) := by
    simp [toList_written]
  rw [hwritten, behind?, behindEnd?_append_iff, hasEnd_inside_iff, HasEnd]

end Note

end ApiTypes
