/-
  The lines of written texts.

  * `Text.ofLines`: lines, each with its end; they are read back by cutting the text at the
    ends (`Text.split_ofLines_append`);
  * `Quotable`: a text that can stand in quotes, in one line.
-/
import ApiTypes.Text.Split

namespace ApiTypes

/-! ## Lines -/

namespace Text

/-- Lines, each with its end. -/
def ofLines (lines : List String) : String := String.join (lines.map (· ++ "\n"))

theorem ofLines_cons (line : String) (rest : List String) :
    ofLines (line :: rest) = line ++ "\n" ++ ofLines rest := by
  simp [ofLines, String.join_cons]

theorem ofLines_append (lines more : List String) :
    ofLines (lines ++ more) = ofLines lines ++ ofLines more := by
  simp [ofLines, String.join_append]

/-- Lines are read back in front of whatever follows. -/
theorem split_ofLines_append (rest : String) : ∀ {lines : List String},
    (∀ line ∈ lines, '\n' ∉ line.toList) →
    split '\n' (ofLines lines ++ rest) = lines ++ split '\n' rest
  | [], _ => by rw [ofLines, List.map_nil, String.join_nil, String.empty_append, List.nil_append]
  | line :: more, h => by
    obtain ⟨hline, hmore⟩ := List.forall_mem_cons.1 h
    have hend : "\n" = String.singleton '\n' := rfl
    rw [ofLines_cons, String.append_assoc, hend, split_append_sep, split_eq_singleton hline,
      split_ofLines_append rest hmore]
    rfl

/-- Behind the last end there is nothing. -/
theorem split_ofLines {lines : List String} (h : ∀ line ∈ lines, '\n' ∉ line.toList) :
    split '\n' (ofLines lines) = lines ++ [""] := by
  have hsplit := split_ofLines_append "" h
  rwa [String.append_empty] at hsplit

/-- Pieces with a mark before each are lines. -/
theorem join_eq_ofLines (mark : String) : ∀ {pieces : List String}, pieces ≠ [] →
    mark ++ join ("\n" ++ mark) pieces ++ "\n" = ofLines (pieces.map (mark ++ ·))
  | [piece], _ => by
    simp [join, String.intercalate_singleton, ofLines]
  | piece :: next :: rest, _ => by
    rw [List.map_cons, ofLines_cons, ← join_eq_ofLines mark (List.cons_ne_nil next rest), join,
      String.intercalate_cons_cons, join]
    simp only [String.append_assoc]

end Text

/-! ## Quoted texts -/

/-- What a path is quoted by. -/
def quoteMark : Char := '\x27'

/-- A text has no character that ends a quoted text or a line, or that is read otherwise in a
    quoted text. -/
def Quotable (text : String) : Prop :=
  ∀ c ∈ text.toList, c ≠ quoteMark ∧ c ≠ '\\' ∧ c ≠ '\n' ∧ c ≠ '\r'

instance (text : String) : Decidable (Quotable text) := List.decidableBAll _ _

theorem Quotable.quoteMark_not_mem {text : String} (h : Quotable text) : quoteMark ∉ text.toList :=
  fun hmem => (h _ hmem).1 rfl

theorem Quotable.lineEnd_not_mem {text : String} (h : Quotable text) : '\n' ∉ text.toList :=
  fun hmem => (h _ hmem).2.2.1 rfl

end ApiTypes
