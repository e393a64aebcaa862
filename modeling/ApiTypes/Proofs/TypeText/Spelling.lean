/-
  Texts and their tokens.

  `Spells wordy text tokens` says that a text is cut into tokens.  Texts are put
  together without looking into them (`Spells.append`): only behind one that may
  end in a word (`wordy`) must the next one start with another character
  (`Apart`).

  * `spells_word`, `spells_quoted`, `spells_comment`: the smallest texts;
  * `spells_intercalate`: texts with a separator;
  * `SpellsLines`: lines.
-/
import ApiTypes.Proofs.TypeText.Reader
import Mathlib.Data.List.Forall2

namespace ApiTypes.TypeText

/-- A text is cut into tokens, the last of which may be a word that has not ended. -/
inductive Spells : Bool → String → List Token → Prop
  | cut {wordy text tokens} : Scan.blank.through text.toList = some (tokens, .blank) →
      Spells wordy text tokens
  | word {text before read} : Scan.blank.through text.toList = some (before, .word read) →
      Spells true text (before ++ [.word (String.ofList read.reverse)])

variable {wordy wordy' : Bool} {text a b : String} {tokens ta tb : List Token}

/-- A text starts with a character that no word goes on with. -/
def Apart (text : String) : Prop := text.toList.head?.any (!isWordChar ·) = true

instance (text : String) : Decidable (Apart text) :=
  inferInstanceAs (Decidable (_ = true))

theorem Spells.tokens?_eq (h : Spells wordy text tokens) : tokens? text = some tokens := by
  cases h with
  | cut h => simp [tokens?, h, Scan.finish]
  | word h => simp [tokens?, h, Scan.finish]

theorem Spells.weaken (h : Spells wordy text tokens) : Spells true text tokens := by
  cases h with
  | cut h => exact .cut h
  | word h => exact .word h

/-- A scan that starts anew with a character has ended its token before it. -/
theorem through_of_next {s : Scan} {token : Token} {c : Char} (cs : List Char)
    (h : s.next c = (Scan.start c).map fun (tokens, s) => (token :: tokens, s)) :
    s.through (c :: cs) = (Scan.blank.through (c :: cs)).map fun (tokens, s) =>
      (token :: tokens, s) := by
  have hblank : Scan.blank.next c = Scan.start c := rfl
  rw [Scan.through, Scan.through, h, hblank]
  cases Scan.start c with
  | none => rfl
  | some first => simp [Function.comp_def]

theorem through_word_of_apart (read : List Char) (h : Apart text) :
    (Scan.word read).through text.toList = (Scan.blank.through text.toList).map fun (tokens, s) =>
      (.word (String.ofList read.reverse) :: tokens, s) := by
  cases hcs : text.toList with
  | nil => simp [Apart, hcs] at h
  | cons c cs =>
    have hc : isWordChar c = false := by simpa [Apart, hcs] using h
    exact through_of_next cs (by simp [Scan.next, hc])

/-- **Texts are put together.**  What is behind a word must not go on with it. -/
theorem Spells.append (ha : Spells wordy a ta) (hb : Spells wordy' b tb)
    (hapart : wordy = true → Apart b) : Spells wordy' (a ++ b) (ta ++ tb) := by
  cases ha with
  | cut ha =>
    cases hb with
    | cut hb => exact .cut (by simp [Scan.through_append, ha, hb])
    | word hb =>
      rw [← List.append_assoc]
      exact .word (by simp [Scan.through_append, ha, hb])
  | @word _ before read ha =>
    have hword := through_word_of_apart read (hapart rfl)
    cases hb with
    | cut hb => exact .cut (by simp [Scan.through_append, ha, hword, hb])
    | word hb =>
      rw [← List.append_assoc]
      exact .word (by simp [Scan.through_append, ha, hword, hb])

/-- Behind a text that does not end in a word, any text may stand. -/
theorem Spells.before (ha : Spells false a ta) (hb : Spells wordy b tb) :
    Spells wordy (a ++ b) (ta ++ tb) :=
  ha.append hb nofun

/-- Behind any text, one may stand that starts with another character. -/
theorem Spells.apart (ha : Spells wordy a ta) (hb : Spells wordy' b tb) (h : Apart b) :
    Spells wordy' (a ++ b) (ta ++ tb) :=
  ha.append hb fun _ => h

/-- Texts with a separator between them. -/
theorem spells_intercalate {sep : String} {between : List Token}
    (hsep : Spells false sep between) (hapart : Apart sep) {texts : List String}
    {tokens : List (List Token)} (h : List.Forall₂ (Spells true) texts tokens) :
    Spells true (sep.intercalate texts) (between.intercalate tokens) := by
  induction h with
  | nil => exact .cut rfl
  | @cons text ts texts tokens htext hrest ih =>
    cases hrest with
    | nil => simpa [String.intercalate_singleton] using htext
    | cons hnext hrest =>
      rw [String.intercalate_cons_cons, List.intercalate_cons_cons]
      exact (htext.apart hsep hapart).before ih

/-- A bracket that is not closed at once. -/
theorem Spells.behindBracket (h : Spells wordy text tokens) {c : Char} {cs : List Char}
    (hcs : text.toList = c :: cs) (hc : c ≠ ']') :
    Spells wordy ("[" ++ text) (.sign '[' :: tokens) := by
  have hnext : Scan.bracket.next c =
      (Scan.start c).map fun (tokens, s) => (.sign '[' :: tokens, s) := by
    simp [Scan.next, hc]
  have hopen : Scan.blank.through "[".toList = some ([], .bracket) := by decide
  have hthrough := through_of_next cs hnext
  rw [← hcs] at hthrough
  cases h with
  | cut h =>
    exact .cut (by simp only [String.toList_append, Scan.through_append, hopen, hthrough, h,
      Option.bind_some, Option.map_some, List.nil_append])
  | word h =>
    rw [← List.cons_append]
    exact .word (by simp only [String.toList_append, Scan.through_append, hopen, hthrough, h,
      Option.bind_some, Option.map_some, List.nil_append])

/-! ## Words -/

/-- A text holds only characters of words. -/
def InWord (s : String) : Prop := ∀ c ∈ s.toList, isWordChar c = true

instance (s : String) : Decidable (InWord s) := List.decidableBAll _ _

/-- A text that is one word. -/
def IsWord (s : String) : Prop := s ≠ "" ∧ InWord s

theorem through_wordChars {cs : List Char} (h : ∀ c ∈ cs, isWordChar c = true) :
    ∀ read, (Scan.word read).through cs = some ([], .word (cs.reverse ++ read)) := by
  induction cs with
  | nil => intro read; rfl
  | cons c cs ih =>
    intro read
    obtain ⟨hc, hcs⟩ := List.forall_mem_cons.1 h
    simp [Scan.through, Scan.next, hc, ih hcs]

theorem spells_word {s : String} (h : IsWord s) : Spells true s [.word s] := by
  obtain ⟨hne, hall⟩ := h
  cases hcs : s.toList with
  | nil => exact absurd (String.toList_eq_nil_iff.1 hcs) hne
  | cons c cs =>
    rw [InWord, hcs] at hall
    obtain ⟨hc, hrest⟩ := List.forall_mem_cons.1 hall
    have hthrough : Scan.blank.through s.toList = some ([], .word (cs.reverse ++ [c])) := by
      simp [hcs, Scan.through, Scan.next, Scan.start, hc, through_wordChars hrest]
    have := Spells.word hthrough
    rwa [List.reverse_append, List.reverse_reverse, List.reverse_singleton,
      List.singleton_append, ← hcs, String.ofList_toList] at this

theorem isWord_of_isIdentifier {s : String} (h : isIdentifier s.toList = true) : IsWord s := by
  cases hcs : s.toList with
  | nil => simp [hcs, isIdentifier] at h
  | cons c cs =>
    simp only [hcs, isIdentifier, Bool.and_eq_true, List.all_eq_true] at h
    obtain ⟨hc, hrest⟩ := h
    refine ⟨fun hs => by simp [hs] at hcs, fun d hd => ?_⟩
    rw [hcs] at hd
    have hpart : isIdentifierPart d = true := by
      rcases List.mem_cons.1 hd with rfl | hd
      · simp only [isIdentifierStart, Bool.or_eq_true] at hc
        simp only [isIdentifierPart, Char.isAlphanum, Bool.or_eq_true]
        exact hc.imp_left (Or.imp_left Or.inl)
      · exact hrest d hd
    simp [isWordChar, hpart]

/-! ## Quoted texts -/

/-- Characters that stay inside the quotes around them. -/
def Quotable (mark : Char) (cs : List Char) : Prop :=
  ∀ read, (Scan.quoted mark false read).through cs =
    some ([], .quoted mark false (cs.reverse ++ read))

theorem quotable_nil (mark : Char) : Quotable mark [] := fun _ => rfl

theorem quotable_char {mark c : Char} (hmark : c ≠ mark) (hc : c ≠ '\\') : Quotable mark [c] := by
  intro read
  have : (c == '\\') = false := by simpa using hc
  simp [Scan.through, Scan.next, hmark, this]

theorem quotable_escape {mark : Char} (hmark : '\\' ≠ mark) (c : Char) :
    Quotable mark ['\\', c] := by
  intro read
  simp [Scan.through, Scan.next, hmark]

theorem Quotable.append {mark : Char} {cs ds : List Char} (hc : Quotable mark cs)
    (hd : Quotable mark ds) : Quotable mark (cs ++ ds) := by
  intro read
  simp [Scan.through_append, hc read, hd (cs.reverse ++ read)]

theorem quotable_flatMap {α : Type} {mark : Char} {f : α → List Char} {as : List α}
    (h : ∀ a ∈ as, Quotable mark (f a)) : Quotable mark (as.flatMap f) := by
  induction as with
  | nil => exact quotable_nil mark
  | cons a as ih =>
    obtain ⟨ha, has⟩ := List.forall_mem_cons.1 h
    exact ha.append (ih has)

theorem quotable_of_forall {mark : Char} {cs : List Char}
    (h : ∀ c ∈ cs, c ≠ mark ∧ c ≠ '\\') : Quotable mark cs := by
  have := quotable_flatMap (f := fun c => [c]) fun c hc => quotable_char (h c hc).1 (h c hc).2
  simpa using this

theorem spells_quoted {mark : Char} {cs : List Char} (hmark : mark = '\'' ∨ mark = '"')
    (h : Quotable mark cs) :
    Spells false (String.ofList (mark :: (cs ++ [mark]))) [.quoted mark (String.ofList cs)] := by
  have hstart : Scan.start mark = some ([], .quoted mark false []) := by
    rcases hmark with rfl | rfl <;> rfl
  refine .cut ?_
  simp only [String.toList_ofList, Scan.through, Scan.next, hstart, Option.bind_some,
    Scan.through_append, h [], List.append_nil]
  simp

/-! ## Comments -/

theorem through_comment {cs : List Char} :
    ∀ {star}, ¬ ['*', '/'] <:+: cs → (star = true → cs.head? ≠ some '/') →
      ∃ star', (Scan.comment star).through cs = some ([], .comment star') := by
  induction cs with
  | nil => exact fun _ _ => ⟨_, rfl⟩
  | cons c cs ih =>
    intro star hcs hstar
    have hnext : (Scan.comment star).next c = some ([], .comment (c == '*')) := by
      cases star with
      | false => rfl
      | true =>
        have hc : (c == '/') = false := by simpa using hstar rfl
        simp [Scan.next, hc]
    have hhead : (c == '*') = true → cs.head? ≠ some '/' := by
      intro hc hslash
      obtain ⟨rest, rfl⟩ : ∃ rest, cs = '/' :: rest := by
        cases cs with
        | nil => simp at hslash
        | cons d rest => exact ⟨rest, by simpa using hslash⟩
      obtain rfl : c = '*' := by simpa using hc
      exact hcs ⟨[], rest, rfl⟩
    obtain ⟨star', h⟩ := ih (fun hin => hcs (hin.trans (List.suffix_cons c cs).isInfix)) hhead
    exact ⟨star', by simp [Scan.through, hnext, h]⟩

/-- A comment that does not end early is nothing. -/
theorem spells_comment {text : String} (h : ¬ ['*', '/'] <:+: text.toList) :
    Spells false (Comment.line text) [] := by
  have hopen : Scan.blank.through "  /** ".toList = some ([], .comment false) := by decide
  have hclose : ∀ star, (Scan.comment star).through " */".toList = some ([], .blank) := by decide
  obtain ⟨star, htext⟩ := @through_comment _ false h nofun
  exact .cut (by simp only [Comment.line, String.toList_append, Scan.through_append, hopen, htext,
    hclose, Option.bind_some, Option.map_some, List.nil_append])

/-! ## Lines -/

/-- Lines that are cut into tokens, none of which goes on in the next line. -/
inductive SpellsLines : List String → List Token → Prop
  | nil : SpellsLines [] []
  | cons {line : String} {lines : List String} {ts tokens : List Token} :
      Spells false line ts → SpellsLines lines tokens →
      SpellsLines (line :: lines) (ts ++ tokens)

theorem SpellsLines.append {ls ms : List String} (hl : SpellsLines ls ta)
    (hm : SpellsLines ms tb) : SpellsLines (ls ++ ms) (ta ++ tb) := by
  induction hl with
  | nil => exact hm
  | cons h _ ih =>
    rw [List.append_assoc]
    exact .cons h ih

theorem SpellsLines.join {lines : List String} (h : SpellsLines lines tokens) :
    Spells false (Text.join "\n" lines) tokens := by
  induction h with
  | nil => exact .cut rfl
  | @cons line lines ts tokens h hlines ih =>
    cases lines with
    | nil =>
      cases hlines
      simpa [Text.join] using h
    | cons next lines =>
      have hsep : Spells false "\n" [] := .cut (by decide)
      rw [Text.join, String.intercalate_cons_cons]
      rw [Text.join] at ih
      simpa using (h.before hsep).before ih

end ApiTypes.TypeText
