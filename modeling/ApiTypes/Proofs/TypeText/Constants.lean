/-
  The tokens of constants.

  * `isWord_int`, `isWord_float`: numbers are words;
  * `quotable_escapePoint`: an escaped code point stays inside its quotes;
  * `constantTokens`, `spells_write`: the tokens of any value of a document;
  * `Literal.spells`: those of a constant of an enumeration.
-/
import ApiTypes.Proofs.TypeText.Meaning
import ApiTypes.Proofs.TypeText.Spelling
import ApiTypes.Proofs.WrittenText

namespace ApiTypes.TypeText

open Json (Value)

/-! ## Numbers -/

theorem InWord.append {s t : String} (hs : InWord s) (ht : InWord t) : InWord (s ++ t) := by
  intro c hc
  rw [String.toList_append] at hc
  exact (List.mem_append.1 hc).elim (hs c) (ht c)

theorem InWord.pushn {s : String} (hs : InWord s) (n : Nat) : InWord (s.pushn '0' n) := by
  rw [String.pushn_eq_repeat_push]
  induction n with
  | zero => exact hs
  | succ n ih =>
    intro c hc
    rw [Nat.repeat, String.toList_push] at hc
    rcases List.mem_append.1 hc with hc | hc
    · exact ih c hc
    · rw [List.mem_singleton.1 hc]; decide

theorem inWord_of_sublist {s : String} {cs : List Char} (hs : InWord s) (h : cs ⊆ s.toList) :
    InWord (String.ofList cs) := by
  intro c hc
  rw [String.toList_ofList] at hc
  exact hs c (h hc)

theorem inWord_nat (n : Nat) : InWord (toString n) := by
  intro c hc
  rw [Nat.toString_eq_repr, Nat.toList_repr] at hc
  have hdigit := Nat.isDigit_of_mem_toDigits (by decide) (by decide) hc
  simp [isWordChar, isIdentifierPart, Char.isAlphanum, hdigit]

theorem inWord_int (n : Int) : InWord (toString n) := by
  rw [Int.toString_eq_repr, Int.repr_eq_if]
  split
  · exact inWord_nat n.toNat
  · have hsign : InWord "-" := by decide
    exact hsign.append (inWord_nat _)

theorem isWord_int (n : Int) : IsWord (toString n) := by
  refine ⟨fun h => ?_, inWord_int n⟩
  have hlist : (toString n).toList = [] := by rw [h]; rfl
  rw [Int.toString_eq_repr, Int.repr_eq_if] at hlist
  split at hlist
  · rw [Nat.toList_repr] at hlist
    exact Nat.toDigits_ne_nil hlist
  · simp at hlist

theorem inWord_padded (width n : Nat) : InWord (Decimal.padded width n) := by
  have hnone : InWord "" := by decide
  exact (hnone.pushn _).append (inWord_nat n)

theorem isWord_append_left {s t : String} (hs : IsWord s) (ht : InWord t) : IsWord (s ++ t) := by
  refine ⟨fun h => hs.1 (String.append_eq_empty_iff.1 h).1, ?_⟩
  exact InWord.append hs.2 ht

theorem isWord_append_right {s t : String} (hs : InWord s) (ht : IsWord t) : IsWord (s ++ t) := by
  refine ⟨fun h => ht.1 (String.append_eq_empty_iff.1 h).2, ?_⟩
  exact hs.append ht.2

theorem isWord_place (l : Decimal.Layout) (number : Decimal.Scientific) :
    IsWord (l.place number) := by
  unfold Decimal.Layout.place
  extract_lets all digits exponent whole rest rest'
  have hall : InWord (toString number.digits) := inWord_nat _
  have hdigits : digits ⊆ all := by
    intro c hc
    have := (List.dropWhile_suffix _).subset (List.mem_reverse.1 hc)
    exact List.mem_reverse.1 this
  have hsub {cs : List Char} (h : cs ⊆ digits) : InWord (String.ofList cs) :=
    inWord_of_sublist hall (List.Subset.trans h hdigits)
  have hpoint : IsWord "." := ⟨by decide, by decide⟩
  split
  · exact ⟨by decide, by decide⟩
  split
  · split
    · refine isWord_append_left (isWord_append_left ⟨by decide, by decide⟩ ?_) (hsub fun _ h => h)
      exact InWord.pushn (by decide) _
    · have hwhole : InWord (String.ofList whole) := hsub (List.take_subset _ _)
      refine isWord_append_left (isWord_append_right (hwhole.pushn _) hpoint) ?_
      split
      · decide
      · exact hsub (List.drop_subset _ _)
  · have hfirst : InWord (String.ofList (digits.take 1)) := hsub (List.take_subset _ _)
    have hrest : InWord (if rest'.isEmpty then "" else "." ++ String.ofList rest') := by
      split
      · decide
      · exact InWord.append hpoint.2 (hsub (List.drop_subset _ _))
    refine isWord_append_left (isWord_append_right (hfirst.append hrest) ?_) (inWord_padded _ _)
    split <;> exact ⟨by decide, by decide⟩

/-- A float is a word if the names of the values without digits are. -/
theorem isWord_float {l : Decimal.Layout} (hinf : IsWord l.infinity) (hnan : IsWord l.undefined)
    (x : Float) : IsWord (l.text x) := by
  have hsign (negative : Bool) : InWord (if negative = true then "-" else "") := by
    cases negative <;> decide
  unfold Decimal.Layout.text
  split
  · exact isWord_append_right (hsign _) (isWord_place l _)
  · exact isWord_append_right (hsign _) hinf
  · exact hnan

/-! ## Texts -/

theorem exists_digitChar_of_mem_toDigits {b n : Nat} {c : Char} (h : c ∈ Nat.toDigits b n) :
    ∃ m, c = Nat.digitChar m := by
  have hcore : ∀ {fuel n : Nat} {cs : List Char}, (∀ d ∈ cs, ∃ m, d = Nat.digitChar m) →
      ∀ d ∈ Nat.toDigitsCore b fuel n cs, ∃ m, d = Nat.digitChar m := by
    intro fuel
    induction fuel with
    | zero => exact fun hcs => hcs
    | succ fuel ih =>
      intro n cs hcs
      have hcons : ∀ d ∈ (n % b).digitChar :: cs, ∃ m, d = Nat.digitChar m :=
        List.forall_mem_cons.2 ⟨⟨_, rfl⟩, hcs⟩
      rw [Nat.toDigitsCore]
      split
      · exact hcons
      · exact ih hcons
  exact hcore (fun _ hnil => absurd hnil List.not_mem_nil) c h

theorem quotable_escapeUnit (unit : Nat) : Quotable '"' (Json.escapeUnit unit) := by
  refine (quotable_escape (by decide) 'u').append (quotable_of_forall fun c hc => ?_)
  rcases List.mem_append.1 hc with hc | hc
  · rw [List.eq_of_mem_replicate hc]; decide
  · obtain ⟨m, rfl⟩ := exists_digitChar_of_mem_toDigits hc
    exact ⟨Nat.digitChar_ne '"' (by decide), Nat.digitChar_ne '\\' (by decide)⟩

theorem quotable_escapePoint (point : Nat) : Quotable '"' (Json.escapePoint point) := by
  by_cases hquote : point = '"'.toNat
  · rw [Json.escapePoint, if_pos hquote]
    exact quotable_escape (by decide) '"'
  by_cases hback : point = '\\'.toNat
  · rw [Json.escapePoint, if_neg hquote, if_pos hback]
    exact quotable_escape (by decide) '\\'
  rw [Json.escapePoint, if_neg hquote, if_neg hback]
  -- the escapes of controls, which have a letter behind the backslash
  iterate 5
    split
    · exact quotable_escape (by decide) _
  split
  · next hplain =>
    have hnat : (Char.ofNat point).toNat = point :=
      Text.toNat_ofNat_of_isValidChar (.inl (Nat.lt_trans hplain.2 (by decide)))
    exact quotable_char (fun h => hquote (by rw [← h, hnat])) (fun h => hback (by rw [← h, hnat]))
  split
  · exact quotable_escapeUnit _
  · exact (quotable_escapeUnit _).append (quotable_escapeUnit _)

theorem spells_writeText (s : String) :
    Spells false (Json.writeText s)
      [.quoted '"' (String.ofList (Json.escapeText s))] :=
  spells_quoted (.inr rfl) (quotable_flatMap fun point _ => quotable_escapePoint point)

theorem spells_singleQuoted {s : String} (h : isIdentifier s.toList = true) :
    Spells false (singleQuoted s) [.quoted '\'' s] := by
  have hplain : ∀ c ∈ s.toList, c ≠ '\'' ∧ c ≠ '\\' := by
    intro c hc
    have hword := (isWord_of_isIdentifier h).2 c hc
    constructor <;> rintro rfl <;> exact absurd hword (by decide)
  have hquote : '\'' ∉ s.toList := fun hmem => (hplain _ hmem).1 rfl
  have hsame : Text.replaceAll "'" "\\'" s = s := by
    have := @Text.replaceChars_of_not_mem _ "\\'".toList _ hquote
    rw [Text.replaceAll]
    exact (congrArg String.ofList this).trans String.ofList_toList
  have hquoted : singleQuoted s = String.ofList ('\'' :: (s.toList ++ ['\''])) := by
    apply String.toList_injective
    simp [singleQuoted, hsame]
  rw [hquoted]
  simpa using spells_quoted (.inl rfl) (quotable_of_forall hplain)

/-! ## Values -/

mutual

/-- The tokens of a value. -/
def constantTokens : Value → List Token
  | .str s => [.quoted '"' (String.ofList (Json.escapeText s))]
  | .arr [] => [.brackets]
  | .arr (v :: rest) => .sign '[' :: [.sign ','].intercalate (itemTokens (v :: rest)) ++ [.sign ']']
  | .obj fields => .sign '\x7b' :: [.sign ','].intercalate (memberTokens fields) ++ [.sign '\x7d']
  | v => [.word (Json.write v)]

/-- The tokens of each item of a list. -/
def itemTokens : List Value → List (List Token)
  | [] => []
  | v :: rest => constantTokens v :: itemTokens rest

/-- The tokens of each member of an object. -/
def memberTokens : List (String × Value) → List (List Token)
  | [] => []
  | (k, v) :: rest =>
    (.quoted '"' (String.ofList (Json.escapeText k)) :: .sign ':' ::
      constantTokens v) :: memberTokens rest

end

theorem IsWord.exists_head {s : String} (h : IsWord s) : ∃ c cs, s.toList = c :: cs ∧ c ≠ ']' := by
  obtain ⟨hne, hall⟩ := h
  cases hcs : s.toList with
  | nil => exact absurd (String.toList_eq_nil_iff.1 hcs) hne
  | cons c cs =>
    refine ⟨c, cs, rfl, ?_⟩
    rintro rfl
    exact absurd (hall ']' (by simp [hcs])) (by decide)

/-- A value that is no text, list or object is written as a word. -/
theorem isWord_write {v : Value} (h : constantTokens v = [.word (Json.write v)]) :
    IsWord (Json.write v) := by
  cases v with
  | null => exact ⟨by decide, by decide⟩
  | bool b => cases b <;> exact ⟨by decide, by decide⟩
  | int n => exact isWord_int n
  | float x => exact isWord_float ⟨by decide, by decide⟩ ⟨by decide, by decide⟩ x
  | str s => simp [constantTokens] at h
  | arr vs => cases vs <;> simp [constantTokens] at h
  | obj fields => simp [constantTokens] at h

theorem exists_head_write (v : Value) : ∃ c cs, (Json.write v).toList = c :: cs ∧ c ≠ ']' := by
  cases v with
  | str s =>
    exact ⟨'"', Json.escapeText s ++ ['"'], by simp [Json.write, Json.writeText],
      by decide⟩
  | arr vs =>
    exact ⟨'[', (", ".intercalate (Json.writeItems vs) ++ "]").toList, by simp [Json.write],
      by decide⟩
  | obj fields =>
    exact ⟨'\x7b', (", ".intercalate (Json.writeFields fields) ++ "\x7d").toList,
      by simp [Json.write], by decide⟩
  | null => exact (isWord_write rfl).exists_head
  | bool b => exact (isWord_write rfl).exists_head
  | int n => exact (isWord_write rfl).exists_head
  | float x => exact (isWord_write rfl).exists_head

theorem spells_comma : Spells false ", " [.sign ','] := .cut (by decide)

mutual

/-- **The tokens of a value.** -/
theorem spells_write : ∀ v, Spells true (Json.write v) (constantTokens v)
  | .str s => (spells_writeText s).weaken
  | .arr [] => .cut (by decide)
  | .arr (v :: rest) => by
    obtain ⟨c, cs, hcs, hc⟩ := exists_head_write v
    obtain ⟨ds, hds⟩ := @Text.exists_head_intercalate _ ", " c cs hcs (Json.writeItems rest)
    have hitems := spells_intercalate spells_comma (by decide) (spells_items (v :: rest))
    have hclose : Spells false "]" [.sign ']'] := .cut (by decide)
    have hbody := hitems.apart hclose (by decide)
    have hhead : (", ".intercalate (Json.writeItems (v :: rest)) ++ "]").toList =
        c :: (ds ++ [']']) := by
      simp [Json.writeItems, hds]
    rw [Json.write, constantTokens, String.append_assoc]
    exact (hbody.behindBracket hhead hc).weaken
  | .obj fields => by
    have hmembers := spells_intercalate spells_comma (by decide) (spells_members fields)
    have hopen : Spells false "\x7b" [.sign '\x7b'] := .cut (by decide)
    have hclose : Spells false "\x7d" [.sign '\x7d'] := .cut (by decide)
    rw [Json.write, constantTokens]
    exact ((hopen.before hmembers).apart hclose (by decide)).weaken
  | .null => spells_word (isWord_write rfl)
  | .bool b => spells_word (isWord_write rfl)
  | .int n => spells_word (isWord_write rfl)
  | .float x => spells_word (isWord_write rfl)

/-- The tokens of each item of a list. -/
theorem spells_items : ∀ vs, List.Forall₂ (Spells true) (Json.writeItems vs) (itemTokens vs)
  | [] => .nil
  | v :: rest => .cons (spells_write v) (spells_items rest)

/-- The tokens of each member of an object. -/
theorem spells_members : ∀ fields,
    List.Forall₂ (Spells true) (Json.writeFields fields) (memberTokens fields)
  | [] => .nil
  | (k, v) :: rest => by
    have hcolon : Spells false ": " [.sign ':'] := .cut (by decide)
    refine .cons ?_ (spells_members rest)
    exact ((spells_writeText k).before hcolon).before (spells_write v)

end

end ApiTypes.TypeText

/-! ## Constants of an enumeration -/

namespace ApiTypes.Literal

open TypeText

theorem spelling_eq {c : Literal} {wordy : Bool} {tokens : List Token}
    (h : Spells wordy c.form tokens) : c.spelling = tokens := by
  rw [spelling, h.tokens?_eq, Option.getD_some]

/-- A constant is a text between quotes or a value in its written form. -/
theorem spells_form {c : Literal} (hvalue : ∃ v, c = ofValue v)
    (hplain : ∀ s, c = .text s → TypeExpr.PlainName s) :
    Spells true c.form c.spelling ∧
      ((∃ s, c.spelling = [.quoted '\'' s]) ∨ ∃ v, c.spelling = constantTokens v) := by
  obtain ⟨v, rfl⟩ := hvalue
  have hwritten (h : ofValue v = .written (Json.write v)) :
      Spells true (ofValue v).form (ofValue v).spelling ∧
        ((∃ s, (ofValue v).spelling = [.quoted '\'' s]) ∨
          ∃ w, (ofValue v).spelling = constantTokens w) := by
    have hform := spells_write v
    rw [h, spelling_eq (c := .written _) hform]
    exact ⟨hform, .inr ⟨v, rfl⟩⟩
  cases v with
  | str s =>
    have hform := spells_singleQuoted (hplain s rfl)
    rw [ofValue, spelling_eq (c := .text s) hform]
    exact ⟨hform.weaken, .inl ⟨s, rfl⟩⟩
  | null => exact hwritten rfl
  | bool b => exact hwritten rfl
  | int n => exact hwritten rfl
  | float x => exact hwritten rfl
  | arr vs => exact hwritten rfl
  | obj fields => exact hwritten rfl

end ApiTypes.Literal
