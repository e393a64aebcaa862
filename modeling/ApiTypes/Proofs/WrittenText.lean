/-
  A written text is read back.

  `writeText` puts a text between double quotes in visible ASCII; `readText` reads from behind
  the opening quote to behind the closing one (`Reads`, without the bound on what is left).

  A code point beyond U+FFFF is written by the two halves of its surrogate pair, and so are the
  two halves where a text holds them one behind the other.  Only texts whose halves stand
  apart (`HalvesApart`) can therefore be told by how they are written; every text of
  characters is one of them (`halvesApart_ofChars`).

  * `escapePoint_cases`: the ways in which a code point is written;
  * `secondHalf?_written`: what stands behind a first half is not read as its second half;
  * `reads_written`: hence what is written is read back, whatever stands behind it;
  * `toList_writeText_append_inj`: of two written texts with something behind them, both parts
    are known by the characters of the whole.
-/
import ApiTypes.Json.Reader
import ApiTypes.Json.Writer
import Mathlib.Data.List.Chain

namespace ApiTypes

namespace Text

/-- No first half of a surrogate pair stands directly before a second half. -/
def Apart (points : List Nat) : Prop := points.IsChain fun a b => ¬ (isHighHalf a ∧ isLowHalf b)

instance (points : List Nat) : Decidable (Apart points) :=
  inferInstanceAs (Decidable (List.IsChain _ points))

/-- The halves in a text stand apart, and there are no marks in it that stand for nothing. -/
def HalvesApart (s : String) : Prop :=
  (∀ point ∈ codePoints s, point < 0x110000) ∧ Apart (codePoints s)

instance (s : String) : Decidable (HalvesApart s) := inferInstanceAs (Decidable (_ ∧ _))

/-- **Characters** hold no halves, so that every text of them is a case. -/
theorem halvesApart_ofChars (cs : List Char) : HalvesApart (ofChars cs) := by
  rw [HalvesApart, codePoints_ofChars]
  refine ⟨List.forall_mem_map.2 fun c _ => toNat_lt c, (List.isChain_map _).2 ?_⟩
  refine List.Pairwise.isChain (List.pairwise_of_forall_mem_list ?_)
  rintro c - d - ⟨hhigh, -⟩
  have hc := toNat_not_half c
  simp only [isHighHalf, Bool.and_eq_true, decide_eq_true_eq] at hhigh
  omega

end Text

namespace Json

variable {quoted more rest cs : List Char} {c e : Char} {unit point : Nat}

/-! ## Code units -/

theorem hexadecimal_one {n : Nat} (h : n < 16) : Text.hexadecimal 1 n = [n.digitChar] := by
  rw [Text.hexadecimal, Nat.toDigits_of_lt_base h]
  rfl

theorem hexadecimal_add_two (width n : Nat) :
    Text.hexadecimal (width + 2) n =
      Text.hexadecimal (width + 1) (n / 16) ++ [(n % 16).digitChar] := by
  rw [Text.hexadecimal, Text.hexadecimal]
  by_cases hn : n < 16
  · rw [Nat.div_eq_of_lt hn, Nat.mod_eq_of_lt hn, Nat.toDigits_of_lt_base hn, Nat.toDigits_zero]
    simp [← List.replicate_succ']
  · rw [Nat.toDigits_of_base_le (by decide) (Nat.le_of_not_lt hn)]
    simp

theorem hexDigit?_digitChar : ∀ n < 16, Text.hexDigit? n.digitChar = some n := by decide

/-- A code unit is written by four digits that are read as the unit. -/
theorem exists_digits (h : unit < 0x10000) : ∃ a b c d,
    Text.hexadecimal 4 unit = [a, b, c, d] ∧ codeUnit? a b c d = some unit := by
  refine ⟨(unit / 16 / 16 / 16).digitChar, (unit / 16 / 16 % 16).digitChar,
    (unit / 16 % 16).digitChar, (unit % 16).digitChar, ?_, ?_⟩
  · rw [hexadecimal_add_two, hexadecimal_add_two, hexadecimal_add_two, hexadecimal_one (by omega)]
    rfl
  · rw [codeUnit?, hexDigit?_digitChar _ (by omega), hexDigit?_digitChar _ (by omega),
      hexDigit?_digitChar _ (by omega), hexDigit?_digitChar _ (by omega)]
    simp only [Option.bind_eq_bind, Option.bind_some, Option.pure_def, Option.some.injEq]
    omega

/-! ## Code points -/

theorem ofPoint_of_lt (h : point < 0xd800) : Text.ofPoint point = [Char.ofNat point] := by
  rw [Text.ofPoint, if_neg (by rw [Text.isHalf_iff]; omega), if_neg (by omega)]

/-- **How a code point is written**: behind a backslash with a letter, as the character that it
    is, by the code unit that it is, or by the two halves of its pair. -/
theorem escapePoint_cases (h : point < 0x110000) :
    (∃ c e, Text.ofPoint point = [c] ∧ e ≠ 'u' ∧ shortEscape? e = some c ∧
      escapePoint point = ['\\', e]) ∨
    (∃ c, Text.ofPoint point = [c] ∧ c ≠ '"' ∧ c ≠ '\\' ∧ 32 ≤ c.toNat ∧
      escapePoint point = [c]) ∨
    (point < 0x10000 ∧ escapePoint point = escapeUnit point) ∨
    (∃ high low, Text.isHighHalf high ∧ Text.isLowHalf low ∧ Text.ofPair high low = point ∧
      escapePoint point = escapeUnit high ++ escapeUnit low) := by
  by_cases hquote : point = '"'.toNat
  · exact .inl ⟨'"', '"', by subst hquote; rfl, by decide, rfl, by subst hquote; rfl⟩
  by_cases hback : point = '\\'.toNat
  · exact .inl ⟨'\\', '\\', by subst hback; rfl, by decide, rfl, by subst hback; rfl⟩
  by_cases hline : point = '\n'.toNat
  · exact .inl ⟨'\n', 'n', by subst hline; rfl, by decide, rfl, by subst hline; rfl⟩
  by_cases hreturn : point = '\r'.toNat
  · exact .inl ⟨'\r', 'r', by subst hreturn; rfl, by decide, rfl, by subst hreturn; rfl⟩
  by_cases htab : point = '\t'.toNat
  · exact .inl ⟨'\t', 't', by subst htab; rfl, by decide, rfl, by subst htab; rfl⟩
  by_cases hbell : point = 8
  · exact .inl ⟨_, 'b', by subst hbell; rfl, by decide, rfl, by subst hbell; rfl⟩
  by_cases hfeed : point = 12
  · exact .inl ⟨_, 'f', by subst hfeed; rfl, by decide, rfl, by subst hfeed; rfl⟩
  rw [escapePoint, if_neg hquote, if_neg hback, if_neg hline, if_neg hreturn, if_neg htab,
    if_neg hbell, if_neg hfeed]
  split
  · next hplain =>
    have hnat : (Char.ofNat point).toNat = point :=
      Text.toNat_ofNat_of_isValidChar (.inl (by omega))
    have hne {c : Char} (hc : ¬ point = c.toNat) : Char.ofNat point ≠ c := fun heq =>
      hc (by rw [← heq, hnat])
    have hself : Text.ofPoint point = [Char.ofNat point] := ofPoint_of_lt (by omega)
    exact .inr (.inl ⟨_, hself, hne hquote, hne hback, hnat.symm ▸ hplain.1, rfl⟩)
  split
  · next hsmall => exact .inr (.inr (.inl ⟨hsmall, rfl⟩))
  · refine .inr (.inr (.inr ⟨_, _, ?_, ?_, ?_, rfl⟩))
    · simp only [Text.isHighHalf, Bool.and_eq_true, decide_eq_true_eq]
      omega
    · simp only [Text.isLowHalf, Bool.and_eq_true, decide_eq_true_eq]
      omega
    · unfold Text.ofPair
      omega

/-- What is read of a text, whatever is left behind it. -/
def Reads (quoted text cs rest : List Char) : Prop :=
  ∃ h, readText quoted text = .ok (cs, ⟨rest, h⟩)

theorem Reads.unique {text cs' rest' : List Char} (h : Reads quoted text cs rest)
    (h' : Reads quoted text cs' rest') : cs = cs' ∧ rest = rest' := by
  obtain ⟨_, h⟩ := h
  obtain ⟨_, h'⟩ := h'
  rw [h, Except.ok.injEq, Prod.mk.injEq, Subtype.mk.injEq] at h'
  exact h'

theorem reads_end (quoted rest : List Char) : Reads quoted ('"' :: rest) [] rest :=
  ⟨_, readText.eq_2 quoted rest⟩

theorem Reads.short (hc : shortEscape? e = some c) (he : e ≠ 'u')
    (h : Reads quoted more cs rest) : Reads quoted ('\\' :: e :: more) (c :: cs) rest := by
  obtain ⟨hleft, hmore⟩ := h
  refine ⟨by simp only [List.length_cons]; omega, ?_⟩
  rw [readText.eq_4 quoted e more he, hc]
  simp only [hmore]
  rfl

theorem Reads.plain (hquote : c ≠ '"') (hback : c ≠ '\\') (hvisible : 32 ≤ c.toNat)
    (h : Reads quoted more cs rest) : Reads quoted (c :: more) (c :: cs) rest := by
  obtain ⟨hleft, hmore⟩ := h
  refine ⟨by simp only [List.length_cons]; omega, ?_⟩
  rw [readText.eq_6 quoted c more hquote (fun _ h => absurd h hback)
    (fun _ _ h => absurd h hback) (fun h => absurd h hback), if_neg (Nat.not_lt.2 hvisible)]
  simp only [hmore]
  rfl

theorem Reads.codePoint {text first : List Char}
    (hc : ∃ h, readCodePoint text = .ok (first, ⟨more, h⟩)) (h : Reads quoted more cs rest) :
    Reads quoted ('\\' :: 'u' :: text) (first ++ cs) rest := by
  obtain ⟨hleft, hmore⟩ := h
  obtain ⟨htaken, hc⟩ := hc
  refine ⟨by simp only [List.length_cons]; omega, ?_⟩
  rw [readText.eq_3, hc]
  simp only [bind, Except.bind, hmore]
  rfl

/-! ## Halves -/

/-- What starts with an escape is not read as that of a second half. -/
def NoSecondHalf (text : List Char) : Prop :=
  ∀ tail, text = '\\' :: tail → secondHalf? tail = none

/-- The escape of a second half is read, and no other. -/
theorem secondHalf?_escape (h : unit < 0x10000) :
    (Text.isLowHalf unit →
      ∃ h, secondHalf? ('u' :: (Text.hexadecimal 4 unit ++ e :: more)) =
        some (.ok (unit, ⟨e :: more, h⟩))) ∧
    (¬ Text.isLowHalf unit → 
      secondHalf? ('u' :: (Text.hexadecimal 4 unit ++ e :: more)) = none) := by
  obtain ⟨a, b, c, d, hdigits, hunit⟩ := exists_digits h
  rw [hdigits]
  simp only [List.cons_append, List.nil_append]
  constructor
  · intro hlow
    refine ⟨by simp only [List.length_cons]; omega, ?_⟩
    simp only [secondHalf?, hunit, if_pos hlow]
  · intro hlow
    simp only [secondHalf?, hunit, if_neg hlow]

/-- A code unit is read from its escape, unless it is a first half and the second follows. -/
theorem readCodePoint_escape (h : unit < 0x10000)
    (hmore : Text.isHighHalf unit → NoSecondHalf (e :: more)) :
    ∃ h, readCodePoint (Text.hexadecimal 4 unit ++ e :: more) =
      .ok (Text.ofPoint unit, ⟨e :: more, h⟩) := by
  obtain ⟨a, b, c, d, hdigits, hunit⟩ := exists_digits h
  rw [hdigits]
  simp only [List.cons_append, List.nil_append]
  refine ⟨by simp only [List.length_cons]; omega, ?_⟩
  simp only [readCodePoint, hunit]
  split
  · next hboth =>
    obtain ⟨hhigh, he⟩ := Bool.and_eq_true_iff.1 hboth
    rw [hmore hhigh more (by rw [eq_of_beq he])]
  · rfl

/-- Both halves of a pair are read as its code point. -/
theorem readCodePoint_pair {high low : Nat} (hhigh : Text.isHighHalf high)
    (hlow : Text.isLowHalf low) :
    ∃ h, readCodePoint (Text.hexadecimal 4 high ++ (escapeUnit low ++ e :: more)) =
      .ok (Text.ofPoint (Text.ofPair high low), ⟨e :: more, h⟩) := by
  have hhigh' := hhigh
  have hlow' := hlow
  simp only [Text.isHighHalf, Text.isLowHalf, Bool.and_eq_true, decide_eq_true_eq] at hhigh' hlow'
  obtain ⟨a, b, c, d, hdigits, hunit⟩ := exists_digits (show high < 0x10000 by omega)
  obtain ⟨hleft, hsecond⟩ := (@secondHalf?_escape more e low (by omega)).1 hlow
  rw [hdigits, escapeUnit]
  simp only [List.cons_append, List.nil_append]
  refine ⟨by simp only [List.length_cons] at hleft ⊢; omega, ?_⟩
  simp only [readCodePoint, hunit, hhigh, hsecond]
  rfl

/-! ## Texts -/

theorem exists_written_cons (points : List Nat) (rest : List Char) :
    ∃ e more, points.flatMap escapePoint ++ '"' :: rest = e :: more :=
  List.exists_cons_of_ne_nil (List.append_ne_nil_of_right_ne_nil _ (List.cons_ne_nil _ _))

/-- What is written behind a first half does not start with a second half. -/
theorem noSecondHalf_written {points : List Nat} {rest : List Char}
    (hpoints : ∀ point ∈ points, point < 0x110000)
    (hfirst : ∀ point ∈ points.head?, ¬ Text.isLowHalf point) :
    NoSecondHalf (points.flatMap escapePoint ++ '"' :: rest) := by
  intro tail htail
  cases points with
  | nil => exact absurd (List.head_eq_of_cons_eq htail) (by decide)
  | cons point points =>
    have hpoint := hfirst point rfl
    obtain ⟨next, more, hmore⟩ := exists_written_cons points rest
    rw [List.flatMap_cons, List.append_assoc, hmore] at htail
    rcases escapePoint_cases (hpoints point List.mem_cons_self) with
      ⟨_, e, -, he, -, hwritten⟩ | ⟨_, -, -, hback, -, hwritten⟩ | ⟨hsmall, hwritten⟩ |
        ⟨high, low, hhigh, -, -, hwritten⟩
    · rw [hwritten, List.cons_append, List.cons.injEq] at htail
      rw [← htail.2]
      exact secondHalf?.eq_2 _ fun _ _ _ _ _ _ h => he (List.head_eq_of_cons_eq h)
    · rw [hwritten, List.cons_append, List.cons.injEq] at htail
      exact absurd htail.1 hback
    · rw [hwritten, escapeUnit, List.cons_append, List.cons.injEq] at htail
      rw [← htail.2, List.cons_append]
      exact (secondHalf?_escape hsmall).2 hpoint
    · rw [hwritten, escapeUnit, List.append_assoc, List.cons_append, List.cons.injEq] at htail
      simp only [Text.isHighHalf, Bool.and_eq_true, decide_eq_true_eq] at hhigh
      rw [← htail.2, List.cons_append]
      refine (secondHalf?_escape (by omega)).2 ?_
      simp only [Text.isLowHalf, Bool.and_eq_true, decide_eq_true_eq]
      omega

/-- **What is written is read back**, up to the closing quote and no further. -/
theorem reads_written (quoted rest : List Char) : ∀ {points : List Nat},
    (∀ point ∈ points, point < 0x110000) → Text.Apart points →
      Reads quoted (points.flatMap escapePoint ++ '"' :: rest) (points.flatMap Text.ofPoint) rest
  | [], _, _ => reads_end quoted rest
  | point :: points, hpoints, hapart => by
    obtain ⟨hpoint, hpoints⟩ := List.forall_mem_cons.1 hpoints
    have hbehind : Reads quoted (points.flatMap escapePoint ++ '"' :: rest)
        (points.flatMap Text.ofPoint) rest := reads_written quoted rest hpoints hapart.tail
    have hnone (hhigh : Text.isHighHalf point) :
        NoSecondHalf (points.flatMap escapePoint ++ '"' :: rest) := by
      refine noSecondHalf_written hpoints fun second hsecond hlow => ?_
      obtain ⟨points, rfl⟩ := List.head?_eq_some_iff.1 hsecond
      exact (List.isChain_cons_cons.1 hapart).1 ⟨hhigh, hlow⟩
    rw [List.flatMap_cons, List.flatMap_cons, List.append_assoc]
    obtain ⟨next, more, hmore⟩ := exists_written_cons points rest
    rw [hmore] at hbehind hnone ⊢
    rcases escapePoint_cases hpoint with ⟨c, e, hself, he, hc, hwritten⟩ |
        ⟨c, hself, hquote, hback, hvisible, hwritten⟩ | ⟨hsmall, hwritten⟩ |
        ⟨high, low, hhigh, hlow, hpair, hwritten⟩
    · rw [hwritten, hself]
      exact hbehind.short hc he
    · rw [hwritten, hself]
      exact hbehind.plain hquote hback hvisible
    · rw [hwritten, escapeUnit, List.cons_append, List.cons_append]
      exact hbehind.codePoint (readCodePoint_escape hsmall hnone)
    · have hread := @readCodePoint_pair more next high low hhigh hlow
      rw [hpair] at hread
      rw [hwritten, escapeUnit, List.append_assoc, List.cons_append, List.cons_append]
      exact hbehind.codePoint hread

theorem toList_writeText (s : String) :
    (writeText s).toList = '"' :: (escapeText s ++ ['"']) := by
  rw [writeText, String.toList_ofList, List.cons_append]

/-- **A written text is known by its characters**, and so is what stands behind it. -/
theorem toList_writeText_append_inj {s t : String} {rest rest' : List Char}
    (hs : Text.HalvesApart s) (ht : Text.HalvesApart t)
    (h : (writeText s).toList ++ rest = (writeText t).toList ++ rest') : s = t ∧ rest = rest' := by
  rw [toList_writeText, toList_writeText, List.cons_append, List.cons_append, List.cons.injEq,
    List.append_assoc, List.append_assoc, List.singleton_append, List.singleton_append] at h
  have hread := reads_written [] rest hs.1 hs.2
  rw [← escapeText, h.2] at hread
  obtain ⟨hchars, hrest⟩ := hread.unique (reads_written [] rest' ht.1 ht.2)
  rw [← Text.ofPoints_codePoints hs.1, ← Text.ofPoints_codePoints ht.1, Text.ofPoints,
    Text.ofPoints, hchars]
  exact ⟨rfl, hrest⟩

end Json
end ApiTypes
