/-
  Cutting and joining text.

  * `split` cuts a text at every separator, `join` puts pieces back with the
    separator between them; on pieces without the separator one undoes the
    other (`split_join`, `join_split`); of two texts behind each other only the
    pieces where they meet are joined (`exists_split_append`);
  * `strip` drops characters of a class from both ends;
  * `replaceAll` puts one text for every occurrence of another, found from the
    left and not overlapping; with the separator of pieces that do not hold it,
    it joins them with another (`replaceAll_join`).
-/

namespace ApiTypes.Text

/-! ## Pieces -/

/-- The pieces between the separators, one more than there are separators. -/
def split (sep : Char) (s : String) : List String :=
  (s.toList.splitOn sep).map String.ofList

/-- The pieces with `sep` between them. -/
def join (sep : String) (pieces : List String) : String :=
  sep.intercalate pieces

theorem toList_join (sep : String) (pieces : List String) :
    (join sep pieces).toList = sep.toList.intercalate (pieces.map String.toList) :=
  String.toList_intercalate

theorem exists_head_intercalate {s sep : String} {c : Char} {cs : List Char}
    (h : s.toList = c :: cs) (rest : List String) :
    ∃ ds, (sep.intercalate (s :: rest)).toList = c :: ds := by
  cases rest with
  | nil => exact ⟨cs, by simp [String.intercalate_singleton, h]⟩
  | cons t rest =>
    rw [String.intercalate_cons_cons]
    exact ⟨cs ++ (sep.toList ++ (sep.intercalate (t :: rest)).toList), by simp [h]⟩

/-- Pieces behind others go on with a separator. -/
theorem join_append (sep : String) {pieces more : List String} (hne : pieces ≠ [])
    (hmore : more ≠ []) : join sep (pieces ++ more) = join sep pieces ++ sep ++ join sep more := by
  induction pieces with
  | nil => exact absurd rfl hne
  | cons piece rest ih =>
    cases rest with
    | nil =>
      obtain ⟨first, more, rfl⟩ := List.exists_cons_of_ne_nil hmore
      exact String.intercalate_cons_cons
    | cons second rest =>
      have ih := ih (List.cons_ne_nil second rest)
      rw [join, join, List.cons_append] at ih
      rw [join, join, List.cons_append, List.cons_append, String.intercalate_cons_cons,
        String.intercalate_cons_cons, ih]
      simp only [String.append_assoc]

theorem split_ne_nil (sep : Char) (s : String) : split sep s ≠ [] := by
  simp [split, List.splitOn_ne_nil]

theorem map_toList_split (sep : Char) (s : String) :
    (split sep s).map String.toList = s.toList.splitOn sep := by
  simp [split]

/-- Cutting at a separator and joining with it gives the text back. -/
theorem join_split (sep : Char) (s : String) : join (String.singleton sep) (split sep s) = s := by
  apply String.toList_injective
  rw [toList_join, map_toList_split, String.toList_singleton, List.intercalate_splitOn]

/-- Joining pieces without the separator and cutting again gives the pieces back. -/
theorem split_join {sep : Char} {pieces : List String} (hne : pieces ≠ [])
    (h : ∀ p ∈ pieces, sep ∉ p.toList) :
    split sep (join (String.singleton sep) pieces) = pieces := by
  rw [split, toList_join, String.toList_singleton, List.splitOn_intercalate]
  · simp
  · simpa using h
  · simpa using hne

/-- A text without the separator is one piece. -/
theorem split_eq_singleton {sep : Char} {s : String} (h : sep ∉ s.toList) : split sep s = [s] := by
  rw [split, List.splitOn_eq_singleton h, List.map_singleton, String.ofList_toList]

/-- A separator between two texts parts their pieces. -/
theorem split_append_sep (sep : Char) (s t : String) :
    split sep (s ++ String.singleton sep ++ t) = split sep s ++ split sep t := by
  have hlist : (s ++ String.singleton sep ++ t).toList = s.toList ++ sep :: t.toList := by
    simp [String.toList_append]
  rw [split, hlist, List.splitOn_append_cons_self, List.map_append]
  rfl

theorem exists_splitOn_append (sep : Char) (cs ds : List Char) : ∃ front last first rest,
    cs.splitOn sep = front ++ [last] ∧ ds.splitOn sep = first :: rest ∧
      (cs ++ ds).splitOn sep = front ++ (last ++ first) :: rest := by
  obtain ⟨first, rest, hds⟩ := List.exists_cons_of_ne_nil (List.splitOn_ne_nil sep ds)
  induction cs with
  | nil => exact ⟨[], [], first, rest, rfl, hds, hds⟩
  | cons c cs ih =>
    obtain ⟨front, last, first, rest, hcs, hds, hboth⟩ := ih
    rw [List.cons_append, List.splitOn_cons_eq_if_modifyHead, List.splitOn_cons_eq_if_modifyHead,
      hcs, hboth]
    by_cases hc : (c == sep) = true
    · rw [if_pos hc, if_pos hc]
      exact ⟨[] :: front, last, first, rest, rfl, hds, rfl⟩
    · rw [if_neg hc, if_neg hc]
      cases front with
      | nil => exact ⟨[], c :: last, first, rest, rfl, hds, rfl⟩
      | cons piece front => exact ⟨(c :: piece) :: front, last, first, rest, rfl, hds, rfl⟩

/-- Where two texts meet, the last piece of the one goes on with the first of the other. -/
theorem exists_split_append (sep : Char) (s t : String) : ∃ front last first rest,
    split sep s = front ++ [last] ∧ split sep t = first :: rest ∧
      split sep (s ++ t) = front ++ (last ++ first) :: rest := by
  obtain ⟨front, last, first, rest, hs, ht, hboth⟩ := exists_splitOn_append sep s.toList t.toList
  refine ⟨front.map String.ofList, String.ofList last, String.ofList first,
    rest.map String.ofList, ?_, ?_, ?_⟩
  · rw [split, hs, List.map_append, List.map_singleton]
  · rw [split, ht, List.map_cons]
  · rw [split, String.toList_append, hboth, List.map_append, List.map_cons, String.ofList_append]

/-- The pieces hold what is not cut away, in order. -/
theorem flatten_splitOnP (cut : Char → Bool) (cs : List Char) :
    (cs.splitOnP cut).flatten = cs.filter (!cut ·) := by
  induction cs with
  | nil => rw [List.splitOnP_nil, List.flatten_singleton, List.filter_nil]
  | cons c cs ih =>
    rw [List.splitOnP_cons_eq_if_modifyHead]
    by_cases hc : cut c = true
    · rw [if_pos hc, List.flatten_cons, ih, List.nil_append, List.filter_cons_of_neg (by simp [hc])]
    · obtain ⟨piece, rest, hs⟩ := List.exists_cons_of_ne_nil (List.splitOnP_ne_nil cut cs)
      rw [hs, List.flatten_cons] at ih
      rw [if_neg hc, hs, List.modifyHead_cons, List.flatten_cons, List.cons_append, ih,
        List.filter_cons_of_pos (by simp [hc])]

/-- No character of a piece is one of those at which the text is cut. -/
theorem eq_false_of_mem_splitOnP {cut : Char → Bool} {cs piece : List Char}
    (h : piece ∈ cs.splitOnP cut) : ∀ c ∈ piece, cut c = false := by
  intro c hc
  have hmem : c ∈ (cs.splitOnP cut).flatten := List.mem_flatten.2 ⟨piece, h, hc⟩
  rw [flatten_splitOnP, List.mem_filter, Bool.not_eq_true'] at hmem
  exact hmem.2

/-- No piece holds the separator. -/
theorem not_mem_of_mem_split {sep : Char} {s p : String} (h : p ∈ split sep s) :
    sep ∉ p.toList := by
  obtain ⟨piece, hp, rfl⟩ := List.mem_map.1 h
  rw [String.toList_ofList]
  intro hsep
  simpa using eq_false_of_mem_splitOnP hp sep hsep

theorem not_mem_intercalate {sep : List Char} {c : Char} (hsep : c ∉ sep) :
    ∀ {pieces : List (List Char)}, (∀ p ∈ pieces, c ∉ p) → c ∉ sep.intercalate pieces
  | [], _ => by simp
  | [p], h => by simpa using h
  | p :: q :: rest, h => by
    have ih := not_mem_intercalate hsep fun x (hx : x ∈ q :: rest) => h x (List.mem_cons_of_mem _ hx)
    have hp := h p List.mem_cons_self
    rw [List.intercalate_cons_cons]
    simp only [List.mem_append, not_or]
    exact ⟨⟨hp, hsep⟩, ih⟩

/-- A character that is neither in the separator nor in a piece is not in the whole. -/
theorem not_mem_join {sep : String} {pieces : List String} {c : Char} (hsep : c ∉ sep.toList)
    (h : ∀ p ∈ pieces, c ∉ p.toList) : c ∉ (join sep pieces).toList := by
  rw [toList_join]
  exact not_mem_intercalate hsep (List.forall_mem_map.2 h)

/-! ## Ends -/

/-- The text without the characters of a class at both ends. -/
def strip (drop : Char → Bool) (s : String) : String :=
  String.ofList (((s.toList.dropWhile drop).reverse.dropWhile drop).reverse)

/-! ## Replacement -/

/-- Puts `new` for every occurrence of `old` in a text whose first `skip`
characters belong to an occurrence already replaced. -/
def replaceChars (old new : List Char) : (skip : Nat) → List Char → List Char
  | _, [] => []
  | skip + 1, _ :: rest => replaceChars old new skip rest
  | 0, c :: rest =>
    if old.isPrefixOf (c :: rest) then new ++ replaceChars old new (old.length - 1) rest
    else c :: replaceChars old new 0 rest

/-- Puts `new` for every occurrence of the non-empty text `old`. -/
def replaceAll (old new s : String) : String :=
  String.ofList (replaceChars old.toList new.toList 0 s.toList)

/-- Every occurrence of a character is replaced, and nothing else changes. -/
theorem replaceChars_singleton (c : Char) (new cs : List Char) :
    replaceChars [c] new 0 cs = cs.flatMap fun d => if d = c then new else [d] := by
  induction cs with
  | nil => rfl
  | cons d cs ih =>
    rw [List.flatMap_cons, replaceChars, ← ih]
    by_cases h : d = c
    · simp [h]
    · simp [h, Ne.symm h]

theorem replaceChars_skip (old new before rest : List Char) :
    replaceChars old new before.length (before ++ rest) = replaceChars old new 0 rest := by
  induction before with
  | nil => rfl
  | cons c before ih => exact ih

section

variable {c : Char} {old new before rest : List Char}

/-- Characters with which no occurrence starts are kept. -/
theorem replaceChars_append (h : c ∉ before) :
    replaceChars (c :: old) new 0 (before ++ rest) =
      before ++ replaceChars (c :: old) new 0 rest := by
  induction before with
  | nil => rfl
  | cons d before ih =>
    rw [List.mem_cons, not_or] at h
    simp [replaceChars, h.1, ih h.2]

theorem replaceChars_of_not_mem {cs : List Char} (h : c ∉ cs) : replaceChars [c] new 0 cs = cs := by
  simpa [replaceChars] using @replaceChars_append c [] new cs [] h

/-- An occurrence is replaced. -/
theorem replaceChars_occurrence :
    replaceChars (c :: old) new 0 (c :: old ++ rest) =
      new ++ replaceChars (c :: old) new 0 rest := by
  have hprefix : (c :: old).isPrefixOf (c :: (old ++ rest)) = true :=
    List.isPrefixOf_iff_prefix.2 (List.prefix_append (c :: old) rest)
  rw [List.cons_append, replaceChars, if_pos hprefix]
  exact congrArg (new ++ ·) (replaceChars_skip (c :: old) new old rest)

end

theorem replaceChars_intercalate {c : Char} (new : List Char) : ∀ {pieces : List (List Char)},
    (∀ p ∈ pieces, c ∉ p) → replaceChars [c] new 0 ([c].intercalate pieces) = new.intercalate pieces
  | [], _ => rfl
  | [p], h => by
    rw [List.intercalate_singleton, List.intercalate_singleton,
      replaceChars_of_not_mem (h p List.mem_cons_self)]
  | p :: q :: rest, h => by
    have ih := replaceChars_intercalate new fun x (hx : x ∈ q :: rest) => h x (List.mem_cons_of_mem p hx)
    rw [List.intercalate_cons_cons, List.intercalate_cons_cons, List.append_assoc,
      List.append_assoc, replaceChars_append (h p List.mem_cons_self), replaceChars_occurrence, ih]

/-- Replacing the separator of pieces that do not hold it joins them with another. -/
theorem replaceAll_join {sep : Char} (new : String) {pieces : List String}
    (h : ∀ p ∈ pieces, sep ∉ p.toList) :
    replaceAll (String.singleton sep) new (join (String.singleton sep) pieces) = join new pieces := by
  apply String.toList_injective
  rw [replaceAll, String.toList_ofList, toList_join, toList_join, String.toList_singleton]
  exact replaceChars_intercalate new.toList (by simpa using h)

end ApiTypes.Text
