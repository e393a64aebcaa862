/-
  Texts as code points.

  A text is a list of code points, and not all of these are characters: half of a surrogate
  pair (d800 to dfff) may stand alone.  A text is kept in characters all the same.  The last
  code point of all is a mark: with a character of the last plane behind it, it stands for the
  half that is 0x100000 below, and two marks stand for the code point of the mark.  All other
  characters stand for themselves.

  * `codePoints`: the code points of a text, by which texts are sorted, and `ofPoints` the
    text of code points (`codePoints_ofPoints`);
  * `codePoints_injective`: a text is known by its code points;
  * `bytes?`: the bytes of a text, which it has if all its code points are characters;
    no two texts have the same (`bytes?_inj`).
-/

namespace ApiTypes.Text

/-! ## Halves of surrogate pairs -/

/-- The first half of a surrogate pair. -/
def isHighHalf (unit : Nat) : Bool := 0xd800 ≤ unit && unit < 0xdc00

/-- The second half of a surrogate pair. -/
def isLowHalf (unit : Nat) : Bool := 0xdc00 ≤ unit && unit < 0xe000

/-- The code point of both halves of a pair. -/
def ofPair (high low : Nat) : Nat := 0x10000 + (high - 0xd800) * 0x400 + (low - 0xdc00)

/-! ## Texts -/

/-- What stands in front of a character that does not stand for itself. -/
def mark : Char := Char.ofNat 0x10ffff

/-- How far above a half the character lies that stands for it behind a mark. -/
def halfDistance : Nat := 0x100000

/-- The characters that stand for a code point. -/
def ofPoint (point : Nat) : List Char :=
  if isHighHalf point || isLowHalf point then [mark, Char.ofNat (point + halfDistance)]
  else if point = 0x10ffff then [mark, mark]
  else [Char.ofNat point]

/-- The text of code points. -/
def ofPoints (points : List Nat) : String := String.ofList (points.flatMap ofPoint)

/-- The text of characters. -/
def ofChars (cs : List Char) : String := ofPoints (cs.map Char.toNat)

/-- The half that a character stands for behind a mark. -/
def half? (c : Char) : Option Nat :=
  if isHighHalf (c.toNat - halfDistance) || isLowHalf (c.toNat - halfDistance) then
    some (c.toNat - halfDistance)
  else none

/-- The code point that two characters stand for together. -/
def together? (c d : Char) : Option Nat :=
  if c ≠ mark then none
  else if d = mark then some 0x10ffff
  else half? d

/-- The code point that a character stands for alone; a mark alone stands for none. -/
def alone (c : Char) : Nat := if c = mark then 0x110000 else c.toNat

/-- The code points of the characters of a text. -/
def points : List Char → List Nat
  | [] => []
  | [c] => [alone c]
  | c :: d :: rest =>
    match together? c d with
    | some point => point :: points rest
    | none => alone c :: points (d :: rest)

/-- The code points of a text. -/
def codePoints (s : String) : List Nat := points s.toList

/-- The characters of a text, unless there is something else in it. -/
def chars? (s : String) : Option (List Char) :=
  if (codePoints s).all fun point => point.isValidChar then some ((codePoints s).map Char.ofNat)
  else none

/-- The bytes of a text of characters. -/
def bytes? (s : String) : Option ByteArray := (chars? s).map fun cs => (String.ofList cs).toUTF8

/-! ## Code points are read back -/

variable {c d : Char} {cs ds : List Char} {point : Nat} {s t : String}

theorem toNat_ofNat_of_isValidChar {n : Nat} (h : n.isValidChar) : (Char.ofNat n).toNat = n := by
  rw [Char.ofNat, dif_pos h]
  rfl

theorem toNat_mark : mark.toNat = 0x10ffff := rfl

theorem eq_mark_iff : c = mark ↔ c.toNat = 0x10ffff :=
  ⟨fun h => h ▸ toNat_mark, fun h => Char.toNat_inj.1 (h.trans toNat_mark.symm)⟩

/-- A character is no half of a pair. -/
theorem toNat_not_half (c : Char) : c.toNat < 0xd800 ∨ 0xe000 ≤ c.toNat :=
  c.valid.imp_right fun h => Nat.succ_le_of_lt h.1

theorem toNat_lt (c : Char) : c.toNat < 0x110000 := by
  rcases c.valid with h | h
  · exact Nat.lt_trans h (by decide)
  · exact h.2

theorem isHalf_iff : (isHighHalf point || isLowHalf point) = true ↔
    0xd800 ≤ point ∧ point < 0xe000 := by
  simp only [isHighHalf, isLowHalf, Bool.or_eq_true, Bool.and_eq_true, decide_eq_true_eq]
  omega

theorem together?_of_ne (h : c ≠ mark) (d : Char) : together? c d = none := if_pos h

theorem alone_of_ne (h : c ≠ mark) : alone c = c.toNat := if_neg h

/-- What follows a character does not change it, if both stand for nothing together. -/
theorem points_cons (h : ∀ d ∈ cs.head?, together? c d = none) :
    points (c :: cs) = alone c :: points cs := by
  cases cs with
  | nil => rfl
  | cons d rest => rw [points, h d rfl]

theorem points_cons_of_ne (h : c ≠ mark) : points (c :: cs) = c.toNat :: points cs := by
  rw [points_cons fun d _ => together?_of_ne h d, alone_of_ne h]

/-- What follows a character that is no mark does not change it. -/
theorem points_append (h : mark ∉ cs) (ds : List Char) :
    points (cs ++ ds) = cs.map Char.toNat ++ points ds := by
  induction cs with
  | nil => rfl
  | cons c cs ih =>
    obtain ⟨hc, hcs⟩ := not_or.1 (mt List.mem_cons.2 h)
    rw [List.cons_append, points_cons_of_ne (Ne.symm hc), ih hcs, List.map_cons, List.cons_append]

theorem points_eq_map (h : mark ∉ cs) : points cs = cs.map Char.toNat := by
  have happend := points_append h []
  rwa [List.append_nil, points, List.append_nil] at happend

theorem ne_mark_of_lt (h : c.toNat < halfDistance) : c ≠ mark := fun heq => by
  rw [heq] at h
  exact absurd h (by decide)

/-- A character below the last plane stands for nothing together with the one in front. -/
theorem together?_of_lt (h : d.toNat < halfDistance) (c : Char) : together? c d = none := by
  have hhalf : half? d = none := by
    rw [half?, if_neg]
    rw [isHalf_iff, Nat.sub_eq_zero_of_le (Nat.le_of_lt h)]
    omega
  rw [together?, if_neg (ne_mark_of_lt h), hhalf, ite_self]

/-- Hence a text can be cut in front of such a character. -/
theorem points_append_cons (h : c.toNat < halfDistance) (cs ds : List Char) :
    points (cs ++ c :: ds) = points cs ++ c.toNat :: points ds := by
  have hmark := ne_mark_of_lt h
  fun_induction points cs with
  | case1 => exact points_cons_of_ne hmark
  | case2 b =>
    rw [List.singleton_append, points, together?_of_lt h]
    exact congrArg _ (points_cons_of_ne hmark)
  | case3 b d rest point hpoint ih =>
    rw [List.cons_append, List.cons_append, points, hpoint, ih, List.cons_append]
  | case4 b d rest hnone ih =>
    rw [List.cons_append, List.cons_append, points, hnone, List.cons_append, ← ih, List.cons_append]

/-- **One code point** is read back in front of whatever follows. -/
theorem points_ofPoint_append (h : point < 0x110000) (cs : List Char) :
    points (ofPoint point ++ cs) = point :: points cs := by
  unfold ofPoint
  split
  · next hhalf =>
    have hrange := isHalf_iff.1 hhalf
    have hvalid : (point + halfDistance).isValidChar := by
      simp only [Nat.isValidChar, halfDistance]
      omega
    have hback : (Char.ofNat (point + halfDistance)).toNat - halfDistance = point := by
      rw [toNat_ofNat_of_isValidChar hvalid, Nat.add_sub_cancel]
    have hmark : Char.ofNat (point + halfDistance) ≠ mark := fun heq => by
      rw [eq_mark_iff, toNat_ofNat_of_isValidChar hvalid, halfDistance] at heq
      omega
    have htogether : together? mark (Char.ofNat (point + halfDistance)) = some point := by
      rw [together?, if_neg (not_not_intro rfl), if_neg hmark, half?, hback, if_pos hhalf]
    rw [List.cons_append, List.cons_append, points, htogether]
    rfl
  split
  · next hlast =>
    rw [hlast]
    rfl
  · next hhalf hlast =>
    have hvalid : point.isValidChar := by
      rw [isHalf_iff] at hhalf
      simp only [Nat.isValidChar]
      omega
    have hmark : Char.ofNat point ≠ mark := fun heq => by
      rw [eq_mark_iff, toNat_ofNat_of_isValidChar hvalid] at heq
      exact hlast heq
    rw [List.singleton_append, points_cons_of_ne hmark, toNat_ofNat_of_isValidChar hvalid]

theorem points_flatMap_ofPoint : ∀ {ps : List Nat}, (∀ point ∈ ps, point < 0x110000) →
    points (ps.flatMap ofPoint) = ps
  | [], _ => rfl
  | p :: ps, h => by
    obtain ⟨hp, hps⟩ := List.forall_mem_cons.1 h
    rw [List.flatMap_cons, points_ofPoint_append hp, points_flatMap_ofPoint hps]

/-- **The text of code points** has these code points. -/
theorem codePoints_ofPoints {ps : List Nat} (h : ∀ point ∈ ps, point < 0x110000) :
    codePoints (ofPoints ps) = ps := by
  rw [codePoints, ofPoints, String.toList_ofList, points_flatMap_ofPoint h]

theorem codePoints_ofChars (cs : List Char) : codePoints (ofChars cs) = cs.map Char.toNat :=
  codePoints_ofPoints (List.forall_mem_map.2 fun c _ => toNat_lt c)

/-- Characters that are no marks are the text of themselves. -/
theorem ofChars_eq_ofList (h : mark ∉ cs) : ofChars cs = String.ofList cs := by
  have hself : ∀ c ∈ cs, ofPoint c.toNat = [c] := fun c hc => by
    have hrange := toNat_not_half c
    have hmark : c.toNat ≠ 0x10ffff := fun heq => h (eq_mark_iff.2 heq ▸ hc)
    rw [ofPoint, if_neg (by rw [isHalf_iff]; omega), if_neg hmark, Char.ofNat_toNat]
  rw [ofChars, ofPoints, List.flatMap_map, List.flatMap_def, List.map_congr_left hself,
    ← List.flatMap_def, List.flatMap_singleton']

/-! ## Texts are known by their code points -/

/-- The characters that a code point is read from. -/
def spelled (point : Nat) : List Char := if point = 0x110000 then [mark] else ofPoint point

theorem spelled_alone (c : Char) : spelled (alone c) = [c] := by
  unfold alone
  split
  · next h => rw [h]; rfl
  · next h =>
    have hc := toNat_not_half c
    have hlt := toNat_lt c
    rw [spelled, if_neg (by omega), ofPoint, if_neg (by rw [isHalf_iff]; omega),
      if_neg (mt eq_mark_iff.2 h), Char.ofNat_toNat]

theorem spelled_of_together? (h : together? c d = some point) : spelled point = [c, d] := by
  unfold together? at h
  split at h
  · exact absurd h nofun
  next hc =>
  obtain rfl := Decidable.not_not.1 hc
  split at h
  · next hd =>
    rw [hd, ← Option.some.inj h]
    rfl
  unfold half? at h
  split at h
  · next hhalf =>
    obtain rfl := Option.some.inj h
    have hrange := isHalf_iff.1 hhalf
    have hback : d.toNat - halfDistance + halfDistance = d.toNat := by omega
    rw [spelled, if_neg (by omega), ofPoint, if_pos hhalf, hback, Char.ofNat_toNat]
  · exact absurd h nofun

theorem flatMap_spelled_points (cs : List Char) : (points cs).flatMap spelled = cs := by
  fun_induction points cs with
  | case1 => rfl
  | case2 c => rw [List.flatMap_singleton, spelled_alone]
  | case3 c d rest point hpoint ih =>
    rw [List.flatMap_cons, spelled_of_together? hpoint, ih]
    rfl
  | case4 c d rest _ ih =>
    rw [List.flatMap_cons, spelled_alone, ih]
    rfl

theorem codePoints_injective {s t : String} (h : codePoints s = codePoints t) : s = t := by
  rw [← String.toList_inj, ← flatMap_spelled_points s.toList, ← flatMap_spelled_points t.toList]
  exact congrArg _ h

/-- A text without a mark alone is the text of its code points. -/
theorem ofPoints_codePoints (h : ∀ point ∈ codePoints s, point < 0x110000) :
    ofPoints (codePoints s) = s := codePoints_injective (codePoints_ofPoints h)

/-! ## Characters and bytes -/

/-- A text without marks is the text of the characters that stand in it. -/
theorem chars?_of_not_mem (h : mark ∉ s.toList) : chars? s = some s.toList := by
  have hpoints : codePoints s = s.toList.map Char.toNat := points_eq_map h
  have hchars : (codePoints s).map Char.ofNat = s.toList := by
    rw [hpoints, List.map_map]
    exact (List.map_congr_left fun c _ => Char.ofNat_toNat c).trans (List.map_id _)
  have hvalid : (codePoints s).all (fun point => point.isValidChar) = true := by
    rw [hpoints, List.all_map]
    refine List.all_eq_true.2 fun c _ => decide_eq_true ?_
    exact (toNat_not_half c).imp_right fun h => ⟨h, toNat_lt c⟩
  rw [chars?, if_pos hvalid, hchars]

theorem bytes?_of_not_mem (h : mark ∉ s.toList) : bytes? s = some s.toUTF8 := by
  rw [bytes?, chars?_of_not_mem h, Option.map_some, String.ofList_toList]

theorem eq_ofChars_of_chars? (h : chars? s = some cs) : s = ofChars cs := by
  unfold chars? at h
  split at h
  · next hvalid =>
    have hback : ((codePoints s).map Char.ofNat).map Char.toNat = codePoints s := by
      rw [List.map_map]
      refine (List.map_congr_left fun point hpoint => ?_).trans (List.map_id _)
      exact toNat_ofNat_of_isValidChar (of_decide_eq_true (List.all_eq_true.1 hvalid point hpoint))
    refine codePoints_injective ?_
    rw [← Option.some.inj h, codePoints_ofChars, hback]
  · exact absurd h nofun

/-- **Texts with the same bytes** are the same. -/
theorem bytes?_inj {bytes : ByteArray} (hs : bytes? s = some bytes) (ht : bytes? t = some bytes) :
    s = t := by
  obtain ⟨cs, hcs, hbytes⟩ := Option.map_eq_some_iff.1 hs
  obtain ⟨ds, hds, hbytes'⟩ := Option.map_eq_some_iff.1 ht
  rw [eq_ofChars_of_chars? hcs, eq_ofChars_of_chars? hds,
    String.ofList_injective (String.toByteArray_inj.1 (hbytes.trans hbytes'.symm))]

end ApiTypes.Text
