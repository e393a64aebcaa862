/-
  The text of a tree of URLs is faithful.

  `render` writes the entries of a tree in the order of their keys, one folder inside the other.
  A tree is `Legible` if no key stands twice in a folder, as in a table, the keys are written
  bare, and the halves of surrogate pairs in a URL stand apart.  A text of characters holds no
  such halves, so that the URLs may be all of these (`Text.halvesApart_ofChars`); folders may be
  empty.

  * `inOrder_perm`: the order of different keys does not show in the text, so that trees which
    are the same up to order have one text (`SameUpToOrder.render_eq`);
  * `entry_inj`: one entry is known by its characters, if its folder is, and so is what stands
    behind it;
  * `entries_inj`: hence so are entries in their order, where no entry follows;
  * `render_inj`: hence so is a tree of any depth, by induction on the folders inside it
    (`induction_folders`), since sorting only moves its entries.

  Together they say when two trees have the same text (`render_eq_iff`).
-/
import ApiTypes.Proofs.UrlTree.Contents
import ApiTypes.Proofs.WrittenText
import ApiTypes.TypeExpr
import Mathlib.Data.List.Nodup

namespace ApiTypes.UrlTree

open Text (HalvesApart codePoints)

/-! ## Legible trees -/

/-- No key stands twice in a folder, keys are written bare, and the halves in a URL stand
    apart, as in every text of characters, at any depth. -/
inductive Legible : List (String × UrlTree) → Prop
  | nil : Legible []
  | url {key path rest} : isBare key → HalvesApart path → key ∉ Entries.keys rest →
      Legible rest → Legible ((key, .url path) :: rest)
  | folder {key inner rest} : isBare key → Legible inner → key ∉ Entries.keys rest →
      Legible rest → Legible ((key, .folder inner) :: rest)

theorem Legible.keys_nodup {entries : List (String × UrlTree)} (h : Legible entries) :
    (Entries.keys entries).Nodup := by
  induction h with
  | nil => exact .nil
  | url _ _ hkey _ ih => exact List.nodup_cons.2 ⟨hkey, ih⟩
  | folder _ _ hkey _ _ ih => exact List.nodup_cons.2 ⟨hkey, ih⟩

/-- A tree under a key: the key is written bare, and the tree is legible. -/
def LegibleEntry : String × UrlTree → Prop
  | (key, .url path) => isBare key ∧ HalvesApart path
  | (key, .folder inner) => isBare key ∧ Legible inner

theorem LegibleEntry.isBare {e : String × UrlTree} (h : LegibleEntry e) : isBare e.1 := by
  obtain ⟨key, path | inner⟩ := e
  · exact h.1
  · exact h.1

theorem Legible.entry {entries : List (String × UrlTree)} (h : Legible entries) :
    ∀ e ∈ entries, LegibleEntry e := by
  induction h with
  | nil => exact nofun
  | url hbare hpath _ _ ih => exact List.forall_mem_cons.2 ⟨⟨hbare, hpath⟩, ih⟩
  | folder hbare hinner _ _ _ ih => exact List.forall_mem_cons.2 ⟨⟨hbare, hinner⟩, ih⟩

/-! ## The order of keys -/

/-- Whether an entry may stand before another one. -/
def before {α : Type} (a b : String × α) : Bool := !decide (codePoints b.1 < codePoints a.1)

theorem before_iff {α : Type} {a b : String × α} :
    before a b ↔ ¬ codePoints b.1 < codePoints a.1 := by
  rw [before, Bool.not_eq_true', decide_eq_false_iff_not]

theorem pairwise_before {α : Type} (entries : List (String × α)) :
    (entries.mergeSort before).Pairwise fun a b => before a b := by
  refine List.pairwise_mergeSort (fun a b c hab hbc => ?_) (fun a b => ?_) entries
  · have hab := List.not_lt.1 (before_iff.1 hab)
    have hbc := List.not_lt.1 (before_iff.1 hbc)
    exact before_iff.2 (List.not_lt.2 (List.le_trans hab hbc))
  · rw [Bool.or_eq_true, before_iff, before_iff, List.not_lt, List.not_lt]
    exact List.le_total _ _

/-- The order of entries with different keys is forgotten when they are sorted. -/
theorem mergeSort_before_perm {α : Type} {xs ys : List (String × α)}
    (hnodup : (Entries.keys xs).Nodup) (h : xs.Perm ys) :
    xs.mergeSort before = ys.mergeSort before := by
  have hxs := List.mergeSort_perm xs before
  have hys := List.mergeSort_perm ys before
  refine List.Perm.eq_of_pairwise (fun a b ha hb hab hba => ?_) (pairwise_before xs)
    (pairwise_before ys) (hxs.trans (h.trans hys.symm))
  have hab := List.not_lt.1 (before_iff.1 hab)
  have hba := List.not_lt.1 (before_iff.1 hba)
  have hkey : a.1 = b.1 := Text.codePoints_injective (List.le_antisymm hab hba)
  exact List.inj_on_of_nodup_map hnodup (hxs.mem_iff.1 ha) (h.mem_iff.2 (hys.mem_iff.1 hb)) hkey

theorem inOrder_perm {texts texts' : List (String × String)}
    (hnodup : (Entries.keys texts).Nodup) (h : texts.Perm texts') :
    inOrder texts = inOrder texts' :=
  congrArg (List.map Prod.snd) (mergeSort_before_perm hnodup h)

theorem renderEntries_eq_map (depth : Int) (entries : List (String × UrlTree)) :
    renderEntries depth entries = entries.map fun e => (e.1, renderEntry depth e.1 e.2) := by
  induction entries with
  | nil => rw [renderEntries]; rfl
  | cons e rest ih =>
    obtain ⟨key, tree⟩ := e
    rw [renderEntries, ih]
    rfl

theorem keys_renderEntries (depth : Int) (entries : List (String × UrlTree)) :
    Entries.keys (renderEntries depth entries) = Entries.keys entries := by
  rw [renderEntries_eq_map, Entries.keys, List.map_map]
  rfl

/-- The entries of a tree are written as they stand when they are sorted. -/
theorem inOrder_renderEntries (depth : Int) (entries : List (String × UrlTree)) :
    inOrder (renderEntries depth entries) =
      (entries.mergeSort before).map fun e => renderEntry depth e.1 e.2 := by
  have hsorted := List.map_mergeSort (r := before) (s := before) (l := entries)
    (f := fun e : String × UrlTree => (e.1, renderEntry depth e.1 e.2)) fun _ _ _ _ => rfl
  rw [renderEntries_eq_map]
  show ((entries.map _).mergeSort before).map _ = _
  rw [← hsorted, List.map_map]
  rfl

/-! ## Reordered trees -/

theorem SameUpToOrder.keys_perm {xs ys : List (String × UrlTree)} (h : SameUpToOrder xs ys) :
    (Entries.keys xs).Perm (Entries.keys ys) := by
  induction h with
  | nil => exact .nil
  | url _ ih => exact ih.cons _
  | folder _ _ _ ih => exact ih.cons _
  | swap a b xs => exact .swap b.1 a.1 _
  | trans _ _ ih₁ ih₂ => exact ih₁.trans ih₂

theorem SameUpToOrder.symm {xs ys : List (String × UrlTree)} (h : SameUpToOrder xs ys) :
    SameUpToOrder ys xs := by
  induction h with
  | nil => exact .nil
  | url _ ih => exact .url ih
  | folder _ _ ihinner ih => exact .folder ihinner ih
  | swap a b xs => exact .swap b a xs
  | trans _ _ ih₁ ih₂ => exact .trans ih₂ ih₁

theorem legible_cons_iff {e : String × UrlTree} {rest : List (String × UrlTree)} :
    Legible (e :: rest) ↔ LegibleEntry e ∧ e.1 ∉ Entries.keys rest ∧ Legible rest := by
  constructor
  · intro h
    cases h with
    | url hbare hpath hkey hrest => exact ⟨⟨hbare, hpath⟩, hkey, hrest⟩
    | folder hbare hinner hkey hrest => exact ⟨⟨hbare, hinner⟩, hkey, hrest⟩
  · obtain ⟨key, path | inner⟩ := e
    · rintro ⟨⟨hbare, hpath⟩, hkey, hrest⟩
      exact .url hbare hpath hkey hrest
    · rintro ⟨⟨hbare, hinner⟩, hkey, hrest⟩
      exact .folder hbare hinner hkey hrest

theorem SameUpToOrder.legible {xs ys : List (String × UrlTree)} (h : SameUpToOrder xs ys)
    (hx : Legible xs) : Legible ys := by
  induction h with
  | nil => exact .nil
  | url hrest ih =>
    obtain ⟨hentry, hkey, hx⟩ := legible_cons_iff.1 hx
    exact legible_cons_iff.2 ⟨hentry, fun hmem => hkey (hrest.keys_perm.mem_iff.2 hmem), ih hx⟩
  | folder _ hrest ihinner ih =>
    obtain ⟨⟨hbare, hinner⟩, hkey, hx⟩ := legible_cons_iff.1 hx
    exact legible_cons_iff.2
      ⟨⟨hbare, ihinner hinner⟩, fun hmem => hkey (hrest.keys_perm.mem_iff.2 hmem), ih hx⟩
  | swap a b xs =>
    obtain ⟨ha, hnot, hbx⟩ := legible_cons_iff.1 hx
    obtain ⟨hb, hnot', hx⟩ := legible_cons_iff.1 hbx
    simp only [Entries.keys, List.map_cons, List.mem_cons, not_or] at hnot
    refine legible_cons_iff.2 ⟨hb, ?_, legible_cons_iff.2 ⟨ha, hnot.2, hx⟩⟩
    simpa [Entries.keys, eq_comm, hnot.1] using hnot'
  | trans _ _ ih₁ ih₂ => exact ih₂ (ih₁ hx)

/-- **Reordered trees** have the same entries' texts, in some order. -/
theorem SameUpToOrder.renderEntries_perm {xs ys : List (String × UrlTree)}
    (h : SameUpToOrder xs ys) (hx : Legible xs) :
    ∀ depth, (renderEntries depth xs).Perm (renderEntries depth ys) := by
  induction h with
  | nil => exact fun depth => .refl _
  | url _ ih =>
    intro depth
    rw [renderEntries, renderEntries]
    exact (ih (legible_cons_iff.1 hx).2.2 depth).cons _
  | @folder key inner inner' _ _ _ _ ihinner ih =>
    intro depth
    obtain ⟨⟨-, hinner⟩, -, hrest⟩ := legible_cons_iff.1 hx
    have htext :
        renderEntry depth key (.folder inner) = renderEntry depth key (.folder inner') := by
      have hnodup := hinner.keys_nodup
      rw [← keys_renderEntries (depth + 1)] at hnodup
      rw [renderEntry, renderEntry, inOrder_perm hnodup (ihinner hinner _)]
    rw [renderEntries, renderEntries, htext]
    exact (ih hrest depth).cons _
  | swap a b xs =>
    intro depth
    simp only [renderEntries_eq_map, List.map_cons]
    exact .swap _ _ _
  | trans hxy _ ih₁ ih₂ => exact fun depth => (ih₁ hx depth).trans (ih₂ (hxy.legible hx) depth)

theorem SameUpToOrder.render_eq {xs ys : List (String × UrlTree)} (h : SameUpToOrder xs ys)
    (hx : Legible xs) (depth : Int) : render xs depth = render ys depth := by
  have hnodup := hx.keys_nodup
  rw [← keys_renderEntries depth] at hnodup
  rw [render, render, inOrder_perm hnodup (h.renderEntries_perm hx depth)]

/-! ## Entries -/

/-- The characters of an entry. -/
def entryChars (depth : Int) (e : String × UrlTree) : List Char :=
  (renderEntry depth e.1 e.2).toList

/-- The characters of entries behind another one, and what stands behind them all. -/
def continued (depth : Int) (es : List (String × UrlTree)) (rest : List Char) : List Char :=
  es.flatMap (fun e => ',' :: '\n' :: entryChars depth e) ++ rest

/-- The characters of entries in their order, and what stands behind them. -/
def written (depth : Int) : List (String × UrlTree) → List Char → List Char
  | [], rest => rest
  | e :: es, rest => entryChars depth e ++ continued depth es rest

/-- No entry follows: the text is at its end, or the line is. -/
def Stops (rest : List Char) : Prop := ∀ c ∈ rest.head?, c = '\n'

theorem continued_cons (depth : Int) (e : String × UrlTree) (es : List (String × UrlTree))
    (rest : List Char) :
    continued depth (e :: es) rest = ',' :: '\n' :: written depth (e :: es) rest := by
  simp [continued, written]

theorem stops_newline (rest : List Char) : Stops ('\n' :: rest) :=
  fun _ hc => (Option.some.inj hc).symm

theorem intercalate_cons {α : Type} (sep piece : List α) : ∀ pieces : List (List α),
    sep.intercalate (piece :: pieces) = piece ++ pieces.flatMap (sep ++ ·)
  | [] => by rw [List.intercalate_singleton, List.flatMap_nil, List.append_nil]
  | next :: pieces => by
    rw [List.intercalate_cons_cons, intercalate_cons sep next pieces, List.flatMap_cons,
      List.append_assoc, List.append_assoc]

theorem toList_render_append (entries : List (String × UrlTree)) (depth : Int)
    (rest : List Char) :
    (render entries depth).toList ++ rest = written depth (entries.mergeSort before) rest := by
  rw [render, inOrder_renderEntries, Text.toList_join, List.map_map]
  cases entries.mergeSort before with
  | nil => rfl
  | cons e es =>
    rw [List.map_cons, intercalate_cons, List.flatMap_map, written, continued, List.append_assoc]
    rfl

/-- The characters of what stands behind a key. -/
def valueChars (depth : Int) : UrlTree → List Char
  | .url path => (Json.writeText path).toList
  | .folder inner =>
    '\x7b' :: '\n' ::
      ((render inner (depth + 1)).toList ++ '\n' :: ((pad depth).toList ++ ['\x7d']))

theorem entryChars_eq (depth : Int) (e : String × UrlTree) :
    entryChars depth e =
      (pad depth).toList ++ (e.1.toList ++ ':' :: ' ' :: valueChars depth e.2) := by
  obtain ⟨key, path | inner⟩ := e
  · simp [entryChars, renderEntry, valueChars]
  · simp [entryChars, renderEntry, valueChars, render]

/-- A bare key starts like an identifier and goes on like one, up to one line end behind it. -/
theorem exists_cons_of_isBare {key : String} (h : isBare key) : ∃ c cs, key.toList = c :: cs ∧
    isIdentifierStart c ∧ ∀ d ∈ cs, isIdentifierPart d ∨ d = '\n' := by
  rw [isBare, Bool.or_eq_true, Bool.and_eq_true, beq_iff_eq] at h
  rcases h with h | ⟨hlast, h⟩
  · cases hkey : key.toList with
    | nil => rw [hkey] at h; exact absurd h (by decide)
    | cons c cs =>
      rw [hkey, isIdentifier, Bool.and_eq_true, List.all_eq_true] at h
      exact ⟨c, cs, rfl, h.1, fun d hd => .inl (h.2 d hd)⟩
  · obtain ⟨front, hfront⟩ := List.getLast?_eq_some_iff.1 hlast
    rw [hfront, List.dropLast_concat] at h
    cases front with
    | nil => exact absurd h (by decide)
    | cons c cs =>
      rw [isIdentifier, Bool.and_eq_true, List.all_eq_true] at h
      refine ⟨c, cs ++ ['\n'], hfront, h.1, List.forall_mem_append.2 ⟨fun d hd => ?_, ?_⟩⟩
      · exact .inl (h.2 d hd)
      · exact List.forall_mem_singleton.2 (.inr rfl)

theorem colon_not_mem_of_isBare {key : String} (h : isBare key) : ':' ∉ key.toList := by
  obtain ⟨c, cs, hkey, hc, hcs⟩ := exists_cons_of_isBare h
  rw [hkey, List.mem_cons]
  rintro (rfl | hmem)
  · exact absurd hc (by decide)
  · exact absurd (hcs ':' hmem) (by decide)

theorem eq_space_of_mem_pad {depth : Int} {c : Char} : c ∈ (pad depth).toList → c = ' ' := by
  rw [pad, String.pushn_eq_repeat_push]
  induction 2 * (depth + 1).toNat with
  | zero => exact fun h => absurd h List.not_mem_nil
  | succ n ih =>
    rw [Nat.repeat, String.toList_push, List.mem_append, List.mem_singleton]
    rintro (h | h)
    · exact ih h
    · exact h

/-- An entry does not start with the end of a line. -/
theorem not_stops_entryChars_append {e : String × UrlTree} (h : isBare e.1) (depth : Int)
    (rest : List Char) : ¬ Stops (entryChars depth e ++ rest) := by
  obtain ⟨c, cs, hkey, hc, -⟩ := exists_cons_of_isBare h
  rw [entryChars_eq, hkey]
  intro hstops
  cases hpad : (pad depth).toList with
  | nil =>
    rw [hpad] at hstops
    obtain rfl := hstops c rfl
    exact absurd hc (by decide)
  | cons space spaces =>
    rw [hpad] at hstops
    have hspace : space = ' ' := eq_space_of_mem_pad (hpad ▸ List.mem_cons_self)
    have hend : space = '\n' := hstops space rfl
    exact absurd (hspace.symm.trans hend) (by decide)

/-- A text is taken apart at the first place of a character in one way. -/
theorem eq_and_eq_of_first {c : Char} {as bs : List Char} : ∀ {xs ys : List Char},
    c ∉ xs → c ∉ ys → xs ++ c :: as = ys ++ c :: bs → xs = ys ∧ as = bs
  | [], [], _, _, h => ⟨rfl, (List.cons.inj h).2⟩
  | [], y :: ys, _, hys, h => by
    obtain ⟨rfl, -⟩ := List.cons.inj h
    exact absurd List.mem_cons_self hys
  | x :: xs, [], hxs, _, h => by
    obtain ⟨rfl, -⟩ := List.cons.inj h
    exact absurd List.mem_cons_self hxs
  | x :: xs, y :: ys, hxs, hys, h => by
    obtain ⟨rfl, htail⟩ := List.cons.inj h
    obtain ⟨rfl, hrest⟩ := eq_and_eq_of_first (fun hc => hxs (List.mem_cons_of_mem _ hc))
      (fun hc => hys (List.mem_cons_of_mem _ hc)) htail
    exact ⟨rfl, hrest⟩

/-- The text of a tree is known by its characters, where no entry follows. -/
def Known (entries : List (String × UrlTree)) : Prop :=
  ∀ (other : List (String × UrlTree)) (depth : Int) (rest rest' : List Char), Legible other →
    Stops rest → Stops rest' →
    (render entries depth).toList ++ rest = (render other depth).toList ++ rest' →
      SameUpToOrder entries other ∧ rest = rest'

/-- **One entry** is known by its characters if its folder is, and so is what follows it. -/
theorem entry_inj {e f : String × UrlTree} (he : LegibleEntry e) (hf : LegibleEntry f)
    (hfolder : ∀ inner, e.2 = .folder inner → Known inner) {depth : Int} {rest rest' : List Char}
    (h : entryChars depth e ++ rest = entryChars depth f ++ rest') :
    (∀ {xs ys}, SameUpToOrder xs ys → SameUpToOrder (e :: xs) (f :: ys)) ∧ rest = rest' := by
  obtain ⟨key, tree⟩ := e
  obtain ⟨key', tree'⟩ := f
  simp only [entryChars_eq, List.append_assoc, List.append_cancel_left_eq, List.cons_append] at h
  obtain ⟨hkey, hvalue⟩ := eq_and_eq_of_first (colon_not_mem_of_isBare he.isBare)
    (colon_not_mem_of_isBare hf.isBare) h
  obtain rfl := String.toList_injective hkey
  rw [List.cons.injEq] at hvalue
  cases tree with
  | url path =>
    cases tree' with
    | url path' =>
      obtain ⟨rfl, hrest⟩ := Json.toList_writeText_append_inj he.2 hf.2 hvalue.2
      exact ⟨.url, hrest⟩
    | folder inner' =>
      rw [valueChars, valueChars, Json.toList_writeText] at hvalue
      exact absurd (List.head_eq_of_cons_eq hvalue.2) (by decide)
  | folder inner =>
    cases tree' with
    | url path' =>
      rw [valueChars, valueChars, Json.toList_writeText] at hvalue
      exact absurd (List.head_eq_of_cons_eq hvalue.2) (by decide)
    | folder inner' =>
      simp only [valueChars, List.cons_append, List.append_assoc, List.cons.injEq, true_and]
        at hvalue
      obtain ⟨hinner, hclose⟩ :=
        hfolder inner rfl inner' _ _ _ hf.2 (stops_newline _) (stops_newline _) hvalue
      simp only [List.cons.injEq, true_and, List.append_cancel_left_eq, List.nil_append] at hclose
      exact ⟨.folder hinner, hclose⟩

theorem continued_inj {depth : Int} {rest rest' : List Char} (hrest : Stops rest)
    (hrest' : Stops rest') : ∀ {es fs : List (String × UrlTree)}, (∀ e ∈ es, LegibleEntry e) →
      (∀ f ∈ fs, LegibleEntry f) → (∀ key inner, (key, .folder inner) ∈ es → Known inner) →
      continued depth es rest = continued depth fs rest' → SameUpToOrder es fs ∧ rest = rest'
  | [], [], _, _, _, h => ⟨.nil, h⟩
  | [], f :: fs, _, _, _, h => by
    have hcomma : rest = ',' :: _ := h
    have hend : ',' = '\n' := hrest ',' (by rw [hcomma]; rfl)
    exact absurd hend (by decide)
  | e :: es, [], _, _, _, h => by
    have hcomma : rest' = ',' :: _ := h.symm
    have hend : ',' = '\n' := hrest' ',' (by rw [hcomma]; rfl)
    exact absurd hend (by decide)
  | e :: es, f :: fs, hes, hfs, hfolders, h => by
    obtain ⟨he, hes⟩ := List.forall_mem_cons.1 hes
    obtain ⟨hf, hfs⟩ := List.forall_mem_cons.1 hfs
    rw [continued_cons, continued_cons, List.cons.injEq, List.cons.injEq] at h
    have hfolder : ∀ inner, e.2 = .folder inner → Known inner := fun inner hinner =>
      hfolders e.1 inner (List.mem_cons.2 (.inl (Prod.ext rfl hinner.symm)))
    obtain ⟨hcons, htail⟩ := entry_inj he hf hfolder h.2.2
    obtain ⟨hsame, hends⟩ := continued_inj hrest hrest' hes hfs
      (fun key inner hmem => hfolders key inner (List.mem_cons_of_mem _ hmem)) htail
    exact ⟨hcons hsame, hends⟩

/-- **Entries in their order** are known by their characters, where no entry follows. -/
theorem entries_inj {depth : Int} {rest rest' : List Char} (hrest : Stops rest)
    (hrest' : Stops rest') {es fs : List (String × UrlTree)} (hes : ∀ e ∈ es, LegibleEntry e)
    (hfs : ∀ f ∈ fs, LegibleEntry f)
    (hfolders : ∀ key inner, (key, .folder inner) ∈ es → Known inner)
    (h : written depth es rest = written depth fs rest') : SameUpToOrder es fs ∧ rest = rest' := by
  cases es with
  | nil =>
    cases fs with
    | nil => exact ⟨.nil, h⟩
    | cons f fs =>
      refine absurd hrest ?_
      rw [show rest = _ from h]
      exact not_stops_entryChars_append (hfs f List.mem_cons_self).isBare _ _
  | cons e es =>
    cases fs with
    | nil =>
      refine absurd hrest' ?_
      rw [← show _ = rest' from h]
      exact not_stops_entryChars_append (hes e List.mem_cons_self).isBare _ _
    | cons f fs =>
      have hcontinued : continued depth (e :: es) rest = continued depth (f :: fs) rest' := by
        rw [continued_cons, continued_cons, h]
      exact continued_inj hrest hrest' hes hfs hfolders hcontinued

/-! ## Trees -/

/-- What holds of entries if it holds of the folders among them, holds of all. -/
theorem Legible.induction_folders {P : List (String × UrlTree) → Prop}
    (step : ∀ entries, Legible entries → (∀ key inner, (key, .folder inner) ∈ entries → P inner) →
      P entries) {entries : List (String × UrlTree)} (h : Legible entries) : P entries := by
  suffices hfolders : ∀ key inner, (key, UrlTree.folder inner) ∈ entries → P inner from
    step entries h hfolders
  induction h with
  | nil => exact nofun
  | url _ _ _ _ ih =>
    intro key inner hmem
    rcases List.mem_cons.1 hmem with heq | hmem
    · cases heq
    · exact ih key inner hmem
  | folder _ hinner _ _ ihinner ih =>
    intro key inner hmem
    rcases List.mem_cons.1 hmem with heq | hmem
    · cases heq
      exact step _ hinner ihinner
    · exact ih key inner hmem

/-- A legible tree of any depth is known by its characters. -/
theorem Legible.known {entries : List (String × UrlTree)} (h : Legible entries) :
    Known entries := by
  refine h.induction_folders fun entries hentries hfolders => ?_
  intro other depth rest rest' hother hrest hrest' htext
  have hsorted := List.mergeSort_perm entries before
  have hsorted' := List.mergeSort_perm other before
  rw [toList_render_append, toList_render_append] at htext
  obtain ⟨hsame, hends⟩ := entries_inj hrest hrest'
    (fun e he => hentries.entry e (hsorted.mem_iff.1 he))
    (fun f hf => hother.entry f (hsorted'.mem_iff.1 hf))
    (fun key inner hmem => hfolders key inner (hsorted.mem_iff.1 hmem)) htext
  exact ⟨.trans (.of_perm hsorted.symm) (.trans hsame (.of_perm hsorted')), hends⟩

/-- **The text of a tree is faithful**: two trees have the same text, at any indentation,
    exactly if they are the same up to the order of their keys. -/
theorem render_eq_iff {xs ys : List (String × UrlTree)} (hx : Legible xs) (hy : Legible ys)
    (depth : Int) : render xs depth = render ys depth ↔ SameUpToOrder xs ys := by
  constructor
  · intro h
    exact (hx.known ys depth [] [] hy nofun nofun (by rw [h])).1
  · exact fun h => h.render_eq hx depth

/-- A URL that is escaped when it is written.  Its last two characters lie 0x100000 above the
    two halves that the one before is written by. -/
def escapedUrl : String :=
  Text.ofChars ("/ping/é\"😀".toList ++ [Char.ofNat 0x10d83d, Char.ofNat 0x10de00])

/-- Two folders, one of them empty, and a URL that is escaped when it is written. -/
def usersFirst : List (String × UrlTree) :=
  [("users", .folder [("_self", .url "/users"), ("posts", .folder [])]), ("ping", .url escapedUrl)]

/-- The same tree in another order. -/
def pingFirst : List (String × UrlTree) :=
  [("ping", .url escapedUrl), ("users", .folder [("posts", .folder []), ("_self", .url "/users")])]

/-- The empty folder stands beside the other one. -/
def postsBeside : List (String × UrlTree) :=
  [("users", .folder [("_self", .url "/users")]), ("posts", .folder []), ("ping", .url escapedUrl)]

/-- The order of keys does not show in the text, the place of an empty folder does. -/
theorem render_usersFirst :
    render usersFirst 0 = render pingFirst 0 ∧ render usersFirst 0 ≠ render postsBeside 0 := by
  have hescaped : HalvesApart escapedUrl := Text.halvesApart_ofChars _
  have husers : Legible usersFirst :=
    .folder (by decide) (.url (by decide) (by decide) (by decide)
      (.folder (by decide) .nil (by decide) .nil)) (by decide)
      (.url (by decide) hescaped (by decide) .nil)
  have hposts : Legible postsBeside :=
    .folder (by decide) (.url (by decide) (by decide) (by decide) .nil) (by decide)
      (.folder (by decide) .nil (by decide) (.url (by decide) hescaped (by decide) .nil))
  have hsame : SameUpToOrder usersFirst pingFirst :=
    .trans (.folder (.swap _ _ _) (.refl _)) (.swap _ _ _)
  refine ⟨(render_eq_iff husers (hsame.legible husers) 0).2 hsame, fun h => ?_⟩
  have hperm := ((render_eq_iff husers hposts 0).1 h).keys_perm
  exact absurd hperm.length_eq (by decide)

end ApiTypes.UrlTree
