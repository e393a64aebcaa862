/-
  The order in which parameters are put into a URL.

  `fillTemplate` puts in one parameter after the other, and looks for the placeholder of the
  next one in what it has made of the template so far.  `filled` puts in all of them in one
  pass over the template; on a template from pieces this makes them known (`filled_written`).

  For names without braces the template is cut in one way into placeholders and other
  characters (`Cut`), and:

  * `occurrences_fillChars_le`: putting in more parameters at once takes away no occurrence of
    a placeholder that is left, since none reaches into another placeholder;
  * `replaceChars_fillChars`: putting in one more parameter, by name, is to put it in at once
    with the others, if its placeholder occurs as often as in the template;
  * `fillTemplate_eq_filled`: hence so is putting in all of them, in any order.

  Together they say when no text that was put in is ever read as a placeholder, and that the
  order does not matter then (`neverRead_iff`).
-/
import ApiTypes.Proofs.UrlTemplate
import Mathlib.Data.List.Induction

namespace ApiTypes.UrlTemplate

open Json (Value)

/-! ## Placeholders in a text -/

/-- The characters of a placeholder. -/
def slot (name : String) : List Char := '\x7b' :: (name.toList ++ ['\x7d'])

/-- How often a placeholder occurs in a text. -/
def occurrences (name : String) : List Char → Nat
  | [] => 0
  | c :: rest => (if (slot name).isPrefixOf (c :: rest) then 1 else 0) + occurrences name rest

/-- A text with all parameters put in at once: every placeholder in it that has a parameter is
    replaced, in one pass.  `skip` characters belong to a placeholder already replaced. -/
def fillChars (parameters : List (String × Value)) : (skip : Nat) → List Char → List Char
  | _, [] => []
  | skip + 1, _ :: rest => fillChars parameters skip rest
  | 0, c :: rest =>
    match parameters.find? fun e => (slot e.1).isPrefixOf (c :: rest) with
    | some (name, v) => (urlText v).toList ++ fillChars parameters (name.toList.length + 1) rest
    | none => c :: fillChars parameters 0 rest

/-- The template with all parameters put in at once. -/
def filled (template : String) (parameters : List (String × Value)) : String :=
  String.ofList (fillChars parameters 0 template.toList)

variable {parameters more : List (String × Value)} {names : List String} {name key : String}
  {c : Char} {before rest text text' : List Char}

theorem eq_of_slot_starts (hname : BraceFree name) (hkey : BraceFree key)
    (h : slot key <+: slot name ++ rest) : key = name := by
  by_contra hne
  refine @not_isPrefixOf_braced key rest name hname hkey hne (List.isPrefixOf_iff_prefix.2 ?_)
  rwa [slot, slot, List.cons_append, List.append_assoc] at h

/-- Where no opening brace stands, no placeholder starts. -/
theorem not_slot_starts_of_ne (h : c ≠ '\x7b') : ¬ slot name <+: c :: rest :=
  fun hstarts => h (List.cons_prefix_cons.1 hstarts).1.symm

theorem occurrences_cons (name : String) (c : Char) (rest : List Char) :
    (slot name <+: c :: rest → occurrences name (c :: rest) = 1 + occurrences name rest) ∧
      (¬ slot name <+: c :: rest → occurrences name (c :: rest) = occurrences name rest) := by
  rw [occurrences, ← List.isPrefixOf_iff_prefix]
  refine ⟨fun h => by rw [if_pos h], fun h => by rw [if_neg h, Nat.zero_add]⟩

theorem occurrences_append_of_not_mem (h : '\x7b' ∉ before) (rest : List Char) :
    occurrences name (before ++ rest) = occurrences name rest := by
  induction before with
  | nil => rfl
  | cons c before ih =>
    rw [List.mem_cons, not_or] at h
    rw [List.cons_append, (occurrences_cons ..).2 (not_slot_starts_of_ne (Ne.symm h.1)), ih h.2]

theorem occurrences_le_append (name : String) (before rest : List Char) :
    occurrences name rest ≤ occurrences name (before ++ rest) := by
  induction before with
  | nil => exact Nat.le_refl _
  | cons c before ih =>
    rw [List.cons_append, occurrences]
    omega

/-- In front of a text, a placeholder of another name adds no occurrence. -/
theorem occurrences_slot_append (hname : BraceFree name) (hkey : BraceFree key)
    (rest : List Char) :
    (name = key → occurrences key (slot name ++ rest) = 1 + occurrences key rest) ∧
      (name ≠ key → occurrences key (slot name ++ rest) = occurrences key rest) := by
  have hinside : '\x7b' ∉ name.toList ++ ['\x7d'] := by simp [hname.1]
  have hcons : slot name ++ rest = '\x7b' :: ((name.toList ++ ['\x7d']) ++ rest) := rfl
  constructor
  · rintro rfl
    have hself : slot name <+: slot name ++ rest := List.prefix_append _ _
    rw [hcons] at hself ⊢
    rw [(occurrences_cons ..).1 hself, occurrences_append_of_not_mem hinside]
  · intro hne
    have hother : ¬ slot key <+: slot name ++ rest := fun h =>
      hne (eq_of_slot_starts hname hkey h).symm
    rw [hcons] at hother ⊢
    rw [(occurrences_cons ..).2 hother, occurrences_append_of_not_mem hinside]

/-! ## Putting in all parameters at once -/

theorem fillChars_skip (before rest : List Char) :
    fillChars parameters before.length (before ++ rest) = fillChars parameters 0 rest := by
  induction before with
  | nil => rfl
  | cons c before ih => exact ih

/-- A character that starts no placeholder is kept. -/
theorem fillChars_cons (h : ∀ e ∈ parameters, ¬ slot e.1 <+: c :: rest) :
    fillChars parameters 0 (c :: rest) = c :: fillChars parameters 0 rest := by
  have hnone : (parameters.find? fun e => (slot e.1).isPrefixOf (c :: rest)) = none :=
    List.find?_eq_none.2 fun e he hstarts => h e he (List.isPrefixOf_iff_prefix.1 hstarts)
  rw [fillChars, hnone]

theorem fillChars_append_of_not_mem (h : '\x7b' ∉ before) (rest : List Char) :
    fillChars parameters 0 (before ++ rest) = before ++ fillChars parameters 0 rest := by
  induction before with
  | nil => rfl
  | cons c before ih =>
    rw [List.mem_cons, not_or] at h
    rw [List.cons_append, fillChars_cons fun _ _ => not_slot_starts_of_ne (Ne.symm h.1), ih h.2,
      List.cons_append]

theorem fillChars_nil (text : List Char) : fillChars [] 0 text = text := by
  induction text with
  | nil => rfl
  | cons c rest ih => rw [fillChars_cons fun _ h => absurd h List.not_mem_nil, ih]

theorem find?_slot (hkeys : ∀ key ∈ Entries.keys parameters, BraceFree key)
    (hname : BraceFree name) :
    (parameters.find? fun e => (slot e.1).isPrefixOf (slot name ++ rest)) =
      (Entries.get? parameters name).map (name, ·) := by
  induction parameters with
  | nil => rfl
  | cons e parameters ih =>
    obtain ⟨key, v⟩ := e
    obtain ⟨hkey, hkeys⟩ := List.forall_mem_cons.1 hkeys
    by_cases h : key = name
    · subst h
      have hstarts : (slot key).isPrefixOf (slot key ++ rest) = true :=
        List.isPrefixOf_iff_prefix.2 (List.prefix_append _ _)
      rw [List.find?_cons, hstarts, Entries.get?, if_pos rfl, Option.map_some]
    · have hother : (slot key).isPrefixOf (slot name ++ rest) = false :=
        Bool.eq_false_iff.2 fun hstarts =>
          h (eq_of_slot_starts hname hkey (List.isPrefixOf_iff_prefix.1 hstarts))
      rw [List.find?_cons, hother, Entries.get?, if_neg h, ih hkeys]

/-- The text that stands for a placeholder when some parameters are put in. -/
def slotText (parameters : List (String × Value)) (name : String) : List Char :=
  match Entries.get? parameters name with
  | some v => (urlText v).toList
  | none => slot name

theorem slotText_of_get? {v : Value} (h : Entries.get? parameters name = some v) :
    slotText parameters name = (urlText v).toList := by
  rw [slotText, h]

theorem slotText_of_get?_none (h : Entries.get? parameters name = none) :
    slotText parameters name = slot name := by
  rw [slotText, h]

/-- A placeholder is replaced if it has a parameter, and kept otherwise. -/
theorem fillChars_slot (hkeys : ∀ key ∈ Entries.keys parameters, BraceFree key)
    (hname : BraceFree name) (rest : List Char) :
    fillChars parameters 0 (slot name ++ rest) =
      slotText parameters name ++ fillChars parameters 0 rest := by
  have hfind := @find?_slot parameters name rest hkeys hname
  have hcons : slot name ++ rest = '\x7b' :: ((name.toList ++ ['\x7d']) ++ rest) := rfl
  rw [hcons] at hfind ⊢
  cases hget : Entries.get? parameters name with
  | some v =>
    have hlength : name.toList.length + 1 = (name.toList ++ ['\x7d']).length := by simp
    rw [hget, Option.map_some] at hfind
    rw [slotText_of_get? hget, fillChars, hfind]
    simp only [hlength, fillChars_skip]
  | none =>
    have hinside : '\x7b' ∉ name.toList ++ ['\x7d'] := by simp [hname.1]
    rw [hget, Option.map_none] at hfind
    rw [slotText_of_get?_none hget, fillChars, hfind]
    exact congrArg _ (fillChars_append_of_not_mem hinside rest)

/-! ## Cutting a template -/

/-- A text from front to back: placeholders of some names, and characters with which none of
    them starts. -/
inductive Cut (names : List String) : List Char → Prop
  | nil : Cut names []
  | slot {name : String} {rest : List Char} :
      name ∈ names → Cut names rest → Cut names (slot name ++ rest)
  | char {c : Char} {rest : List Char} :
      (∀ name ∈ names, ¬ UrlTemplate.slot name <+: c :: rest) → Cut names rest →
      Cut names (c :: rest)

theorem cut (names : List String) (text : List Char) : Cut names text := by
  induction hlength : text.length using Nat.strongRecOn generalizing text with
  | _ n ih =>
    subst hlength
    cases text with
    | nil => exact .nil
    | cons c rest =>
      by_cases h : ∃ name ∈ names, slot name <+: c :: rest
      · obtain ⟨name, hname, behind, hbehind⟩ := h
        have hshorter : behind.length < (c :: rest).length := by
          rw [← hbehind, List.length_append, slot, List.length_cons]
          omega
        rw [← hbehind]
        exact .slot hname (ih _ hshorter behind rfl)
      · exact .char (by simpa using h) (ih _ (Nat.lt_succ_self _) rest rfl)

/-! ## Up to the next brace -/

/-- What is read at the start of a text, up to an opening brace, is also read at the start of
    another one. -/
def ReadsOn (text text' : List Char) : Prop := ∀ w, '\x7b' ∉ w → w <+: text → w <+: text'

theorem ReadsOn.append (h : ReadsOn text text') (before : List Char) :
    ReadsOn (before ++ text) (before ++ text') := by
  induction before with
  | nil => exact h
  | cons c before ih =>
    intro w hw hstarts
    cases w with
    | nil => exact List.nil_prefix
    | cons d w =>
      rw [List.mem_cons, not_or] at hw
      obtain ⟨rfl, htail⟩ := List.cons_prefix_cons.1 hstarts
      exact List.cons_prefix_cons.2 ⟨rfl, ih w hw.2 htail⟩

theorem readsOn_slot (name : String) (rest text' : List Char) :
    ReadsOn (slot name ++ rest) text' := by
  intro w hw hstarts
  cases w with
  | nil => exact List.nil_prefix
  | cons d w =>
    obtain ⟨rfl, -⟩ := List.cons_prefix_cons.1 hstarts
    exact absurd List.mem_cons_self hw

/-- A placeholder in front of a text is read up to a brace behind its first one. -/
theorem ReadsOn.slot_starts (h : ReadsOn rest text') (hkey : BraceFree key)
    (hstarts : slot key <+: c :: rest) : slot key <+: c :: text' := by
  obtain ⟨rfl, htail⟩ := List.cons_prefix_cons.1 hstarts
  exact List.cons_prefix_cons.2 ⟨rfl, h _ (by simp [hkey.1]) htail⟩

theorem occurrences_append_le (h : ReadsOn text text') (hkey : BraceFree key)
    (hle : occurrences key text ≤ occurrences key text') (before : List Char) :
    occurrences key (before ++ text) ≤ occurrences key (before ++ text') := by
  induction before with
  | nil => exact hle
  | cons c before ih =>
    rw [List.cons_append, List.cons_append]
    by_cases hstarts : slot key <+: c :: (before ++ text)
    · have hstarts' := (h.append before).slot_starts hkey hstarts
      rw [(occurrences_cons ..).1 hstarts, (occurrences_cons ..).1 hstarts']
      exact Nat.add_le_add_left ih 1
    · rw [(occurrences_cons ..).2 hstarts, occurrences]
      omega

/-! ## More parameters -/

section

variable (hnames : ∀ name ∈ names, BraceFree name)
  (hparameters : ∀ key ∈ Entries.keys parameters, key ∈ names)
include hnames hparameters

theorem fillChars_slot_of_mem (hname : name ∈ names) (rest : List Char) :
    fillChars parameters 0 (slot name ++ rest) =
      slotText parameters name ++ fillChars parameters 0 rest :=
  fillChars_slot (fun key hkey => hnames key (hparameters key hkey)) (hnames name hname) rest

omit hnames in
theorem fillChars_char (h : ∀ name ∈ names, ¬ slot name <+: c :: rest) :
    fillChars parameters 0 (c :: rest) = c :: fillChars parameters 0 rest :=
  fillChars_cons fun _ he => h _ (hparameters _ (List.mem_map_of_mem he))

/-- With more parameters put in, a text still reads on as before: a placeholder that is left
    starts with a brace. -/
theorem readsOn_fillChars (hmore : ∀ key ∈ Entries.keys more, key ∈ names)
    (hsub : ∀ name v, Entries.get? parameters name = some v → Entries.get? more name = some v)
    (text : List Char) : ReadsOn (fillChars parameters 0 text) (fillChars more 0 text) := by
  induction cut names text with
  | nil => exact fun w _ h => h
  | @char c rest hnone _ ih =>
    rw [fillChars_char hparameters hnone, fillChars_char hmore hnone]
    exact ih.append [c]
  | @slot name rest hname _ ih =>
    rw [fillChars_slot_of_mem hnames hparameters hname, fillChars_slot_of_mem hnames hmore hname]
    cases hget : Entries.get? parameters name with
    | none =>
      rw [slotText_of_get?_none hget]
      exact readsOn_slot name _ _
    | some v =>
      rw [slotText_of_get? hget, slotText_of_get? (hsub name v hget)]
      exact ih.append _

/-- **No occurrence is taken away** of a placeholder that is left, when more parameters are
    put in. -/
theorem occurrences_fillChars_le (hmore : ∀ key ∈ Entries.keys more, key ∈ names)
    (hsub : ∀ name v, Entries.get? parameters name = some v → Entries.get? more name = some v)
    (hkey : BraceFree key) (hleft : key ∉ Entries.keys more) (text : List Char) :
    occurrences key (fillChars parameters 0 text) ≤ occurrences key (fillChars more 0 text) := by
  induction cut names text with
  | nil => exact Nat.le_refl _
  | @char c rest hnone _ ih =>
    have hreads := readsOn_fillChars hnames hparameters hmore hsub rest
    rw [fillChars_char hparameters hnone, fillChars_char hmore hnone]
    exact occurrences_append_le hreads hkey ih [c]
  | @slot name rest hname _ ih =>
    rw [fillChars_slot_of_mem hnames hparameters hname, fillChars_slot_of_mem hnames hmore hname]
    have hreads := readsOn_fillChars hnames hparameters hmore hsub rest
    cases hget : Entries.get? parameters name with
    | some v =>
      rw [slotText_of_get? hget, slotText_of_get? (hsub name v hget)]
      exact occurrences_append_le hreads hkey ih _
    | none =>
      rw [slotText_of_get?_none hget]
      cases hget' : Entries.get? more name with
      | none =>
        rw [slotText_of_get?_none hget']
        exact occurrences_append_le hreads hkey ih _
      | some v =>
        have hne : name ≠ key := by
          rintro rfl
          exact absurd (hget'.symm.trans (Entries.get?_eq_none_iff.2 hleft)) nofun
        rw [(occurrences_slot_append (hnames name hname) hkey _).2 hne]
        exact Nat.le_trans ih (occurrences_le_append _ _ _)

theorem occurrences_le_fillChars (hkey : BraceFree key) (hleft : key ∉ Entries.keys parameters)
    (text : List Char) : occurrences key text ≤ occurrences key (fillChars parameters 0 text) := by
  have hnone : ∀ k ∈ Entries.keys ([] : List (String × Value)), k ∈ names := nofun
  have hle := occurrences_fillChars_le hnames hnone hparameters nofun hkey hleft text
  rwa [fillChars_nil] at hle

/-! ## One parameter after the other -/

omit hnames hparameters in
/-- A text in which a placeholder occurs no more often than behind it is kept. -/
theorem replaceChars_append_of_le (new : List Char)
    (h : occurrences key (before ++ rest) ≤ occurrences key rest) :
    Text.replaceChars (slot key) new 0 (before ++ rest) =
      before ++ Text.replaceChars (slot key) new 0 rest := by
  induction before with
  | nil => rfl
  | cons c before ih =>
    have hbehind := occurrences_le_append key before rest
    rw [List.cons_append] at h ⊢
    have hnot : ¬ slot key <+: c :: (before ++ rest) := by
      intro hstarts
      rw [(occurrences_cons ..).1 hstarts] at h
      omega
    rw [(occurrences_cons ..).2 hnot] at h
    rw [slot, Text.replaceChars, ← slot, if_neg (List.isPrefixOf_iff_prefix.not.2 hnot), ih h,
      List.cons_append]

/-- **Putting in one more parameter** by name is to put it in at once with the others, if its
    placeholder occurs no more often than in the template. -/
theorem replaceChars_fillChars (hkey : key ∈ names) (hleft : key ∉ Entries.keys parameters)
    (v : Value) (text : List Char)
    (h : occurrences key (fillChars parameters 0 text) ≤ occurrences key text) :
    Text.replaceChars (slot key) (urlText v).toList 0 (fillChars parameters 0 text) =
      fillChars (parameters ++ [(key, v)]) 0 text := by
  have hmore : ∀ k ∈ Entries.keys (parameters ++ [(key, v)]), k ∈ names := by
    intro k hk
    rw [Entries.keys, List.map_append, List.mem_append] at hk
    rcases hk with hk | hk
    · exact hparameters k hk
    · rw [List.mem_singleton.1 hk]
      exact hkey
  have hleast := occurrences_le_fillChars hnames hparameters (hnames key hkey) hleft
  induction cut names text with
  | nil => rfl
  | @char c rest hnone _ ih =>
    rw [fillChars_char hparameters hnone, (occurrences_cons ..).2 (hnone key hkey)] at h
    have hbehind := hleast rest
    have hcons := occurrences_le_append key [c] (fillChars parameters 0 rest)
    rw [fillChars_char hparameters hnone, fillChars_char hmore hnone,
      ← ih (Nat.le_trans hcons h)]
    exact @replaceChars_append_of_le _ [c] _ _ (Nat.le_trans h hbehind)
  | @slot name rest hname _ ih =>
    rw [fillChars_slot_of_mem hnames hparameters hname] at h
    rw [fillChars_slot_of_mem hnames hparameters hname, fillChars_slot_of_mem hnames hmore hname]
    have hbehind := hleast rest
    have hslot := occurrences_slot_append (hnames name hname) (hnames key hkey)
    by_cases hne : name = key
    · subst hne
      have hget := Entries.get?_eq_none_iff.2 hleft
      have hget' : Entries.get? (parameters ++ [(name, v)]) name = some v := by
        rw [Entries.get?_append, hget, Option.none_or, Entries.get?, if_pos rfl]
      rw [slotText_of_get?_none hget, (hslot _).1 rfl, (hslot _).1 rfl] at h
      rw [slotText_of_get?_none hget, slotText_of_get? hget', ← ih (Nat.le_of_add_le_add_left h)]
      exact Text.replaceChars_occurrence
    · have hsame : slotText (parameters ++ [(key, v)]) name = slotText parameters name := by
        rw [slotText, slotText, Entries.get?_append, Entries.get?, if_neg (Ne.symm hne),
          Entries.get?, Option.or_none]
      rw [(hslot rest).2 hne] at h
      have hcons := occurrences_le_append key (slotText parameters name)
        (fillChars parameters 0 rest)
      rw [hsame, ← ih (Nat.le_trans hcons h)]
      exact replaceChars_append_of_le _ (Nat.le_trans h hbehind)

/-- Only the parameters matter that stand for a name, not their order. -/
theorem fillChars_congr (hmore : ∀ key ∈ Entries.keys more, key ∈ names)
    (hsame : ∀ name, Entries.get? parameters name = Entries.get? more name) (text : List Char) :
    fillChars parameters 0 text = fillChars more 0 text := by
  induction cut names text with
  | nil => rfl
  | char hnone _ ih => rw [fillChars_char hparameters hnone, fillChars_char hmore hnone, ih]
  | @slot name _ hname _ ih =>
    have hslot : slotText parameters name = slotText more name := by
      rw [slotText, slotText, hsame name]
    rw [fillChars_slot_of_mem hnames hparameters hname, fillChars_slot_of_mem hnames hmore hname,
      hslot, ih]

end

/-! ## Templates -/

theorem toList_filled (template : String) (parameters : List (String × Value)) :
    (filled template parameters).toList = fillChars parameters 0 template.toList := by
  rw [filled, String.toList_ofList]

theorem toList_slot (name : String) : ("\x7b" ++ name ++ "\x7d").toList = slot name := by
  simp [slot]

/-- On a template from pieces, putting in all parameters at once makes them known. -/
theorem filled_written (hkeys : ∀ key ∈ Entries.keys parameters, BraceFree key)
    (pieces : List Piece) :
    filled (written pieces) parameters = substituted parameters pieces := by
  apply String.toList_injective
  rw [toList_filled]
  induction pieces with
  | nil => rfl
  | cons p pieces ih =>
    simp only [written, substituted, List.map_cons, String.join_cons, String.toList_append] at ih ⊢
    cases p with
    | literal s hs =>
      rw [Piece.text, fillChars_append_of_not_mem hs.1, ih]
      rfl
    | placeholder name hgiven hname =>
      rw [Piece.text, toList_slot, fillChars_slot hkeys hname, ih, textWith_placeholder, slotText]
      cases Entries.get? parameters name with
      | none => rw [Option.map_none, Option.getD_none, toList_slot]
      | some v => rfl

theorem fillTemplate_concat (template : String) (done : List (String × Value)) (key : String)
    (v : Value) :
    (fillTemplate template (done ++ [(key, v)])).toList =
      Text.replaceChars (slot key) (urlText v).toList 0 (fillTemplate template done).toList := by
  rw [fillTemplate, List.foldl_append, List.foldl_cons, List.foldl_nil, ← fillTemplate,
    ← toList_slot]
  exact String.toList_ofList

/-- **All parameters.**  If each of them finds its placeholder no more often than the template
    has it, when those before it were put in as all at once, so are they all. -/
theorem fillTemplate_eq_filled (template : String) {order : List (String × Value)}
    (hnodup : (Entries.keys order).Nodup) (hkeys : ∀ key ∈ Entries.keys order, BraceFree key)
    (h : ∀ done e rest, order = done ++ e :: rest →
      fillTemplate template done = filled template done →
      occurrences e.1 (filled template done).toList ≤ occurrences e.1 template.toList) :
    fillTemplate template order = filled template order := by
  induction order using List.reverseRecOn with
  | nil => rw [filled, fillChars_nil, String.ofList_toList]; rfl
  | append_singleton done e ih =>
    obtain ⟨key, v⟩ := e
    have hsplit : Entries.keys (done ++ [(key, v)]) = Entries.keys done ++ [key] := by
      simp [Entries.keys]
    rw [hsplit] at hnodup hkeys
    obtain ⟨hdone, -, hleft⟩ := List.nodup_append.1 hnodup
    have hfilled : fillTemplate template done = filled template done := by
      refine ih hdone (fun k hk => hkeys k (List.mem_append_left _ hk)) fun before e' rest heq => ?_
      exact h before e' (rest ++ [(key, v)]) (by rw [heq, List.append_assoc, List.cons_append])
    have hle := h done (key, v) [] rfl hfilled
    apply String.toList_injective
    rw [toList_filled] at hle
    rw [fillTemplate_concat, hfilled, toList_filled, toList_filled]
    exact replaceChars_fillChars hkeys (fun k hk => List.mem_append_left _ hk)
      (List.mem_append_right _ List.mem_cons_self)
      (fun hk => hleft key hk key List.mem_cons_self rfl) v template.toList hle

/-! ## Outcomes -/

/-- The same URL, or the same placeholders left over. -/
def SameOutcome : Except Failure String → Except Failure String → Prop
  | .ok url, .ok url' => url = url'
  | .error (.missingParameters missing _), .error (.missingParameters missing' _) =>
    missing = missing'
  | _, _ => False

theorem sameOutcome_of_fillTemplate_eq {template : String} {order : List (String × Value)}
    (h : fillTemplate template order = fillTemplate template parameters) :
    SameOutcome (buildUrl template order) (buildUrl template parameters) := by
  rw [buildUrl, buildUrl, h]
  cases (placeholders (fillTemplate template parameters)).filter (· ≠ "") with
  | nil => exact rfl
  | cons name missing => exact rfl

/-- The parameters but the one of a name. -/
def others (parameters : List (String × Value)) (key : String) : List (String × Value) :=
  parameters.filter (·.1 ≠ key)

variable {template : String} {done after : List (String × Value)} {e : String × Value}

/-- The others and then the parameter itself are an order of all. -/
theorem others_append_perm (hnodup : (Entries.keys parameters).Nodup) (he : e ∈ parameters) :
    (others parameters e.1 ++ [e]).Perm parameters := by
  have hone : parameters.filter (·.1 = e.1) = [e] := Entries.filter_key_eq hnodup he
  have hparts := List.filter_append_perm (fun f : String × Value => decide (f.1 = e.1)) parameters
  rw [hone] at hparts
  refine List.perm_append_comm.trans (List.Perm.trans (.of_eq ?_) hparts)
  exact congrArg (e :: ·) (List.filter_congr fun f _ => by simp)

theorem mem_keys_of_mem_keys_others (h : name ∈ Entries.keys (others parameters key)) :
    name ∈ Entries.keys parameters ∧ name ≠ key := by
  obtain ⟨f, hf, rfl⟩ := List.mem_map.1 h
  obtain ⟨hf, hne⟩ := List.mem_filter.1 hf
  exact ⟨List.mem_map_of_mem hf, of_decide_eq_true hne⟩

section

variable (hnodup : (Entries.keys parameters).Nodup)
  (hkeys : ∀ key ∈ Entries.keys parameters, BraceFree key)
  (horder : (done ++ e :: after).Perm parameters)
include hnodup horder

/-- What stands before a parameter in some order are some of the others. -/
theorem keys_before : (Entries.keys done).Nodup ∧ e.1 ∉ Entries.keys done ∧
    ∀ key ∈ Entries.keys done, key ∈ Entries.keys parameters := by
  have hall : (Entries.keys (done ++ e :: after)).Perm (Entries.keys parameters) := horder.map _
  have hdistinct := hall.nodup_iff.2 hnodup
  rw [Entries.keys, List.map_append] at hdistinct
  obtain ⟨hdone, -, hleft⟩ := List.nodup_append.1 hdistinct
  refine ⟨hdone, fun h => hleft e.1 h e.1 List.mem_cons_self rfl, fun key hkey => ?_⟩
  refine hall.mem_iff.1 ?_
  rw [Entries.keys, List.map_append]
  exact List.mem_append_left _ hkey

theorem get?_others_of_get? {v : Value} (hget : Entries.get? done name = some v) :
    Entries.get? (others parameters e.1) name = some v := by
  have hmem : name ∈ Entries.keys done := List.mem_map.2 ⟨_, Entries.mem_of_get? hget, rfl⟩
  have hne : e.1 ≠ name := fun h => (keys_before hnodup horder).2.1 (h ▸ hmem)
  have hall : (Entries.keys (done ++ e :: after)).Perm (Entries.keys parameters) := horder.map _
  rw [others, Entries.get?_filter_of_ne hne, Entries.get?_perm (hall.nodup_iff.2 hnodup) horder,
    Entries.get?_append, hget, Option.some_or]

include hkeys

/-- A placeholder occurs at least as often as in the template and at most as often as when all
    other parameters have been put in at once. -/
theorem occurrences_filled_between (template : String) :
    occurrences e.1 template.toList ≤ occurrences e.1 (filled template done).toList ∧
      occurrences e.1 (filled template done).toList ≤
        occurrences e.1 (filled template (others parameters e.1)).toList := by
  obtain ⟨-, hleft, hdone⟩ := keys_before hnodup horder
  have hkey : BraceFree e.1 :=
    hkeys e.1 (List.mem_map_of_mem (horder.mem_iff.1 (List.mem_append_right _ List.mem_cons_self)))
  rw [toList_filled, toList_filled]
  constructor
  · exact occurrences_le_fillChars hkeys hdone hkey hleft _
  · exact occurrences_fillChars_le hkeys hdone (fun k hk => (mem_keys_of_mem_keys_others hk).1)
      (fun _ _ => get?_others_of_get? hnodup horder) hkey
      (fun h => (mem_keys_of_mem_keys_others h).2 rfl) _

end

/-- No text that was put in is read as a placeholder, and none is lost: whatever the order in
    which the parameters are put in, each finds its placeholder as often as the template has
    it. -/
def NeverRead (template : String) (parameters : List (String × Value)) : Prop :=
  ∀ done e after, (done ++ e :: after).Perm parameters →
    occurrences e.1 (fillTemplate template done).toList = occurrences e.1 template.toList

section

variable (hnodup : (Entries.keys parameters).Nodup)
  (hkeys : ∀ key ∈ Entries.keys parameters, BraceFree key)
include hnodup hkeys

theorem fillTemplate_eq_filled_of_perm (horder : (done ++ after).Perm parameters)
    (h : ∀ before e behind, (before ++ e :: behind).Perm parameters →
      fillTemplate template before = filled template before →
      occurrences e.1 (filled template before).toList ≤ occurrences e.1 template.toList) :
    fillTemplate template done = filled template done := by
  have hall : (Entries.keys (done ++ after)).Perm (Entries.keys parameters) := horder.map _
  have hdone : (Entries.keys done).Sublist (Entries.keys (done ++ after)) :=
    (List.sublist_append_left done after).map _
  refine fillTemplate_eq_filled template ((hall.nodup_iff.2 hnodup).sublist hdone)
    (fun key hkey => hkeys key (hall.mem_iff.1 (hdone.subset hkey))) fun before e behind heq => ?_
  rw [heq, List.append_assoc, List.cons_append] at horder
  exact h before e (behind ++ after) horder

/-- What has been put in when nothing is ever read. -/
theorem NeverRead.fillTemplate_eq (h : NeverRead template parameters)
    (horder : (done ++ after).Perm parameters) :
    fillTemplate template done = filled template done := by
  refine fillTemplate_eq_filled_of_perm hnodup hkeys horder fun before e behind hperm hsame => ?_
  rw [← hsame]
  exact Nat.le_of_eq (h before e behind hperm)

theorem neverRead_iff_others : NeverRead template parameters ↔
    ∀ key ∈ Entries.keys parameters,
      occurrences key (filled template (others parameters key)).toList =
        occurrences key template.toList := by
  constructor
  · intro h key hkey
    obtain ⟨e, he, rfl⟩ := List.mem_map.1 hkey
    have horder := others_append_perm hnodup he
    rw [← h.fillTemplate_eq hnodup hkeys horder]
    exact h _ e [] horder
  · intro h
    have hbetween {before behind : List (String × Value)} {f : String × Value}
        (horder : (before ++ f :: behind).Perm parameters) :
        occurrences f.1 (filled template before).toList = occurrences f.1 template.toList := by
      have hmem := horder.mem_iff.1 (List.mem_append_right before List.mem_cons_self)
      obtain ⟨hleast, hmost⟩ := occurrences_filled_between hnodup hkeys horder template
      rw [h f.1 (List.mem_map_of_mem hmem)] at hmost
      exact Nat.le_antisymm hmost hleast
    intro done e after horder
    rw [fillTemplate_eq_filled_of_perm hnodup hkeys horder fun _ _ _ hperm _ =>
      Nat.le_of_eq (hbetween hperm)]
    exact hbetween horder

/-- **The order of parameters.**  No text that was put in is ever read as a placeholder exactly
    if the placeholder of each parameter occurs as often as in the template when all the others
    have been put in at once.  Then the URL has all of them put in at once, in every order, and
    so the outcome is the same. -/
theorem neverRead_iff :
    (NeverRead template parameters ↔ ∀ key ∈ Entries.keys parameters,
      occurrences key (filled template (others parameters key)).toList =
        occurrences key template.toList) ∧
    (NeverRead template parameters → ∀ order : List (String × Value), order.Perm parameters →
      fillTemplate template order = filled template parameters ∧
        SameOutcome (buildUrl template order) (buildUrl template parameters)) := by
  refine ⟨neverRead_iff_others hnodup hkeys, fun h order horder => ?_⟩
  have hfilled {order : List (String × Value)} (horder : order.Perm parameters) :
      fillTemplate template order = filled template parameters := by
    have hall : (Entries.keys order).Perm (Entries.keys parameters) := horder.map _
    have hdone : (order ++ []).Perm parameters := by rwa [List.append_nil]
    rw [h.fillTemplate_eq hnodup hkeys hdone, filled, filled,
      fillChars_congr hkeys (fun key hkey => hall.mem_iff.1 hkey) (fun _ hkey => hkey)
        fun name => Entries.get?_perm hnodup horder.symm name]
  refine ⟨hfilled horder, sameOutcome_of_fillTemplate_eq ?_⟩
  rw [hfilled horder, hfilled (.refl _)]

/-- Nothing is ever read if no value has an opening brace and each one of the template starts
    the placeholder of a parameter. -/
theorem neverRead_of_no_brace (hvalues : ∀ e ∈ parameters, '\x7b' ∉ (urlText e.2).toList)
    (htemplate : ∀ rest, '\x7b' :: rest <:+ template.toList →
      ∃ name ∈ Entries.keys parameters, slot name <+: '\x7b' :: rest) :
    NeverRead template parameters := by
  refine (neverRead_iff_others hnodup hkeys).2 fun key hkey => ?_
  have hothers : ∀ k ∈ Entries.keys (others parameters key), k ∈ Entries.keys parameters :=
    fun k hk => (mem_keys_of_mem_keys_others hk).1
  rw [toList_filled]
  generalize template.toList = text at htemplate ⊢
  induction cut (Entries.keys parameters) text with
  | nil => rfl
  | @char c rest hnone _ ih =>
    have hc : c ≠ '\x7b' := by
      rintro rfl
      obtain ⟨name, hname, hstarts⟩ := htemplate rest (List.suffix_refl _)
      exact hnone name hname hstarts
    rw [fillChars_char hothers hnone, (occurrences_cons ..).2 (not_slot_starts_of_ne hc),
      (occurrences_cons ..).2 (not_slot_starts_of_ne hc)]
    exact ih fun rest' h => htemplate rest' (h.trans (List.suffix_cons c rest))
  | @slot name rest hname _ ih =>
    have hbehind := ih fun rest' h => htemplate rest' (h.trans (List.suffix_append _ rest))
    have hslot := occurrences_slot_append (hkeys name hname) (hkeys key hkey)
    rw [fillChars_slot_of_mem hkeys hothers hname]
    cases hget : Entries.get? (others parameters key) name with
    | none =>
      rw [slotText_of_get?_none hget]
      by_cases hne : name = key
      · rw [(hslot _).1 hne, (hslot _).1 hne, hbehind]
      · rw [(hslot _).2 hne, (hslot _).2 hne, hbehind]
    | some v =>
      obtain ⟨hmem, hother⟩ := List.mem_filter.1 (Entries.mem_of_get? hget)
      rw [slotText_of_get? hget, (hslot _).2 (of_decide_eq_true hother),
        occurrences_append_of_not_mem (hvalues _ hmem), hbehind]

end

/-- Values with braces that are never read as placeholders, and one that is. -/
theorem neverRead_halfOpen :
    NeverRead "/\x7ba\x7d/\x7bb\x7d" [("a", .str "x\x7dy"), ("b", .str "\x7b")] ∧
    SameOutcome
      (buildUrl "/\x7ba\x7d/\x7bb\x7d" [("b", .str "\x7b"), ("a", .str "x\x7dy")])
      (buildUrl "/\x7ba\x7d/\x7bb\x7d" [("a", .str "x\x7dy"), ("b", .str "\x7b")]) ∧
    ¬ NeverRead "\x7ba\x7d" [("a", .str "\x7bb\x7d"), ("b", .str "x")] := by
  obtain ⟨hiff, horder⟩ := @neverRead_iff [("a", .str "x\x7dy"), ("b", .str "\x7b")]
    "/\x7ba\x7d/\x7bb\x7d" (by decide) (by decide)
  have hnever : NeverRead "/\x7ba\x7d/\x7bb\x7d" [("a", .str "x\x7dy"), ("b", .str "\x7b")] :=
    hiff.2 (by decide)
  refine ⟨hnever, (horder hnever _ (.swap _ _ _)).2, fun h => ?_⟩
  have hb := (neverRead_iff (by decide) (by decide)).1.1 h "b" (by decide)
  exact absurd hb (by decide)

/-- The value of one parameter is read as the placeholder of the other, or is taken for one
    that is left over though its parameter is there. -/
theorem not_sameOutcome_swapped :
    buildUrl "\x7ba\x7d" [("a", .str "\x7bb\x7d"), ("b", .str "x")] = .ok "x" ∧
    buildUrl "\x7ba\x7d" [("b", .str "x"), ("a", .str "\x7bb\x7d")] =
      .error (.missingParameters ["b"] ["b", "a"]) ∧
    ¬ SameOutcome (buildUrl "\x7ba\x7d" [("a", .str "\x7bb\x7d"), ("b", .str "x")])
      (buildUrl "\x7ba\x7d" [("b", .str "x"), ("a", .str "\x7bb\x7d")]) := by
  have hfirst : buildUrl "\x7ba\x7d" [("a", .str "\x7bb\x7d"), ("b", .str "x")] = .ok "x" := by
    decide
  have hsecond : buildUrl "\x7ba\x7d" [("b", .str "x"), ("a", .str "\x7bb\x7d")] =
      .error (.missingParameters ["b"] ["b", "a"]) := by decide
  refine ⟨hfirst, hsecond, ?_⟩
  rw [hfirst, hsecond]
  exact id

end ApiTypes.UrlTemplate
