/-
  Names and folders of paths.

  The name of a path is made of its kept segments, joined by underscores and then put in lower
  case; its folder of all but the last, joined by slashes.  How a letter is written in lower case
  can depend on what stands around it (a capital sigma ends a word differently), so the two could
  write one segment in two ways.  They do not, as words end at slashes and at underscores.

  * `Text.PartsWords.lower_join`: pieces with such a character between them can be put in lower
    case one by one;
  * `name_eq_join`, `folder_eq_join`: hence a name and a folder are made of the same words;
  * `not_mem_name`, `not_mem_folder`: the marks in them are those of the segments;
  * `Padded`: a path with more slashes and more segments with braces; its kept segments are the
    same (`Padded.kept_eq`);
  * `name_folder_agree`: hence how the name and the folder of a path agree.
-/
import ApiTypes.Proofs.NameText
import ApiTypes.UrlTree

namespace ApiTypes

/-! ## Lower case -/

namespace Text

/-- A character at which words end, whatever stands around it: it has no case, is not passed over
    where the end of a word is looked for, and stays as it is in lower case. -/
structure PartsWords (c : Char) : Prop where
  uncased : isCased c = false
  seen : isIgnorable c = false
  same : lowerChar c = [c]

theorem partsWords_slash : PartsWords '/' :=
  ⟨by decide +kernel, by decide +kernel, by decide +kernel⟩

theorem partsWords_underscore : PartsWords '_' :=
  ⟨by decide +kernel, by decide +kernel, by decide +kernel⟩

section

variable {sep : Char}

theorem PartsWords.ne_sigma (h : PartsWords sep) : sep.toNat ≠ 0x3a3 := by
  intro hsigma
  have hsep : sep = 'Σ' := by rw [← Char.ofNat_toNat sep, hsigma]
  have huncased := h.uncased
  rw [hsep] at huncased
  exact absurd huncased (by decide +kernel)

/-- What stands behind such a character is not looked at. -/
theorem PartsWords.any_find? (h : PartsWords sep) (near far : List Char) :
    ((near ++ sep :: far).find? (!isIgnorable ·)).any isCased =
      (near.find? (!isIgnorable ·)).any isCased := by
  rw [List.find?_append, List.find?_cons_of_pos (by rw [h.seen]; rfl)]
  cases near.find? (!isIgnorable ·) with
  | none => exact h.uncased
  | some c => rfl

theorem PartsWords.lowerChars_behind (h : PartsWords sep) (far cs : List Char) :
    ∀ near, lowerChars (near ++ sep :: far) cs = lowerChars near cs := by
  induction cs with
  | nil => exact fun near => rfl
  | cons c cs ih =>
    intro near
    have hends : endsWord (near ++ sep :: far) cs = endsWord near cs := by
      rw [endsWord, endsWord, h.any_find?]
    rw [lowerChars, lowerChars, hends, ← List.cons_append, ih]

theorem PartsWords.lowerChars_append (h : PartsWords sep) (cs ds : List Char) :
    ∀ before, lowerChars before (cs ++ sep :: ds) =
      lowerChars before cs ++ sep :: lowerChars [] ds := by
  induction cs with
  | nil =>
    intro before
    have hbehind : lowerChars (sep :: before) ds = lowerChars [] ds :=
      h.lowerChars_behind before ds []
    simp only [List.nil_append, lowerChars, if_neg h.ne_sigma, h.same, hbehind,
      List.singleton_append]
  | cons c cs ih =>
    intro before
    have hends : endsWord before (cs ++ sep :: ds) = endsWord before cs := by
      rw [endsWord, endsWord, h.any_find?]
    rw [List.cons_append, lowerChars, lowerChars, hends, ih, List.append_assoc]

/-- The texts on both sides of such a character do not know of each other. -/
theorem PartsWords.lower_append (h : PartsWords sep) (s t : String) :
    lower (s ++ String.singleton sep ++ t) = lower s ++ String.singleton sep ++ lower t := by
  refine String.toList_injective ?_
  simp only [lower, String.toList_append, String.toList_singleton, String.toList_ofList,
    List.append_assoc, List.singleton_append]
  exact h.lowerChars_append s.toList t.toList []

/-- **Lower case, word by word.**  Pieces between such characters can be put in lower case one
    by one. -/
theorem PartsWords.lower_join (h : PartsWords sep) : ∀ pieces : List String,
    lower (join (String.singleton sep) pieces) = join (String.singleton sep) (pieces.map lower)
  | [] => rfl
  | [piece] => by
    rw [List.map_singleton, join, join, String.intercalate_singleton, String.intercalate_singleton]
  | piece :: second :: rest => by
    have ih := h.lower_join (second :: rest)
    rw [join, join, List.map_cons] at ih
    rw [join, join, List.map_cons, List.map_cons, String.intercalate_cons_cons,
      String.intercalate_cons_cons, h.lower_append, ih]

end

end Text

/-! ## Words of names and folders -/

namespace Naming

variable {path padded segment : String} {skip : Nat}

/-- The word that a segment gives to names and folders: cleaned, and in lower case. -/
def word (segment : String) : String := Text.lower (clean segment)

theorem slash_not_mem_word (h : segment ∈ segments path skip) : '/' ∉ (word segment).toList :=
  (Text.lowered_lower _).not_mem (by decide) (slash_not_mem_clean h)

theorem word_ne_empty (h : segment ∈ segments path skip) : word segment ≠ "" := by
  intro hempty
  have hlowered := Text.lowered_lower (clean segment)
  exact hlowered.ne_nil (clean_ne_nil h) (congrArg String.toList hempty)

/-- A name is made of the words of the segments. -/
theorem name_eq_join (h : segments path skip ≠ []) :
    name path skip = Text.join "_" ((segments path skip).map word) := by
  unfold name
  split
  · next hnil => exact absurd hnil h
  · exact (Text.partsWords_underscore.lower_join _).trans (congrArg _ (List.map_map ..))

/-- So is a folder, but for the last. -/
theorem folder_eq_join (path : String) (skip : Nat) :
    folder path skip = Text.join "/" ((segments path skip).dropLast.map word) :=
  (Text.partsWords_slash.lower_join _).trans (congrArg _ (List.map_map ..))

theorem dropLast_ne_nil (h : folder path skip ≠ "") : (segments path skip).dropLast ≠ [] := by
  intro hnil
  rw [folder_eq_join, hnil] at h
  exact h rfl

theorem slash_not_mem_words :
    ∀ key ∈ (segments path skip).dropLast.map word, '/' ∉ key.toList :=
  List.forall_mem_map.2 fun _ hsegment => slash_not_mem_word (List.dropLast_subset _ hsegment)

theorem split_folder (h : (segments path skip).dropLast ≠ []) :
    Text.split '/' (folder path skip) = (segments path skip).dropLast.map word := by
  rw [folder_eq_join]
  exact @Text.split_join '/' _ (mt List.map_eq_nil_iff.1 h) slash_not_mem_words

theorem empty_not_mem_words : "" ∉ (segments path skip).dropLast.map word := by
  rw [List.mem_map]
  rintro ⟨segment, hsegment, hempty⟩
  exact word_ne_empty (List.dropLast_subset _ hsegment) hempty

/-- The segments of a folder are the words of those in front of the last one. -/
theorem segments_folder (path : String) (skip : Nat) :
    UrlTree.segments (folder path skip) = (segments path skip).dropLast.map word := by
  by_cases h : (segments path skip).dropLast = []
  · rw [folder_eq_join, h]
    decide
  · rw [UrlTree.segments, split_folder h, List.filter_eq_self]
    exact fun key hkey => decide_eq_true fun hempty => empty_not_mem_words (hempty ▸ hkey)

/-- **Names below folders.**  If there is a folder, the name is made of the folder, with
    underscores for slashes, and the last word. -/
theorem name_eq_append_word (h : folder path skip ≠ "") :
    ∃ last, (segments path skip).getLast? = some last ∧
      name path skip = Text.replaceAll "/" "_" (folder path skip) ++ "_" ++ word last := by
  have hfront := dropLast_ne_nil h
  have hne : segments path skip ≠ [] := fun hnil => hfront (by rw [hnil, List.dropLast_nil])
  refine ⟨(segments path skip).getLast hne, List.getLast?_eq_some_getLast hne, ?_⟩
  have hreplaced : Text.replaceAll "/" "_" (folder path skip) =
      Text.join "_" ((segments path skip).dropLast.map word) := by
    rw [folder_eq_join]
    exact @Text.replaceAll_join '/' "_" _ slash_not_mem_words
  have hwords : (segments path skip).map word =
      (segments path skip).dropLast.map word ++ [word ((segments path skip).getLast hne)] := by
    rw [← List.map_singleton, ← List.map_append, List.dropLast_concat_getLast]
  rw [hreplaced, name_eq_join hne, hwords,
    Text.join_append _ (mt List.map_eq_nil_iff.1 hfront) (List.cons_ne_nil _ _)]
  exact congrArg _ String.intercalate_singleton

/-! ## Marks -/

/-- A folder has the marks of its segments, and slashes, only. -/
theorem not_mem_folder {c : Char} (hc : Text.IsMark c) (hjoin : c ≠ '/')
    (h : ∀ segment ∈ segments path skip, c ∉ (clean segment).toList) :
    c ∉ (folder path skip).toList := by
  refine (Text.lowered_lower _).not_mem hc (Text.not_mem_join ?_ (List.forall_mem_map.2 ?_))
  · exact fun hmem => hjoin (List.mem_singleton.1 hmem)
  · exact fun segment hs => h segment (List.dropLast_subset _ hs)

theorem isMark_of_brace_or_hyphen {c : Char} (hc : c ∈ ['\x7b', '\x7d', '-']) : Text.IsMark c := by
  simp only [List.mem_cons, List.not_mem_nil, or_false] at hc
  rcases hc with rfl | rfl | rfl
  · decide
  · decide
  · decide

theorem ne_of_brace_or_hyphen {c d : Char} (hc : c ∈ ['\x7b', '\x7d', '-'])
    (hd : d ∉ ['\x7b', '\x7d', '-']) : c ≠ d := fun he => hd (he ▸ hc)

/-- A kept segment has no brace, and a cleaned one no hyphen. -/
theorem not_mem_clean {c : Char} (hc : c ∈ ['\x7b', '\x7d', '-']) (h : segment ∈ segments path skip) :
    c ∉ (clean segment).toList := by
  intro hmem
  obtain ⟨hmem, hhyphen⟩ := mem_of_mem_clean (ne_of_brace_or_hyphen hc (by decide)) hmem
  have hkept := (List.mem_filter.1 (List.mem_of_mem_drop h)).2
  simp only [isKept, Bool.and_eq_true, Bool.not_eq_true', List.any_eq_false] at hkept
  have hbrace := hkept.2 c hmem
  simp only [List.mem_cons, List.not_mem_nil, or_false] at hc
  rcases hc with rfl | rfl | rfl
  · exact absurd hbrace (by decide)
  · exact absurd hbrace (by decide)
  · exact hhyphen rfl

/-! ## Paths with more in them -/

/-- The segments of a path that are kept. -/
def kept (path : String) : List String := (Text.split '/' path).filter isKept

/-- A whole segment with a brace in it. -/
def IsBraced (segment : String) : Prop :=
  '/' ∉ segment.toList ∧ ('\x7b' ∈ segment.toList ∨ '\x7d' ∈ segment.toList)

instance : DecidablePred IsBraced := fun segment =>
  inferInstanceAs
    (Decidable ('/' ∉ segment.toList ∧ ('\x7b' ∈ segment.toList ∨ '\x7d' ∈ segment.toList)))

/-- A segment can start behind a text that is empty or ends with a slash. -/
def OpenBehind (s : String) : Prop := s = "" ∨ ∃ before, s = before ++ "/"

/-- A segment can end in front of a text that is empty or starts with a slash. -/
def OpenBefore (t : String) : Prop := t = "" ∨ ∃ behind, t = "/" ++ behind

/-- A path with more slashes, at its ends or beside those that it has, and with more segments
    that have a brace, each of them whole: between slashes or ends of the path. -/
inductive Padded : String → String → Prop
  | refl (path : String) : Padded path path
  | trans {path padded padded' : String} : Padded path padded → Padded padded padded' →
      Padded path padded'
  | front (path : String) : Padded path ("/" ++ path)
  | back (path : String) : Padded path (path ++ "/")
  | doubled (s t : String) : Padded (s ++ "/" ++ t) (s ++ "//" ++ t)
  | braced {s segment t : String} : OpenBehind s → IsBraced segment → OpenBefore t →
      Padded (s ++ t) (s ++ segment ++ t)

theorem append_two_slashes (s t : String) : s ++ "//" ++ t = s ++ "/" ++ ("/" ++ t) :=
  String.toList_injective (by simp [String.toList_append])

/-- A segment with a brace between two segments. -/
theorem Padded.between (s t : String) (h : IsBraced segment) :
    Padded (s ++ "/" ++ t) (s ++ "/" ++ segment ++ "/" ++ t) := by
  have hfilled := Padded.braced (Or.inr ⟨s, rfl⟩) h (Or.inr ⟨t, rfl⟩)
  rw [← append_two_slashes, ← String.append_assoc] at hfilled
  exact (Padded.doubled s t).trans hfilled

/-- A segment with a brace in front of all others. -/
theorem Padded.before (path : String) (h : IsBraced segment) :
    Padded path (segment ++ "/" ++ path) := by
  have hfilled := Padded.braced (Or.inl rfl) h (Or.inr ⟨path, rfl⟩)
  rw [String.empty_append, String.empty_append, ← String.append_assoc] at hfilled
  exact (Padded.front path).trans hfilled

/-- A segment with a brace behind all others. -/
theorem Padded.behind (path : String) (h : IsBraced segment) :
    Padded path (path ++ "/" ++ segment) := by
  have hfilled := Padded.braced (Or.inr ⟨path, rfl⟩) h (Or.inl rfl)
  rw [String.append_empty, String.append_empty] at hfilled
  exact (Padded.back path).trans hfilled

theorem kept_empty : kept "" = [] := by decide

theorem kept_append_slash (s t : String) : kept (s ++ "/" ++ t) = kept s ++ kept t := by
  rw [kept, show ("/" : String) = String.singleton '/' from rfl, Text.split_append_sep,
    List.filter_append]
  rfl

theorem kept_slash_append (path : String) : kept ("/" ++ path) = kept path := by
  have h := kept_append_slash "" path
  rwa [String.empty_append, kept_empty, List.nil_append] at h

theorem kept_concat_slash (path : String) : kept (path ++ "/") = kept path := by
  have h := kept_append_slash path ""
  rwa [String.append_empty, kept_empty, List.append_nil] at h

theorem IsBraced.kept_eq (h : IsBraced segment) : kept segment = [] := by
  have hbrace : segment.toList.any (fun c => c == '\x7b' || c == '\x7d') = true := by
    rw [List.any_eq_true]
    rcases h.2 with hopen | hclose
    · exact ⟨_, hopen, rfl⟩
    · exact ⟨_, hclose, rfl⟩
  rw [kept, Text.split_eq_singleton h.1, List.filter_singleton, isKept, hbrace, Bool.not_true,
    Bool.and_false]
  rfl

theorem OpenBehind.kept_append {s : String} (h : OpenBehind s) (t : String) :
    kept (s ++ t) = kept s ++ kept t := by
  rcases h with rfl | ⟨before, rfl⟩
  · rw [String.empty_append, kept_empty, List.nil_append]
  · rw [kept_append_slash, kept_concat_slash]

theorem OpenBefore.kept_append {t : String} (h : OpenBefore t) (s : String) :
    kept (s ++ t) = kept s ++ kept t := by
  rcases h with rfl | ⟨behind, rfl⟩
  · rw [String.append_empty, kept_empty, List.append_nil]
  · rw [← String.append_assoc, kept_append_slash, kept_slash_append]

/-- **Padding** does not change what is kept. -/
theorem Padded.kept_eq (h : Padded path padded) : kept padded = kept path := by
  induction h with
  | refl path => rfl
  | trans _ _ ih ih' => exact ih'.trans ih
  | front path => exact kept_slash_append path
  | back path => exact kept_concat_slash path
  | doubled s t => rw [append_two_slashes, kept_append_slash, kept_append_slash, kept_slash_append]
  | braced hs hsegment ht =>
    rw [ht.kept_append, hs.kept_append, hs.kept_append, hsegment.kept_eq, List.append_nil]

theorem Padded.segments_eq (h : Padded path padded) (skip : Nat) :
    segments padded skip = segments path skip :=
  congrArg (List.drop (2 * skip)) h.kept_eq

/-! ## Names and folders -/

/-- **Names and folders.**  If a path has a folder, its name is the folder, with underscores for
    slashes, and the word of its last segment, and the folder has no empty segment.  Neither has a
    brace or a hyphen, and the name has no slash.  And neither is changed by more slashes in the
    path, or by more segments with braces. -/
theorem name_folder_agree (path : String) (skip : Nat) :
    (folder path skip ≠ "" →
      (∃ last, (segments path skip).getLast? = some last ∧
        name path skip = Text.replaceAll "/" "_" (folder path skip) ++ "_" ++ word last) ∧
      "" ∉ Text.split '/' (folder path skip)) ∧
    (∀ c ∈ ['\x7b', '\x7d', '-'], c ∉ (name path skip).toList ∧ c ∉ (folder path skip).toList) ∧
    '/' ∉ (name path skip).toList ∧
    ∀ padded, Padded path padded →
      name padded skip = name path skip ∧ folder padded skip = folder path skip := by
  refine ⟨fun h => ⟨name_eq_append_word h, ?_⟩, fun c hc => ?_, slash_not_mem_name path skip,
    fun padded h => ?_⟩
  · rw [split_folder (dropLast_ne_nil h)]
    exact empty_not_mem_words
  · have hmark := isMark_of_brace_or_hyphen hc
    exact ⟨not_mem_name hmark (ne_of_brace_or_hyphen hc (by decide)) fun _ => not_mem_clean hc,
      not_mem_folder hmark (ne_of_brace_or_hyphen hc (by decide)) fun _ => not_mem_clean hc⟩
  · have hsegments := h.segments_eq skip
    exact ⟨by rw [name, name, hsegments], by rw [folder, folder, hsegments]⟩

/-- A segment that ends with a sigma, one with a sigma that is a word of its own, and parameters
    in front of, between and behind them. -/
theorem name_folder_agree_sigma :
    folder "ΟΔΟΣ/Team-Σ" 0 ≠ "" ∧
      (∃ last, (segments "ΟΔΟΣ/Team-Σ" 0).getLast? = some last ∧ name "ΟΔΟΣ/Team-Σ" 0 =
        Text.replaceAll "/" "_" (folder "ΟΔΟΣ/Team-Σ" 0) ++ "_" ++ word last) ∧
      Padded "ΟΔΟΣ/Team-Σ" "/\x7ba\x7d/ΟΔΟΣ/\x7bb\x7d/Team-Σ/\x7bc\x7d" ∧
      name "/\x7ba\x7d/ΟΔΟΣ/\x7bb\x7d/Team-Σ/\x7bc\x7d" 0 = "οδος_team_σ" ∧
      folder "/\x7ba\x7d/ΟΔΟΣ/\x7bb\x7d/Team-Σ/\x7bc\x7d" 0 = "οδος" := by
  obtain ⟨hname, -, -, hpadded⟩ := name_folder_agree "ΟΔΟΣ/Team-Σ" 0
  have hfolder : folder "ΟΔΟΣ/Team-Σ" 0 = "οδος" := by decide +kernel
  have hne : folder "ΟΔΟΣ/Team-Σ" 0 ≠ "" := by
    rw [hfolder]
    decide
  have hbetween : Padded "ΟΔΟΣ/Team-Σ" "ΟΔΟΣ/\x7bb\x7d/Team-Σ" :=
    @Padded.between "\x7bb\x7d" "ΟΔΟΣ" "Team-Σ" (by decide)
  have hbefore := @Padded.before "\x7ba\x7d" "ΟΔΟΣ/\x7bb\x7d/Team-Σ" (by decide)
  have hbehind := @Padded.behind "\x7bc\x7d" "\x7ba\x7d/ΟΔΟΣ/\x7bb\x7d/Team-Σ" (by decide)
  have hpad : Padded "ΟΔΟΣ/Team-Σ" "/\x7ba\x7d/ΟΔΟΣ/\x7bb\x7d/Team-Σ/\x7bc\x7d" :=
    ((hbetween.trans hbefore).trans hbehind).trans (.front _)
  obtain ⟨hsame, hsame'⟩ := hpadded _ hpad
  refine ⟨hne, (hname hne).1, hpad, ?_, hsame'.trans hfolder⟩
  rw [hsame]
  decide +kernel

end Naming

end ApiTypes
