/-
  The suffix that the parameters of a path give to a name.

  * `plainName_eq_reduced`: a parameter name is reduced to its runs of letters and digits, which
    is what is left of it step by step: underscores for all other characters, one for several, and
    none at the ends;
  * `IsPlainName`: runs of letters and digits with single underscores between them; names that
    are not empty are of this kind (`isPlainName_plainName`), and so is the suffix;
  * `Tidy`: what this means for the characters of a text, one by one and side by side;
  * `parameterSuffix_spec`: hence what a suffix looks like, what it adds to a name, and when there
    is one.
-/
import ApiTypes.Naming
import Mathlib.Data.List.Destutter
import Mathlib.Data.List.DropRight

namespace ApiTypes.Naming

/-! ## Plain names -/

/-- Letters and digits, at least one. -/
def IsRun (s : String) : Prop := s ≠ "" ∧ ∀ c ∈ s.toList, isPlain c = true

/-- One or more runs of letters and digits, with single underscores between them. -/
def IsPlainName (s : String) : Prop :=
  ∃ runs : List String, runs ≠ [] ∧ (∀ run ∈ runs, IsRun run) ∧ s = Text.join "_" runs

theorem IsRun.isPlainName {s : String} (h : IsRun s) : IsPlainName s :=
  ⟨[s], List.cons_ne_nil _ _, by simpa using h, String.intercalate_singleton.symm⟩

theorem IsPlainName.append {s t : String} (hs : IsPlainName s) (ht : IsPlainName t) :
    IsPlainName (s ++ "_" ++ t) := by
  obtain ⟨runs, hne, hruns, rfl⟩ := hs
  obtain ⟨more, hmore, hruns', rfl⟩ := ht
  refine ⟨runs ++ more, List.append_ne_nil_of_left_ne_nil hne _, ?_, ?_⟩
  · exact List.forall_mem_append.2 ⟨hruns, hruns'⟩
  · exact (Text.join_append "_" hne hmore).symm

theorem isPlainName_join_and : ∀ {names : List String}, names ≠ [] →
    (∀ name ∈ names, IsPlainName name) → IsPlainName (Text.join "_and_" names)
  | [], hne, _ => absurd rfl hne
  | [name], _, h => by
    rw [Text.join, String.intercalate_singleton]
    exact h name List.mem_cons_self
  | name :: second :: rest, _, h => by
    have ih := isPlainName_join_and (List.cons_ne_nil second rest) fun other hother =>
      h other (List.mem_cons_of_mem _ hother)
    have hand : IsPlainName "and" := IsRun.isPlainName ⟨by decide, List.all_eq_true.1 (by decide)⟩
    have hjoined := ((h name List.mem_cons_self).append hand).append ih
    have hsep : name ++ "_and_" ++ Text.join "_and_" (second :: rest) =
        name ++ "_" ++ "and" ++ "_" ++ Text.join "_and_" (second :: rest) :=
      String.toList_injective (by simp [String.toList_append])
    rw [Text.join, String.intercalate_cons_cons]
    exact hsep ▸ hjoined

/-- The runs of letters and digits in a text. -/
def plainRuns (cs : List Char) : List (List Char) :=
  (cs.splitOnP (!isPlain ·)).filter (· ≠ [])

theorem plainName_eq_join (parameter : String) : plainName parameter =
    Text.join "_" ((plainRuns (Text.lower parameter).toList).map String.ofList) := rfl

theorem toList_plainName (parameter : String) :
    (plainName parameter).toList = ['_'].intercalate (plainRuns (Text.lower parameter).toList) := by
  rw [plainName_eq_join, Text.toList_join, List.map_map]
  simp [Function.comp_def]

theorem mem_plainRuns {cs run : List Char} (h : run ∈ plainRuns cs) :
    run ≠ [] ∧ ∀ c ∈ run, isPlain c = true := by
  obtain ⟨hmem, hne⟩ := List.mem_filter.1 h
  refine ⟨of_decide_eq_true hne, fun c hc => ?_⟩
  simpa using Text.eq_false_of_mem_splitOnP hmem c hc

theorem plainRuns_eq_nil_iff {cs : List Char} :
    plainRuns cs = [] ↔ ∀ c ∈ cs, isPlain c = false := by
  have hpieces : plainRuns cs = [] ↔ (cs.splitOnP (!isPlain ·)).flatten = [] := by
    rw [plainRuns, List.filter_eq_nil_iff, List.flatten_eq_nil_iff]
    simp
  rw [hpieces, Text.flatten_splitOnP, List.filter_eq_nil_iff]
  simp

theorem isRun_of_mem_plainRuns {cs run : List Char} (h : run ∈ plainRuns cs) :
    IsRun (String.ofList run) := by
  obtain ⟨hne, hplain⟩ := mem_plainRuns h
  refine ⟨fun hempty => hne ?_, by rwa [String.toList_ofList]⟩
  rw [← String.toList_ofList (l := run), hempty]
  rfl

/-- What is left of a parameter name is a plain name, if anything is. -/
theorem isPlainName_plainName {parameter : String} (h : plainName parameter ≠ "") :
    IsPlainName (plainName parameter) := by
  refine ⟨_, ?_, List.forall_mem_map.2 fun _ => isRun_of_mem_plainRuns, plainName_eq_join parameter⟩
  intro hnil
  rw [plainName_eq_join, hnil] at h
  exact h rfl

/-! ## Characters of plain names -/

/-- Not both are underscores. -/
def Apart (c d : Char) : Prop := ¬(c = '_' ∧ d = '_')

instance : DecidableRel Apart := fun c d => inferInstanceAs (Decidable (¬(c = '_' ∧ d = '_')))

/-- No two underscores stand side by side if no two neighbours are underscores. -/
theorem isChain_apart_iff {cs : List Char} : cs.IsChain Apart ↔ ¬ ['_', '_'] <:+: cs := by
  rw [List.isChain_iff_forall_rel_of_append_cons_cons]
  constructor
  · rintro h ⟨before, behind, rfl⟩
    exact h (List.append_assoc before ['_', '_'] behind) ⟨rfl, rfl⟩
  · rintro h c d before behind rfl ⟨rfl, rfl⟩
    exact h ⟨before, behind, List.append_assoc before ['_', '_'] behind⟩

/-- A text of letters, digits and single underscores that neither starts nor ends with an
    underscore. -/
structure Tidy (cs : List Char) : Prop where
  letters : ∀ c ∈ cs, isPlain c = true ∨ c = '_'
  first : ∃ c, cs.head? = some c ∧ c ≠ '_'
  last : ∃ c, cs.getLast? = some c ∧ c ≠ '_'
  apart : cs.IsChain Apart

theorem ne_underscore_of_isPlain {c : Char} (h : isPlain c = true) : c ≠ '_' := by
  rintro rfl
  exact absurd h (by decide)

theorem tidy_run {cs : List Char} (hne : cs ≠ []) (h : ∀ c ∈ cs, isPlain c = true) : Tidy cs where
  letters c hc := Or.inl (h c hc)
  first := ⟨cs.head hne, List.head?_eq_some_head hne,
    ne_underscore_of_isPlain (h _ (List.head_mem hne))⟩
  last := ⟨cs.getLast hne, List.getLast?_eq_some_getLast hne,
    ne_underscore_of_isPlain (h _ (List.getLast_mem hne))⟩
  apart := by
    rw [isChain_apart_iff]
    intro hdouble
    exact ne_underscore_of_isPlain (h '_' (hdouble.subset List.mem_cons_self)) rfl

theorem Tidy.append {cs ds : List Char} (hcs : Tidy cs) (hds : Tidy ds) :
    Tidy (cs ++ '_' :: ds) := by
  obtain ⟨first, hfirst, hfirst'⟩ := hcs.first
  obtain ⟨last, hlast, hlast'⟩ := hcs.last
  obtain ⟨next, hnext, hnext'⟩ := hds.first
  obtain ⟨final, hfinal, hfinal'⟩ := hds.last
  refine ⟨fun c hc => ?_, ⟨first, ?_, hfirst'⟩, ⟨final, ?_, hfinal'⟩, ?_⟩
  · rcases List.mem_append.1 hc with hc | hc
    · exact hcs.letters c hc
    · rcases List.mem_cons.1 hc with rfl | hc
      · exact Or.inr rfl
      · exact hds.letters c hc
  · rw [List.head?_append, hfirst]
    rfl
  · rw [List.getLast?_append_cons, List.getLast?_cons, hfinal]
    rfl
  · refine List.isChain_append.2 ⟨hcs.apart, List.isChain_cons.2 ⟨?_, hds.apart⟩, ?_⟩
    · rintro c hc ⟨-, rfl⟩
      exact hnext' (Option.some.inj (hnext.symm.trans hc))
    · rintro c hc d - ⟨rfl, -⟩
      exact hlast' (Option.some.inj (hlast.symm.trans hc))

theorem tidy_intercalate : ∀ {runs : List (List Char)}, runs ≠ [] →
    (∀ run ∈ runs, run ≠ [] ∧ ∀ c ∈ run, isPlain c = true) → Tidy (['_'].intercalate runs)
  | [], hne, _ => absurd rfl hne
  | [run], _, h => by
    rw [List.intercalate_singleton]
    exact tidy_run (h run List.mem_cons_self).1 (h run List.mem_cons_self).2
  | run :: second :: rest, _, h => by
    have ih := tidy_intercalate (List.cons_ne_nil second rest) fun other hother =>
      h other (List.mem_cons_of_mem _ hother)
    rw [List.intercalate_cons_cons, List.append_assoc]
    exact (tidy_run (h run List.mem_cons_self).1 (h run List.mem_cons_self).2).append ih

theorem IsPlainName.tidy {s : String} (h : IsPlainName s) : Tidy s.toList := by
  obtain ⟨runs, hne, hruns, rfl⟩ := h
  rw [Text.toList_join]
  refine tidy_intercalate (mt List.map_eq_nil_iff.1 hne) (List.forall_mem_map.2 fun run hrun => ?_)
  obtain ⟨hempty, hplain⟩ := hruns run hrun
  exact ⟨fun hnil => hempty (String.toList_injective hnil), hplain⟩

theorem Tidy.ne_empty {s : String} (h : Tidy s.toList) : s ≠ "" := by
  rintro rfl
  obtain ⟨c, hc, -⟩ := h.first
  exact absurd hc nofun

/-- Behind any text, a tidy one adds letters, digits and underscores only, no two of them side by
    side, and it does not end with one. -/
theorem Tidy.behind {cs : List Char} (h : Tidy cs) (before : List Char) :
    (∀ c ∈ before ++ cs, c ∈ before ∨ isPlain c = true ∨ c = '_') ∧
      (['_', '_'] <:+: before ++ cs → ['_', '_'] <:+: before) ∧
      (before ++ cs).getLast? ≠ some '_' := by
  refine ⟨fun c hc => ?_, ?_, ?_⟩
  · exact (List.mem_append.1 hc).imp id (h.letters c)
  · contrapose
    intro hbefore
    obtain ⟨first, hfirst, hne⟩ := h.first
    rw [← isChain_apart_iff] at hbefore ⊢
    refine List.isChain_append.2 ⟨hbefore, h.apart, ?_⟩
    rintro c - d hd ⟨-, rfl⟩
    exact hne (Option.some.inj (hfirst.symm.trans hd))
  · obtain ⟨last, hlast, hne⟩ := h.last
    rw [List.getLast?_append, hlast]
    exact fun heq => hne (Option.some.inj heq)

/-! ## Parameter names, step by step -/

/-- An underscore for what is neither a letter nor a digit. -/
def underscored (c : Char) : Char := if isPlain c then c else '_'

/-- A text with underscores for what is neither a letter nor a digit, and one for several that
    stand side by side. -/
def squeezed (cs : List Char) : List Char := (cs.map underscored).destutter Apart

/-- What is left of a parameter name in lower case without the underscores at its ends. -/
def reduced (parameter : String) : String :=
  Text.strip (· == '_') (String.ofList (squeezed (Text.lower parameter).toList))

section

variable {c : Char}

theorem dropWhile_cons_of_isPlain (h : isPlain c = true) (cs : List Char) :
    (c :: cs).dropWhile (· == '_') = c :: cs :=
  List.dropWhile_cons_of_neg (by simpa using ne_underscore_of_isPlain h)

theorem squeezed_cons_of_isPlain (h : isPlain c = true) (cs : List Char) :
    squeezed (c :: cs) = c :: squeezed cs := by
  have hc : underscored c = c := if_pos h
  rw [squeezed, List.map_cons, hc, List.destutter_cons']
  cases cs with
  | nil => rfl
  | cons d cs =>
    rw [List.map_cons, List.destutter'_cons_pos _ fun hboth => ne_underscore_of_isPlain h hboth.1,
      ← List.destutter_cons', ← List.map_cons, squeezed]

theorem exists_destutter'_eq_cons (c : Char) (cs : List Char) :
    ∃ rest, cs.destutter' Apart c = c :: rest := by
  induction cs with
  | nil => exact ⟨[], rfl⟩
  | cons d cs ih =>
    by_cases h : Apart c d
    · exact ⟨_, List.destutter'_cons_pos cs h⟩
    · rwa [List.destutter'_cons_neg cs h]

theorem destutter'_underscore : ∀ cs : List Char,
    cs.destutter' Apart '_' = '_' :: (cs.destutter Apart).dropWhile (· == '_')
  | [] => rfl
  | c :: cs => by
    rw [List.destutter_cons']
    by_cases hc : c = '_'
    · have ih := destutter'_underscore cs
      rw [hc, List.destutter'_cons_neg _ (not_not_intro ⟨rfl, rfl⟩), ih,
        List.dropWhile_cons_of_pos (by decide), List.dropWhile_idempotent]
    · obtain ⟨kept, hkept⟩ := exists_destutter'_eq_cons c cs
      rw [List.destutter'_cons_pos _ fun hboth => hc hboth.2, hkept,
        List.dropWhile_cons_of_neg (by simpa using hc)]

theorem squeezed_cons_of_not_isPlain (h : isPlain c = false) (cs : List Char) :
    squeezed (c :: cs) = '_' :: (squeezed cs).dropWhile (· == '_') := by
  have hc : underscored c = '_' := if_neg (Bool.eq_false_iff.1 h)
  rw [squeezed, List.map_cons, hc, List.destutter_cons', destutter'_underscore, squeezed]

theorem plainRuns_cons_of_not_isPlain (h : isPlain c = false) (cs : List Char) :
    plainRuns (c :: cs) = plainRuns cs := by
  rw [plainRuns, List.splitOnP_cons_eq_if_modifyHead, if_pos (by rw [h]; rfl), plainRuns]
  rfl

theorem splitOnP_cons_of_isPlain (h : isPlain c = true) {cs first : List Char}
    {rest : List (List Char)} (hcs : cs.splitOnP (!isPlain ·) = first :: rest) :
    (c :: cs).splitOnP (!isPlain ·) = (c :: first) :: rest := by
  rw [List.splitOnP_cons_eq_if_modifyHead, if_neg (by simp [h]), hcs, List.modifyHead_cons]

theorem plainRuns_singleton (h : isPlain c = true) : plainRuns [c] = [[c]] := by
  rw [plainRuns, splitOnP_cons_of_isPlain h List.splitOnP_nil]
  rfl

/-- A letter or digit begins a run where another character follows. -/
theorem plainRuns_cons_cons {d : Char} (hc : isPlain c = true) (hd : isPlain d = false)
    (cs : List Char) : plainRuns (c :: d :: cs) = [c] :: plainRuns (d :: cs) := by
  have hsplit : (d :: cs).splitOnP (!isPlain ·) = [] :: cs.splitOnP (!isPlain ·) := by
    rw [List.splitOnP_cons_eq_if_modifyHead, if_pos (by rw [hd]; rfl)]
  rw [plainRuns_cons_of_not_isPlain hd, plainRuns, splitOnP_cons_of_isPlain hc hsplit,
    List.filter_cons_of_pos (by simp), plainRuns]

/-- It is put in front of the run that follows. -/
theorem exists_plainRuns_eq_cons {d : Char} (hc : isPlain c = true) (hd : isPlain d = true)
    (cs : List Char) : ∃ run rest, plainRuns (d :: cs) = run :: rest ∧
      plainRuns (c :: d :: cs) = (c :: run) :: rest := by
  obtain ⟨first, rest, hsplit⟩ := List.exists_cons_of_ne_nil (List.splitOnP_ne_nil (!isPlain ·) cs)
  have hsplit' := splitOnP_cons_of_isPlain hd hsplit
  refine ⟨d :: first, rest.filter (· ≠ []), ?_, ?_⟩
  · rw [plainRuns, hsplit', List.filter_cons_of_pos (by simp)]
  · rw [plainRuns, splitOnP_cons_of_isPlain hc hsplit', List.filter_cons_of_pos (by simp)]

theorem intercalate_cons_append (c : Char) (run : List Char) (rest : List (List Char)) :
    ['_'].intercalate ((c :: run) :: rest) = c :: ['_'].intercalate (run :: rest) := by
  cases rest with
  | nil => rw [List.intercalate_singleton, List.intercalate_singleton]
  | cons second rest => rw [List.intercalate_cons_cons, List.intercalate_cons_cons]; rfl

end

/-- Behind its first letter or digit, a squeezed text is its runs joined by underscores, with at
    most one more underscore at the end. -/
theorem dropWhile_squeezed (cs : List Char) : ∃ tail, (tail = [] ∨ tail = ['_']) ∧
    (plainRuns cs = [] → tail = []) ∧
    (squeezed cs).dropWhile (· == '_') = ['_'].intercalate (plainRuns cs) ++ tail := by
  induction cs with
  | nil => exact ⟨[], Or.inl rfl, fun _ => rfl, rfl⟩
  | cons c cs ih =>
    obtain ⟨tail, htail, hnil, hdrop⟩ := ih
    cases hc : isPlain c with
    | false =>
      refine ⟨tail, htail, by rwa [plainRuns_cons_of_not_isPlain hc], ?_⟩
      rw [squeezed_cons_of_not_isPlain hc, List.dropWhile_cons_of_pos (by decide),
        List.dropWhile_idempotent, hdrop, plainRuns_cons_of_not_isPlain hc]
    | true =>
      rw [squeezed_cons_of_isPlain hc, dropWhile_cons_of_isPlain hc]
      cases cs with
      | nil =>
        refine ⟨[], Or.inl rfl, fun _ => rfl, ?_⟩
        rw [plainRuns_singleton hc]
        rfl
      | cons d cs =>
        cases hd : isPlain d with
        | true =>
          -- the run of the next letter goes on to the front
          obtain ⟨run, rest, hrun, hruns⟩ := exists_plainRuns_eq_cons hc hd cs
          rw [squeezed_cons_of_isPlain hd, dropWhile_cons_of_isPlain hd,
            ← squeezed_cons_of_isPlain hd, hrun] at hdrop
          refine ⟨tail, htail, by rw [hruns]; nofun, ?_⟩
          rw [hdrop, hruns, intercalate_cons_append, List.cons_append]
        | false =>
          have hnext : squeezed (d :: cs) =
              '_' :: (['_'].intercalate (plainRuns (d :: cs)) ++ tail) := by
            rw [← hdrop, squeezed_cons_of_not_isPlain hd, List.dropWhile_cons_of_pos (by decide),
              List.dropWhile_idempotent]
          rw [plainRuns_cons_cons hc hd, hnext]
          cases hruns : plainRuns (d :: cs) with
          | nil =>
            -- no run follows, so the underscore stays at the end
            rw [hnil hruns]
            exact ⟨['_'], Or.inr rfl, nofun, rfl⟩
          | cons run rest => exact ⟨tail, htail, nofun, rfl⟩

theorem Tidy.dropWhile_reverse {cs : List Char} (h : Tidy cs) :
    cs.reverse.dropWhile (· == '_') = cs.reverse := by
  obtain ⟨last, hlast, hne⟩ := h.last
  rw [← List.head?_reverse] at hlast
  obtain ⟨rest, hrest⟩ := List.head?_eq_some_iff.1 hlast
  rw [hrest, List.dropWhile_cons_of_neg (by simpa using hne)]

/-- **Step by step**, a parameter name is reduced to its runs of letters and digits. -/
theorem plainName_eq_reduced (parameter : String) : plainName parameter = reduced parameter := by
  obtain ⟨tail, htail, hnil, hdrop⟩ := dropWhile_squeezed (Text.lower parameter).toList
  refine String.toList_injective ?_
  rw [toList_plainName, reduced, Text.strip, String.toList_ofList, String.toList_ofList, hdrop]
  by_cases hruns : plainRuns (Text.lower parameter).toList = []
  · rw [hnil hruns, hruns]
    rfl
  · have hends := (tidy_intercalate hruns fun _ => mem_plainRuns).dropWhile_reverse
    rcases htail with rfl | rfl
    · rw [List.append_nil, hends, List.reverse_reverse]
    · rw [List.reverse_concat, List.dropWhile_cons_of_pos (by decide), hends, List.reverse_reverse]

/-! ## Suffixes -/

theorem plainName_eq_empty_iff (parameter : String) :
    plainName parameter = "" ↔ ∀ c ∈ (Text.lower parameter).toList, isPlain c = false := by
  rw [← plainRuns_eq_nil_iff]
  constructor
  · intro hempty
    by_contra hruns
    have htidy := tidy_intercalate hruns fun _ => mem_plainRuns
    rw [← toList_plainName] at htidy
    exact htidy.ne_empty hempty
  · intro hruns
    rw [plainName_eq_join, hruns]
    rfl

theorem parameterSuffix_eq_empty_iff (parameters : List String) :
    parameterSuffix parameters = "" ↔ ∀ parameter ∈ parameters, plainName parameter = "" := by
  have hnames : (parameters.map plainName).filter (· ≠ "") = [] ↔
      ∀ parameter ∈ parameters, plainName parameter = "" := by
    rw [List.filter_eq_nil_iff, List.forall_mem_map]
    simp
  rw [← hnames]
  unfold parameterSuffix
  split
  · next hnone => exact iff_of_true rfl hnone
  · next hsome => exact iff_of_false (fun h => by simpa using congrArg String.toList h) hsome

/-- If there is a suffix, it is made of a plain name. -/
theorem exists_parameterSuffix_eq {parameters : List String} (h : parameterSuffix parameters ≠ "") :
    ∃ names, IsPlainName names ∧ parameterSuffix parameters = "by_" ++ names := by
  unfold parameterSuffix at h ⊢
  split
  · next hnone =>
    rw [hnone] at h
    exact absurd rfl h
  · next hsome =>
    refine ⟨_, isPlainName_join_and hsome fun name hname => ?_, rfl⟩
    obtain ⟨hmem, hne⟩ := List.mem_filter.1 hname
    obtain ⟨parameter, -, rfl⟩ := List.mem_map.1 hmem
    exact isPlainName_plainName (of_decide_eq_true hne)

theorem tidy_parameterSuffix {parameters : List String} (h : parameterSuffix parameters ≠ "") :
    Tidy (parameterSuffix parameters).toList := by
  obtain ⟨names, hnames, hsuffix⟩ := exists_parameterSuffix_eq h
  have hby : IsPlainName "by" := IsRun.isPlainName ⟨by decide, List.all_eq_true.1 (by decide)⟩
  rw [hsuffix]
  exact (hby.append hnames).tidy

theorem isPlain_or_of_mem_parameterSuffix {c : Char} {parameters : List String}
    (h : c ∈ (parameterSuffix parameters).toList) : isPlain c = true ∨ c = '_' := by
  refine (tidy_parameterSuffix fun hempty => ?_).letters c h
  rw [hempty] at h
  exact absurd h List.not_mem_nil

/-- **Suffixes.**  A suffix is empty, or it is `by_` with one or more runs of letters and digits
    behind, with single underscores between them.  So what it adds to a name are letters, digits
    and underscores, no two of these side by side and none at the end.  And it is empty exactly if
    no parameter has a letter or a digit in lower case. -/
theorem parameterSuffix_spec (parameters : List String) :
    (parameterSuffix parameters = "" ∨
      ∃ names, IsPlainName names ∧ parameterSuffix parameters = "by_" ++ names) ∧
    (∀ name : String,
      (∀ c ∈ (name ++ parameterSuffix parameters).toList,
        c ∈ name.toList ∨ isPlain c = true ∨ c = '_') ∧
      (['_', '_'] <:+: (name ++ parameterSuffix parameters).toList → ['_', '_'] <:+: name.toList) ∧
      ((name ++ parameterSuffix parameters).toList.getLast? = some '_' →
        parameterSuffix parameters = "")) ∧
    (parameterSuffix parameters = "" ↔
      ∀ parameter ∈ parameters, ∀ c ∈ (Text.lower parameter).toList, isPlain c = false) := by
  refine ⟨?_, fun name => ?_, ?_⟩
  · exact Classical.or_iff_not_imp_left.2 exists_parameterSuffix_eq
  · by_cases h : parameterSuffix parameters = ""
    · rw [h, String.append_empty]
      exact ⟨fun c => Or.inl, id, fun _ => rfl⟩
    · obtain ⟨hletters, hdouble, hlast⟩ := (tidy_parameterSuffix h).behind name.toList
      rw [String.toList_append]
      exact ⟨hletters, hdouble, fun hend => absurd hend hlast⟩
  · rw [parameterSuffix_eq_empty_iff]
    exact forall₂_congr fun parameter _ => plainName_eq_empty_iff parameter

example : parameterSuffix ["userId", "__", "file--name!"] = "by_userid_and_file_name" := by
  decide +kernel

end ApiTypes.Naming
