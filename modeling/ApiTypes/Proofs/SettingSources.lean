/-
  Where the value of a setting comes from.

  Options, the settings file and defaults give values to the settings of a run.  `Chosen` says
  which of them counts: the option, unless it is null; otherwise the last key of the file that
  spells the setting, with its value even if that is null; otherwise the default.  A key that
  the text of the file repeats is one key of its object, at its first place and with its last
  value.

  * `get?_known`: what is found under the key of a setting among the values of a file, from the
    last key on;
  * `FileFields`: the members that a run finds in its settings file, none if the default file
    is missing;
  * `merge_iff_chosen`: the settings of a run are exactly those that are chosen; keys that
    spell no setting do not count, nor does the order of keys with one spelling of each.
-/
import ApiTypes.Settings
import ApiTypes.Proofs.ReadFiles
import Mathlib.Data.List.Induction

namespace ApiTypes

open Json (Value)

/-! ## Spellings -/

namespace Setting

variable {s s' : Setting} {key : String} {fields fields' : List (String × Value)} {v : Value}

/-- A key of a settings file spells a setting: in the one way or the other. -/
def Spells (s : Setting) (key : String) : Prop := s.key = key ∨ s.fileKey = key

instance (s : Setting) (key : String) : Decidable (s.Spells key) :=
  inferInstanceAs (Decidable (_ ∨ _))

/-- Whether a key spells some setting. -/
def isSpelling (key : String) : Bool := all.any (·.Spells key)

theorem mem_all (s : Setting) : s ∈ all := by cases s <;> decide

theorem spells_key (s : Setting) : s.Spells s.key := Or.inl rfl

/-- A key spells one setting at most. -/
theorem Spells.unique (h : s.Spells key) (h' : s'.Spells key) : s = s' := by
  have hall : ∀ s ∈ all, ∀ s' ∈ all,
      (s'.Spells s.key → s = s') ∧ (s'.Spells s.fileKey → s = s') := by
    decide
  obtain ⟨hkey, hfileKey⟩ := hall s (mem_all s) s' (mem_all s')
  rcases h with rfl | rfl
  · exact hkey h'
  · exact hfileKey h'

theorem spells_of_ofFileKey? (h : ofFileKey? key = some s) : s.Spells key := by
  rw [ofFileKey?] at h
  simpa [Spells] using List.find?_some h

theorem ofFileKey?_eq_some_iff : ofFileKey? key = some s ↔ s.Spells key := by
  constructor
  · exact spells_of_ofFileKey?
  · intro h
    obtain ⟨s', hs'⟩ : ∃ s', ofFileKey? key = some s' :=
      Option.isSome_iff_exists.1 (List.find?_isSome.2 ⟨s, mem_all s, decide_eq_true h⟩)
    rw [hs', h.unique (spells_of_ofFileKey? hs')]

theorem isSpelling_iff : isSpelling key = true ↔ ∃ s : Setting, s.Spells key := by
  rw [isSpelling, List.any_eq_true]
  constructor
  · rintro ⟨s, -, h⟩
    exact ⟨s, of_decide_eq_true h⟩
  · rintro ⟨s, h⟩
    exact ⟨s, mem_all s, decide_eq_true h⟩

theorem key_injective (h : s.key = s'.key) : s = s' :=
  (spells_key s).unique (h ▸ spells_key s')

theorem ofKey?_key (s : Setting) : (ofKey? s.key).isSome :=
  List.find?_isSome.2 ⟨s, mem_all s, decide_eq_true rfl⟩

/-- The value of a setting for which there is none. -/
def default : Setting → Value
  | input | output => .null
  | clean | verbose | constants => .bool false
  | skip => .int 0

end Setting

namespace Settings

variable {s : Setting} {key : String} {v w : Value} {options fields fields' : List (String × Value)}
  {settings settings' : Settings} {disk disk' : Disk} {path path' : Option Path}

/-- The value of a setting. -/
def value (settings : Settings) : Setting → Value
  | .input => settings.input
  | .output => settings.output
  | .clean => settings.clean
  | .verbose => settings.verbose
  | .skip => settings.skip
  | .constants => settings.constants

theorem value_ofEntries (entries : List (String × Value)) (s : Setting) :
    (ofEntries entries).value s = (Entries.get? entries s.key).getD s.default := by
  cases s <;> rfl

theorem eq_of_value (h : ∀ s, settings.value s = settings'.value s) : settings = settings' := by
  obtain ⟨input, output, clean, verbose, skip, constants⟩ := settings
  obtain ⟨input', output', clean', verbose', skip', constants'⟩ := settings'
  obtain rfl : input = input' := h .input
  obtain rfl : output = output' := h .output
  obtain rfl : clean = clean' := h .clean
  obtain rfl : verbose = verbose' := h .verbose
  obtain rfl : skip = skip' := h .skip
  obtain rfl : constants = constants' := h .constants
  rfl

/-! ## The file -/

/-- What is written for one more member. -/
theorem known_append_singleton (fields : List (String × Value)) (key : String) (v : Value) :
    known (fields ++ [(key, v)]) =
      match Setting.ofFileKey? key with
      | some s => Entries.set (known fields) s.key v
      | none => known fields := by
  rw [known, List.foldl_append, List.foldl_cons, List.foldl_nil]
  rfl

/-- Among the values of a file, that of the last key that spells a setting is found. -/
theorem get?_known (fields : List (String × Value)) (s : Setting) :
    Entries.get? (known fields) s.key =
      (fields.reverse.find? fun e => s.Spells e.1).map (·.2) := by
  induction fields using List.reverseRecOn with
  | nil => rfl
  | append_singleton fields e ih =>
    obtain ⟨key, v⟩ := e
    rw [known_append_singleton, List.reverse_append, List.reverse_singleton, List.singleton_append,
      List.find?_cons]
    cases hkey : Setting.ofFileKey? key with
    | none =>
      have hno : ¬ s.Spells key := by
        intro h
        rw [Setting.ofFileKey?_eq_some_iff.2 h] at hkey
        cases hkey
      simpa [hno] using ih
    | some s' =>
      have hs' := Setting.ofFileKey?_eq_some_iff.1 hkey
      by_cases h : s = s'
      · subst h
        simp [hs']
      · have hno : ¬ s.Spells key := fun hs => h (hs.unique hs')
        have hne : s'.key ≠ s.key := fun heq => h (Setting.key_injective heq).symm
        simpa [hno, Entries.get?_set_of_ne hne] using ih

/-- Keys that spell no setting do not count. -/
theorem known_filter (fields : List (String × Value)) :
    known (fields.filter fun e => Setting.isSpelling e.1) = known fields := by
  induction fields using List.reverseRecOn with
  | nil => rfl
  | append_singleton fields e ih =>
    obtain ⟨key, v⟩ := e
    rw [List.filter_append]
    cases hkey : Setting.isSpelling key with
    | true =>
      rw [List.filter_cons_of_pos (by simpa using hkey), List.filter_nil, known_append_singleton,
        known_append_singleton, ih]
    | false =>
      have hnone : Setting.ofFileKey? key = none := by
        refine Option.eq_none_iff_forall_ne_some.2 fun s hs => ?_
        rw [Setting.isSpelling_iff.2 ⟨s, Setting.ofFileKey?_eq_some_iff.1 hs⟩] at hkey
        cases hkey
      rw [List.filter_cons_of_neg (by simpa using hkey), List.filter_nil, List.append_nil, ih,
        known_append_singleton, hnone]

/-- The path of the settings file. -/
def filePath (disk : Disk) (path : Option Path) : Path := path.getD (defaultPath disk)

/-- The members that a run finds in its settings file: those of the object there, and none if
    the default file is missing. -/
inductive FileFields (disk : Disk) (path : Option Path) : List (String × Value) → Prop
  | object {text : String} {fields : List (String × Value)}
    (hread : disk.read (filePath disk path) = .ok text)
    (hobject : Json.read text = .ok (.obj fields)) : FileFields disk path fields
  | missing (hpath : path = none) (hread : disk.read (defaultPath disk) = .error .missing) :
    FileFields disk path []

theorem FileFields.nodup_keys (h : FileFields disk path fields) : (Entries.keys fields).Nodup := by
  cases h with
  | object _ hobject => exact Json.nodup_keys_of_read hobject
  | missing => exact .nil

theorem FileFields.unique (h : FileFields disk path fields) (h' : FileFields disk path fields') :
    fields = fields' := by
  cases h with
  | object hread hobject =>
    cases h' with
    | object hread' hobject' =>
      rw [hread, Except.ok.injEq] at hread'
      subst hread'
      rw [hobject, Except.ok.injEq, Value.obj.injEq] at hobject'
      exact hobject'
    | missing hpath hread' =>
      subst hpath
      rw [filePath, Option.getD_none, hread'] at hread
      cases hread
  | missing hpath hread =>
    cases h' with
    | object hread' _ =>
      subst hpath
      rw [filePath, Option.getD_none, hread] at hread'
      cases hread'
    | missing => rfl

theorem ofFile?_of_text {p : Path} {name text : String} (h : disk.read p = .ok text) :
    ofFile? disk p name = match Json.read text with
      | .error (.fault f) => .error (.settings (.notJson name f))
      | .error .oversizedNumber => .error .malformed
      | .ok (.obj fields) => .ok (some (known fields))
      | .ok _ => .error (.settings (.notObject name)) := by
  rewrite [ofFile?, h]
  rfl

theorem ofFile?_eq_ok_some_iff {p : Path} {name : String} {entries : List (String × Value)} :
    ofFile? disk p name = .ok (some entries) ↔
      ∃ text fields, disk.read p = .ok text ∧ Json.read text = .ok (.obj fields) ∧
        entries = known fields := by
  constructor
  · intro h
    cases hread : disk.read p with
    | error fault => rw [ofFile?, hread] at h; cases fault <;> cases h
    | ok text =>
      rw [ofFile?_of_text hread] at h
      split at h
      · cases h
      · cases h
      · next fields hobject =>
        rw [Except.ok.injEq, Option.some.injEq] at h
        exact ⟨text, fields, rfl, hobject, h.symm⟩
      · cases h
  · rintro ⟨text, fields, hread, hobject, rfl⟩
    rw [ofFile?_of_text hread, hobject]

theorem ofFile?_eq_ok_none_iff {p : Path} {name : String} :
    ofFile? disk p name = .ok none ↔ disk.read p = .error .missing := by
  constructor
  · intro h
    cases hread : disk.read p with
    | error fault =>
      rw [ofFile?, hread] at h
      cases fault with
      | missing => rfl
      | _ => cases h
    | ok text =>
      rw [ofFile?_of_text hread] at h
      split at h <;> cases h
  · intro h
    rw [ofFile?, h]

/-- A file that is missing counts as empty if it is the default one. -/
theorem fileEntries_eq (disk : Disk) (path : Option Path) :
    fileEntries disk path =
      ofFile? disk (filePath disk path) (filePath disk path).text >>= fun found =>
        match found, path with
        | some entries, _ => .ok entries
        | none, none => .ok []
        | none, some p => .error (.settings (.notFound p.text)) := by
  cases path with
  | some p =>
    refine Steps.bind_congr fun found _ => ?_
    cases found <;> rfl
  | none =>
    refine Steps.bind_congr fun found _ => ?_
    cases found <;> rfl

/-- **The file.**  A run has values from its file if it finds members there, or no default
    file. -/
theorem fileEntries_eq_ok_iff {entries : List (String × Value)} :
    fileEntries disk path = .ok entries ↔
      ∃ fields, FileFields disk path fields ∧ entries = known fields := by
  rw [fileEntries_eq, Steps.bind_eq_ok]
  constructor
  · rintro ⟨found, hfound, h⟩
    cases found with
    | some values =>
      obtain rfl : values = entries := Except.ok.inj h
      obtain ⟨text, fields, hread, hobject, rfl⟩ := ofFile?_eq_ok_some_iff.1 hfound
      exact ⟨fields, .object hread hobject, rfl⟩
    | none =>
      cases path with
      | some p => cases h
      | none =>
        obtain rfl : [] = entries := Except.ok.inj h
        exact ⟨[], .missing rfl (ofFile?_eq_ok_none_iff.1 hfound), rfl⟩
  · rintro ⟨fields, hfields, rfl⟩
    cases hfields with
    | object hread hobject =>
      exact ⟨_, ofFile?_eq_ok_some_iff.2 ⟨_, fields, hread, hobject, rfl⟩, rfl⟩
    | missing hpath hread =>
      subst hpath
      exact ⟨none, ofFile?_eq_ok_none_iff.2 hread, rfl⟩

/-! ## Options -/

theorem mem_givenOptions_iff {e : String × Value} :
    e ∈ givenOptions options ↔
      e ∈ options ∧ (Setting.ofKey? e.1).isSome ∧ e.2 ≠ .null := by
  obtain ⟨key, v⟩ := e
  rw [givenOptions, List.mem_filter, Bool.and_eq_true]
  cases v <;> simp

theorem keys_givenOptions_sublist (options : List (String × Value)) :
    (Entries.keys (givenOptions options)).Sublist (Entries.keys options) :=
  List.filter_sublist.map _

/-- The value that options give to a setting. -/
def given? (options : List (String × Value)) (s : Setting) : Option Value :=
  Entries.get? (givenOptions options) s.key

theorem given?_eq_some_iff (hmap : (Entries.keys options).Nodup) :
    given? options s = some v ↔ (s.key, v) ∈ options ∧ v ≠ .null := by
  have hnodup := (keys_givenOptions_sublist options).nodup hmap
  rw [given?, Entries.get?_eq_some_iff hnodup, mem_givenOptions_iff]
  simp [Setting.ofKey?_key]

theorem given?_eq_none_iff (hmap : (Entries.keys options).Nodup) :
    given? options s = none ↔ ∀ v, (s.key, v) ∈ options → v = .null := by
  rw [Option.eq_none_iff_forall_ne_some]
  refine forall_congr' fun v => ?_
  rw [ne_eq, given?_eq_some_iff hmap, not_and_not_right]

/-- The values by key when the options have been written over those of the file. -/
def written (options fields : List (String × Value)) : List (String × Value) :=
  (givenOptions options).foldl (fun es (k, v) => Entries.set es k v) (known fields)

theorem get?_written (hmap : (Entries.keys options).Nodup) (fields : List (String × Value))
    (s : Setting) :
    Entries.get? (written options fields) s.key =
      (given? options s).or (Entries.get? (known fields) s.key) := by
  have hnodup := (keys_givenOptions_sublist options).nodup hmap
  cases hgiven : given? options s with
  | some v =>
    exact @Entries.get?_foldl_set_of_mem _ _ Prod.fst Prod.snd _ (known fields) _ hnodup
      (Entries.mem_of_get? hgiven)
  | none =>
    exact @Entries.get?_foldl_set_of_not_mem _ _ Prod.fst Prod.snd _ (known fields) _
      (Entries.get?_eq_none_iff.1 hgiven)

/-! ## The value that counts -/

/-- The value of the last key that spells a setting. -/
def LastSpelled (fields : List (String × Value)) (s : Setting) (v : Value) : Prop :=
  ∃ before key after, fields = before ++ (key, v) :: after ∧ s.Spells key ∧
    ∀ e ∈ after, ¬ s.Spells e.1

/-- The value of a setting among options and the members of a file: that of the option, unless
    there is none or it is null; otherwise that of the last key that spells the setting,
    whatever the value is; otherwise the default. -/
inductive Chosen (options fields : List (String × Value)) (s : Setting) : Value → Prop
  | option {v : Value} (hoption : (s.key, v) ∈ options) (hnull : v ≠ .null) :
    Chosen options fields s v
  | file {v : Value} (hoption : ∀ v, (s.key, v) ∈ options → v = .null)
    (hlast : LastSpelled fields s v) : Chosen options fields s v
  | default (hoption : ∀ v, (s.key, v) ∈ options → v = .null)
    (hnone : ∀ e ∈ fields, ¬ s.Spells e.1) : Chosen options fields s s.default

theorem lastSpelled_iff : LastSpelled fields s v ↔ Entries.get? (known fields) s.key = some v := by
  rw [get?_known, Option.map_eq_some_iff]
  constructor
  · rintro ⟨before, key, after, rfl, hkey, hlast⟩
    refine ⟨(key, v), List.find?_eq_some_iff_append.2 ⟨decide_eq_true hkey, ?_⟩, rfl⟩
    exact ⟨after.reverse, before.reverse, by simp, by simpa using hlast⟩
  · rintro ⟨⟨key, v⟩, hfind, rfl⟩
    obtain ⟨hkey, after, before, hfields, hlast⟩ := List.find?_eq_some_iff_append.1 hfind
    refine ⟨before.reverse, key, after.reverse, ?_, of_decide_eq_true hkey, fun e he => ?_⟩
    · rw [← List.reverse_reverse fields, hfields]
      simp
    · simpa using hlast e (List.mem_reverse.1 he)

theorem get?_known_eq_none_iff :
    Entries.get? (known fields) s.key = none ↔ ∀ e ∈ fields, ¬ s.Spells e.1 := by
  rw [get?_known, Option.map_eq_none_iff, List.find?_eq_none]
  simp

/-- **The value that counts** is found when the options have been written over the values of
    the file. -/
theorem chosen_iff (hmap : (Entries.keys options).Nodup) :
    Chosen options fields s v ↔
      v = (Entries.get? (written options fields) s.key).getD s.default := by
  rw [get?_written hmap]
  cases hgiven : given? options s with
  | some w =>
    obtain ⟨hw, hnull⟩ := (given?_eq_some_iff hmap).1 hgiven
    rw [Option.some_or, Option.getD_some]
    constructor
    · rintro (⟨hv, hvnull⟩ | ⟨hnulls, -⟩ | ⟨hnulls, -⟩)
      · rw [(given?_eq_some_iff hmap).2 ⟨hv, hvnull⟩, Option.some.injEq] at hgiven
        exact hgiven
      · exact absurd (hnulls w hw) hnull
      · exact absurd (hnulls w hw) hnull
    · rintro rfl
      exact .option hw hnull
  | none =>
    have hnulls := (given?_eq_none_iff hmap).1 hgiven
    rw [Option.none_or]
    constructor
    · rintro (⟨hv, hnull⟩ | ⟨-, hlast⟩ | ⟨-, hnone⟩)
      · exact absurd (hnulls v hv) hnull
      · rw [lastSpelled_iff.1 hlast, Option.getD_some]
      · rw [get?_known_eq_none_iff.2 hnone, Option.getD_none]
    · rintro rfl
      cases hfile : Entries.get? (known fields) s.key with
      | some w => exact .file hnulls (lastSpelled_iff.2 hfile)
      | none => exact .default hnulls (get?_known_eq_none_iff.1 hfile)

theorem merge_eq_ok_iff :
    merge disk options path = .ok settings ↔
      ∃ fields, FileFields disk path fields ∧ settings = ofEntries (written options fields) := by
  rw [merge, Steps.bind_eq_ok]
  constructor
  · rintro ⟨entries, hentries, h⟩
    obtain ⟨fields, hfields, rfl⟩ := fileEntries_eq_ok_iff.1 hentries
    exact ⟨fields, hfields, (Except.ok.inj h).symm⟩
  · rintro ⟨fields, hfields, rfl⟩
    exact ⟨_, fileEntries_eq_ok_iff.2 ⟨fields, hfields, rfl⟩, rfl⟩

/-- **The settings of a run** are those that are chosen. -/
theorem merge_eq_ok_iff_chosen (hmap : (Entries.keys options).Nodup) :
    merge disk options path = .ok settings ↔
      ∃ fields, FileFields disk path fields ∧ ∀ s, Chosen options fields s (settings.value s) := by
  rw [merge_eq_ok_iff]
  refine exists_congr fun fields => and_congr_right fun _ => ?_
  constructor
  · rintro rfl s
    exact (chosen_iff hmap).2 (value_ofEntries _ s)
  · intro h
    refine eq_of_value fun s => ?_
    rw [value_ofEntries]
    exact (chosen_iff hmap).1 (h s)

/-! ## Other keys and other orders -/

/-- Files with the same value under each setting give the same settings. -/
theorem merge_congr (hmap : (Entries.keys options).Nodup) (hfields : FileFields disk path fields)
    (hfields' : FileFields disk' path' fields')
    (h : ∀ s : Setting, Entries.get? (known fields') s.key = Entries.get? (known fields) s.key) :
    merge disk' options path' = merge disk options path := by
  rw [merge_eq_ok_iff.2 ⟨fields, hfields, rfl⟩, merge_eq_ok_iff.2 ⟨fields', hfields', rfl⟩,
    Except.ok.injEq]
  refine eq_of_value fun s => ?_
  rw [value_ofEntries, value_ofEntries, get?_written hmap, get?_written hmap, h s]

/-- No setting is spelled in both ways. -/
def SpelledOnce (fields : List (String × Value)) : Prop :=
  ∀ s : Setting, s.key ≠ s.fileKey → s.key ∈ Entries.keys fields → s.fileKey ∉ Entries.keys fields

/-- Where a setting is spelled once, its value does not depend on the order of the keys. -/
theorem get?_known_eq_some_iff (hnodup : (Entries.keys fields).Nodup) (honce : SpelledOnce fields) :
    Entries.get? (known fields) s.key = some v ↔ ∃ key, s.Spells key ∧ (key, v) ∈ fields := by
  constructor
  · intro h
    obtain ⟨before, key, after, rfl, hkey, -⟩ := lastSpelled_iff.2 h
    exact ⟨key, hkey, by simp⟩
  · rintro ⟨key, hkey, hmem⟩
    cases hfound : Entries.get? (known fields) s.key with
    | none => exact absurd hkey (get?_known_eq_none_iff.1 hfound _ hmem)
    | some w =>
      obtain ⟨before, last, after, hsplit, hlast, -⟩ := lastSpelled_iff.2 hfound
      have hin {e : String × Value} (he : e ∈ fields) : e.1 ∈ Entries.keys fields :=
        List.mem_map_of_mem he
      have hw : (last, w) ∈ fields := by simp [hsplit]
      -- two spellings that are both there are the same one
      have hsame : last = key := by
        rcases hkey with rfl | rfl <;> rcases hlast with rfl | rfl
        · rfl
        · by_contra hne
          exact honce s (Ne.symm hne) (hin hmem) (hin hw)
        · by_contra hne
          exact honce s hne (hin hw) (hin hmem)
        · rfl
      subst hsame
      rw [← (Entries.get?_eq_some_iff hnodup).2 hmem, (Entries.get?_eq_some_iff hnodup).2 hw]

theorem get?_known_perm (hnodup : (Entries.keys fields).Nodup) (honce : SpelledOnce fields)
    (hperm : fields.Perm fields') (s : Setting) :
    Entries.get? (known fields') s.key = Entries.get? (known fields) s.key := by
  have hkeys : (Entries.keys fields).Perm (Entries.keys fields') := hperm.map _
  have honce' : SpelledOnce fields' := by
    intro s hne hkey
    rw [← hkeys.mem_iff] at hkey ⊢
    exact honce s hne hkey
  ext v
  rw [get?_known_eq_some_iff (hkeys.nodup_iff.1 hnodup) honce',
    get?_known_eq_some_iff hnodup honce]
  simp only [hperm.mem_iff]

/-- **Where settings come from.**  The settings of a run are exactly those that are chosen
    among its options and the members of its file.  Members of the file whose keys spell no
    setting do not count, and neither does the order of the members, unless both spellings of
    a setting are among their keys. -/
theorem merge_iff_chosen (hmap : (Entries.keys options).Nodup) :
    (merge disk options path = .ok settings ↔
      ∃ fields, FileFields disk path fields ∧ ∀ s, Chosen options fields s (settings.value s)) ∧
    (∀ fields, FileFields disk path fields → ∀ disk' path' fields', FileFields disk' path' fields' →
      ((fields'.filter fun e => Setting.isSpelling e.1) =
          (fields.filter fun e => Setting.isSpelling e.1) →
        merge disk' options path' = merge disk options path) ∧
      (fields.Perm fields' →
        (∀ s : Setting, s.key ≠ s.fileKey → s.key ∈ Entries.keys fields →
          s.fileKey ∉ Entries.keys fields) →
        merge disk' options path' = merge disk options path)) := by
  refine ⟨merge_eq_ok_iff_chosen hmap, fun fields hfields disk' path' fields' hfields' =>
    ⟨fun hfilter => ?_, fun hperm honce => ?_⟩⟩
  · refine merge_congr hmap hfields hfields' fun s => ?_
    rw [← known_filter fields', hfilter, known_filter]
  · exact merge_congr hmap hfields hfields' (get?_known_perm hfields.nodup_keys honce hperm)

/-- The text of a settings file in which one setting is spelled in both ways. -/
def mixedText : String :=
  "\x7b\"pathPrefixSkip\":\"2\",\"clean\":\"yes\",\"x\":true,\"path_prefix_skip\":null\x7d"

/-- The members of the file. -/
def mixedFields : List (String × Value) :=
  [("pathPrefixSkip", .str "2"), ("clean", .str "yes"), ("x", .bool true),
    ("path_prefix_skip", .null)]

/-- A disk with this text in the default file. -/
def mixedDisk : Disk := ⟨["w"], [(["w", defaultFile], .file mixedText.toUTF8)]⟩

/-- Options of which one is false where the file has a text, and one is null. -/
def mixedOptions : List (String × Value) :=
  [("clean", .bool false), ("input", .null), ("output", .str "out")]

theorem fileFields_mixed : FileFields mixedDisk none mixedFields := by
  have hplace : mixedDisk.locate (filePath mixedDisk none) = .ok ["w", defaultFile] := by
    rw [Disk.locate, show Disk.refused (filePath mixedDisk none) = none by decide +kernel]
    rfl
  have hmark : Text.mark ∉ mixedText.toList := by decide +kernel
  have hread : mixedDisk.read (filePath mixedDisk none) = .ok mixedText := by
    rw [← String.ofList_toList (s := mixedText), ← Text.ofChars_eq_ofList hmark, Disk.read, hplace]
    rfl
  exact .object hread (by cbv)

/-- The false of the option stands against the text of the file, and the null of the last
spelling against the text of the first. -/
theorem merge_iff_chosen_mixed :
    (Entries.keys mixedOptions).Nodup ∧ FileFields mixedDisk none mixedFields ∧
      merge mixedDisk mixedOptions none =
        .ok ⟨.null, .str "out", .bool false, .bool false, .null, .bool false⟩ := by
  have hmap : (Entries.keys mixedOptions).Nodup := by decide
  have hnulls {s : Setting} (hs : s ≠ .clean ∧ s ≠ .output) :
      ∀ v, (s.key, v) ∈ mixedOptions → v = .null := by
    intro v hv
    cases s <;> simp_all [mixedOptions, Setting.key]
  refine ⟨hmap, fileFields_mixed, (merge_iff_chosen hmap).1.2 ⟨_, fileFields_mixed, fun s => ?_⟩⟩
  cases s with
  | input => exact .default (hnulls (by decide)) (by decide)
  | output => exact .option (by simp [mixedOptions, Setting.key, value]) (by simp [value])
  | clean => exact .option (by simp [mixedOptions, Setting.key, value]) (by simp [value])
  | verbose => exact .default (hnulls (by decide)) (by decide)
  | skip =>
    exact .file (hnulls (by decide))
      ⟨mixedFields.take 3, _, [], rfl, Setting.spells_key .skip, by simp⟩
  | constants => exact .default (hnulls (by decide)) (by decide)

end Settings

end ApiTypes
