/-
  Which settings a run accepts, and how it refuses others.

  Settings are put together from options and a file, and then checked (`settle`).  What is
  wrong has words (`Reported`), with two exceptions: a file that cannot be read as a text in
  which all numbers can be read (`Unreadable`), and values of the file that are of another
  type than their setting, of which only the number of pairs to skip is looked at.

  * `check_eq_ok_iff`: what the check asks for;
  * `settle_eq_error`, `settle_eq_malformed_iff`: how settings are refused;
  * `fits_iff_fileTyped`: accepted settings are of their types if the values taken from the file
    are;
  * `reported_iff`, `settle_reported_iff`: all in one;  `options_typed`: options of a command
    line are what it asks of them.

  These are all exceptions as far as texts of any depth can be read; how deep values can be
  nested in practice is up to what runs the program.
-/
import ApiTypes.CommandLine.Options
import ApiTypes.Proofs.SettingSources
import Mathlib.Data.List.Nodup

namespace ApiTypes

open Json (Value)

/-! ## Types of values -/

namespace Setting

/-- The value of a setting is of its type: a text, a truth value, or a whole number. -/
def HasType : Setting → Value → Prop
  | input, v | output, v => ∃ t, v = .str t
  | clean, v | verbose, v | constants, v => ∃ b, v = .bool b
  | skip, v => ∃ n, v = .int n

/-- The value of a setting can be used: a text with something in it, a truth value, or a
    whole number from zero up. -/
def Fits : Setting → Value → Prop
  | input, v | output, v => ∃ t, v = .str t ∧ t ≠ ""
  | clean, v | verbose, v | constants, v => ∃ b, v = .bool b
  | skip, v => ∃ n : Nat, v = .int n

end Setting

namespace Settings

variable {s : Setting} {v : Value} {options fields : List (String × Value)}
  {settings : Settings} {disk : Disk} {path : Option Path} {p : Path} {name : String} {e : Failure}

/-! ## The check -/

theorem isSkip_iff : isSkip v = true ↔ ∃ n : Nat, v = .int n := by
  cases v with
  | int n =>
    rw [isSkip, decide_eq_true_iff]
    constructor
    · intro h
      exact ⟨n.toNat, by rw [Int.toNat_of_nonneg h]⟩
    · rintro ⟨m, hm⟩
      rw [Value.int.injEq] at hm
      omega
  | _ => simp [isSkip]

/-- What the check asks for. -/
theorem check_eq_ok_iff : settings.check = .ok () ↔
    settings.input.isEmpty = false ∧ settings.output.isEmpty = false ∧
      ∃ n : Nat, settings.skip = .int n := by
  rw [check, ← isSkip_iff]
  cases settings.input.isEmpty with
  | true => simp
  | false =>
    cases settings.output.isEmpty with
    | true => simp
    | false => cases isSkip settings.skip <;> simp

/-- What the check refuses, it refuses with words. -/
theorem check_eq_error (h : settings.check = .error e) : ∃ cause, e = .settings cause := by
  rw [check] at h
  split at h
  · exact ⟨_, (Except.error.inj h).symm⟩
  · split at h
    · exact ⟨_, (Except.error.inj h).symm⟩
    · split at h
      · cases h
      · exact ⟨_, (Except.error.inj h).symm⟩

/-! ## The file -/

/-- The settings file cannot be read, and there are no words for it: its bytes are no text,
    its path has a code point that no name has, or a number in it is too long. -/
inductive Unreadable (disk : Disk) (path : Option Path) : Prop
  | bytes {l : Place} {content : ByteArray}
    (hplace : disk.locate (filePath disk path) = .ok l)
    (hfile : disk.entry? l = some (.file content)) (hbytes : String.fromUTF8? content = none)
  | name {name : String} {point : Nat} (hname : name ∈ (filePath disk path).names)
    (hmem : point ∈ Text.codePoints name) (hpoint : Disk.isNamePoint point = false)
  | number {text : String} (hread : disk.read (filePath disk path) = .ok text)
    (hnumber : Json.read text = .error .oversizedNumber)

theorem unreadable_iff : Unreadable disk path ↔
    disk.read (filePath disk path) = .error .badEncoding ∨
      disk.read (filePath disk path) = .error .badName ∨
      ∃ text, disk.read (filePath disk path) = .ok text ∧
        Json.read text = .error .oversizedNumber := by
  rw [Disk.read_eq_error_badEncoding, Disk.read_eq_error_badName, Disk.refused_eq_badName]
  constructor
  · rintro (⟨hplace, hfile, hbytes⟩ | ⟨hname, hmem, hpoint⟩ | ⟨hread, hnumber⟩)
    · exact Or.inl ⟨_, _, hplace, hfile, hbytes⟩
    · exact Or.inr (Or.inl ⟨_, hname, _, hmem, hpoint⟩)
    · exact Or.inr (Or.inr ⟨_, hread, hnumber⟩)
  · rintro (⟨l, content, hplace, hfile, hbytes⟩ | ⟨name, hname, point, hmem, hpoint⟩ |
      ⟨text, hread, hnumber⟩)
    · exact .bytes hplace hfile hbytes
    · exact .name hname hmem hpoint
    · exact .number hread hnumber

/-- A file in which a run finds members has been read. -/
theorem FileFields.not_unreadable (h : FileFields disk path fields) : ¬ Unreadable disk path := by
  rw [unreadable_iff]
  cases h with
  | object hread hobject =>
    rw [hread]
    rintro (h | h | ⟨text, htext, hnumber⟩)
    · cases h
    · cases h
    · obtain rfl := Except.ok.inj htext
      rw [hobject] at hnumber
      cases hnumber
  | missing hpath hread =>
    subst hpath
    rw [filePath, Option.getD_none, hread]
    rintro (h | h | ⟨text, h, -⟩) <;> cases h

theorem ofFile?_eq_error (h : ofFile? disk p name = .error e) :
    (∃ cause, e = .settings cause) ∨ (e = .malformed ∧
      (disk.read p = .error .badEncoding ∨ disk.read p = .error .badName ∨
        ∃ text, disk.read p = .ok text ∧ Json.read text = .error .oversizedNumber)) := by
  cases hread : disk.read p with
  | error fault =>
    rw [ofFile?, hread] at h
    cases fault with
    | missing => cases h
    | badEncoding => exact Or.inr ⟨(Except.error.inj h).symm, Or.inl rfl⟩
    | badName => exact Or.inr ⟨(Except.error.inj h).symm, Or.inr (Or.inl rfl)⟩
    | _ => exact Or.inl ⟨_, (Except.error.inj h).symm⟩
  | ok text =>
    rw [ofFile?_of_text hread] at h
    split at h
    · exact Or.inl ⟨_, (Except.error.inj h).symm⟩
    · next hnumber =>
      exact Or.inr ⟨(Except.error.inj h).symm, Or.inr (Or.inr ⟨text, rfl, hnumber⟩)⟩
    · cases h
    · exact Or.inl ⟨_, (Except.error.inj h).symm⟩

theorem merge_eq_error (h : merge disk options path = .error e) :
    (∃ cause, e = .settings cause) ∨ (e = .malformed ∧ Unreadable disk path) := by
  rw [unreadable_iff]
  rw [merge, fileEntries_eq, Steps.bind_eq_error] at h
  rcases h with h | ⟨_, -, h⟩
  · rw [Steps.bind_eq_error] at h
    rcases h with h | ⟨found, -, h⟩
    · exact ofFile?_eq_error h
    · split at h
      · cases h
      · cases h
      · exact Or.inl ⟨_, (Except.error.inj h).symm⟩
  · cases h

theorem merge_of_unreadable (h : Unreadable disk path) :
    merge disk options path = .error .malformed := by
  have hfile : ofFile? disk (filePath disk path) (filePath disk path).text = .error .malformed := by
    rcases unreadable_iff.1 h with hread | hread | ⟨text, hread, hnumber⟩
    · rw [ofFile?, hread]
    · rw [ofFile?, hread]
    · rw [ofFile?_of_text hread, hnumber]
  rw [merge, fileEntries_eq, hfile]
  rfl

/-! ## Settling -/

/-- Puts settings together and checks them. -/
def settle (disk : Disk) (options : List (String × Value)) (path : Option Path) :
    Except Failure Settings := do
  let settings ← merge disk options path
  settings.check
  return settings

theorem settle_eq_ok_iff : settle disk options path = .ok settings ↔
    merge disk options path = .ok settings ∧ settings.check = .ok () := by
  rw [settle, Steps.bind_eq_ok]
  constructor
  · rintro ⟨merged, hmerge, h⟩
    obtain ⟨_, hcheck, h⟩ := Steps.bind_eq_ok.1 h
    obtain rfl : merged = settings := Except.ok.inj h
    exact ⟨hmerge, hcheck⟩
  · rintro ⟨hmerge, hcheck⟩
    exact ⟨settings, hmerge, Steps.bind_eq_ok.2 ⟨(), hcheck, rfl⟩⟩

/-- Settings are refused with words, or because the file cannot be read. -/
theorem settle_eq_error (h : settle disk options path = .error e) :
    (∃ cause, e = .settings cause) ∨ (e = .malformed ∧ Unreadable disk path) := by
  rw [settle, Steps.bind_eq_error] at h
  rcases h with h | ⟨merged, -, h⟩
  · exact merge_eq_error h
  · rcases Steps.bind_eq_error.1 h with h | ⟨_, -, h⟩
    · exact Or.inl (check_eq_error h)
    · cases h

theorem settle_eq_malformed_iff :
    settle disk options path = .error .malformed ↔ Unreadable disk path := by
  constructor
  · intro h
    rcases settle_eq_error h with ⟨cause, hcause⟩ | ⟨-, h⟩
    · cases hcause
    · exact h
  · intro h
    rw [settle, merge_of_unreadable h]
    rfl

/-! ## Accepted settings -/

/-- A run settles its settings properly: it has words for what is wrong, or values that can be
    used. -/
def Reported (result : Except Failure Settings) : Prop :=
  (∃ cause, result = .error (.settings cause)) ∨
    ∃ settings, result = .ok settings ∧ ∀ s : Setting, s.Fits (settings.value s)

/-- What the check has let pass can be used if it is of its type. -/
theorem fits_iff_hasType (h : settings.check = .ok ()) (s : Setting) :
    s.Fits (settings.value s) ↔ s.HasType (settings.value s) := by
  obtain ⟨hinput, houtput, n, hskip⟩ := check_eq_ok_iff.1 h
  have hfilled {v : Value} (hv : v.isEmpty = false) :
      (∃ t, v = .str t ∧ t ≠ "") ↔ ∃ t, v = .str t := by
    refine exists_congr fun t => and_iff_left_of_imp ?_
    rintro rfl rfl
    cases hv
  cases s with
  | input => exact hfilled hinput
  | output => exact hfilled houtput
  | skip => exact iff_of_true ⟨n, hskip⟩ ⟨n, hskip⟩
  | clean | verbose | constants => exact Iff.rfl

/-- The options are of the types of their settings; null counts as no option. -/
def OptionsTyped (options : List (String × Value)) : Prop :=
  ∀ (s : Setting) (v : Value), (s.key, v) ∈ options → v = .null ∨ s.HasType v

/-- The values that are taken from the members of a file are of the types of their settings. -/
def FileTyped (options fields : List (String × Value)) : Prop :=
  ∀ s : Setting, (∀ v, (s.key, v) ∈ options → v = .null) → ∀ v, LastSpelled fields s v → s.HasType v

/-- **Accepted settings** can be used if the values taken from the file are of their types. -/
theorem fits_iff_fileTyped (hmap : (Entries.keys options).Nodup) (htyped : OptionsTyped options)
    (hfields : FileFields disk path fields) (h : settle disk options path = .ok settings) :
    (∀ s : Setting, s.Fits (settings.value s)) ↔ FileTyped options fields := by
  obtain ⟨hmerge, hcheck⟩ := settle_eq_ok_iff.1 h
  obtain ⟨fields', hfields', hchosen⟩ := (merge_eq_ok_iff_chosen hmap).1 hmerge
  obtain rfl := hfields'.unique hfields
  have huses : (∀ s : Setting, s.Fits (settings.value s)) ↔
      ∀ s : Setting, s.HasType (settings.value s) :=
    forall_congr' (fits_iff_hasType hcheck)
  rw [huses]
  constructor
  · intro hall s hoption v hlast
    have hv : settings.value s = v :=
      ((chosen_iff hmap).1 (hchosen s)).trans ((chosen_iff hmap).1 (.file hoption hlast)).symm
    rw [← hv]
    exact hall s
  · intro hfile s
    obtain ⟨hinput, houtput, -⟩ := check_eq_ok_iff.1 hcheck
    generalize hv : settings.value s = v
    have hcase := hchosen s
    rw [hv] at hcase
    cases hcase with
    | option hoption hnull => exact (htyped s _ hoption).resolve_left hnull
    | file hoption hlast => exact hfile s hoption v hlast
    | default =>
      -- a default is of its type, except for the two that the check refuses
      cases s with
      | input =>
        rw [show settings.input = .null from hv] at hinput
        cases hinput
      | output =>
        rw [show settings.output = .null from hv] at houtput
        cases houtput
      | clean | verbose | constants => exact ⟨false, rfl⟩
      | skip => exact ⟨0, rfl⟩

theorem not_unreadable_of_reported (h : Reported (settle disk options path)) :
    ¬ Unreadable disk path := by
  intro hno
  rw [settle_eq_malformed_iff.2 hno] at h
  rcases h with ⟨cause, h⟩ | ⟨settings, h, -⟩ <;> cases h

theorem reported_iff (hmap : (Entries.keys options).Nodup) (htyped : OptionsTyped options) :
    Reported (settle disk options path) ↔ ¬ Unreadable disk path ∧
      ∀ fields, FileFields disk path fields → FileTyped options fields ∨
        ∃ cause, settle disk options path = .error (.settings cause) := by
  constructor
  · intro h
    refine ⟨not_unreadable_of_reported h, fun fields hfields => ?_⟩
    rcases h with hcause | ⟨settings, h, hfits⟩
    · exact Or.inr hcause
    · exact Or.inl ((fits_iff_fileTyped hmap htyped hfields h).1 hfits)
  · rintro ⟨hread, hfile⟩
    cases h : settle disk options path with
    | error e =>
      rcases settle_eq_error h with ⟨cause, rfl⟩ | ⟨-, hno⟩
      · exact Or.inl ⟨cause, rfl⟩
      · exact absurd hno hread
    | ok settings =>
      obtain ⟨fields, hfields, -⟩ := (merge_eq_ok_iff_chosen hmap).1 (settle_eq_ok_iff.1 h).1
      rcases hfile fields hfields with htyped' | ⟨cause, hcause⟩
      · exact Or.inr ⟨settings, rfl, (fits_iff_fileTyped hmap htyped hfields h).2 htyped'⟩
      · rw [h] at hcause
        cases hcause

/-- **How settings are settled.**  With options of their types, a run has words for what is
    wrong or values that can be used, exactly if its file can be read and, where the check lets
    the settings pass, the values taken from the file are of their types.  Without words it
    fails for a file that cannot be read only. -/
theorem settle_reported_iff (hmap : (Entries.keys options).Nodup) (htyped : OptionsTyped options) :
    (Reported (settle disk options path) ↔ ¬ Unreadable disk path ∧
      ∀ fields, FileFields disk path fields → FileTyped options fields ∨
        ∃ cause, settle disk options path = .error (.settings cause)) ∧
    (∀ e, settle disk options path = .error e →
      (∃ cause, e = .settings cause) ∨ (e = .malformed ∧ Unreadable disk path)) ∧
    (∀ settings, settle disk options path = .ok settings →
      ∃ fields, FileFields disk path fields ∧ ∀ s, Chosen options fields s (settings.value s)) :=
  ⟨reported_iff hmap htyped, fun _ => settle_eq_error, fun _ h =>
    (merge_eq_ok_iff_chosen hmap).1 (settle_eq_ok_iff.1 h).1⟩

/-- Options for all settings that the file has, and for those that must be given. -/
def fullOptions : List (String × Value) :=
  [("input", .str "a.json"), ("output", .str "out"), ("clean", .bool true),
    ("path_prefix_skip", .int 1)]

/-- The option stands against the text that the file has for a truth value. -/
theorem settle_reported_iff_full :
    (Entries.keys fullOptions).Nodup ∧ OptionsTyped fullOptions ∧
      Reported (settle mixedDisk fullOptions none) := by
  have hmap : (Entries.keys fullOptions).Nodup := by decide
  have htyped : OptionsTyped fullOptions := by
    intro s v hv
    cases s <;> simp_all [fullOptions, Setting.key, Setting.HasType]
  refine ⟨hmap, htyped, (settle_reported_iff hmap htyped).1.2
    ⟨fileFields_mixed.not_unreadable, fun fields hfields => Or.inl ?_⟩⟩
  obtain rfl := fileFields_mixed.unique hfields
  rintro s hoption v ⟨before, key, after, hsplit, hkey, -⟩
  have hmem : (key, v) ∈ mixedFields := by simp [hsplit]
  have hkeys : ∀ e ∈ mixedFields,
      ¬ Setting.verbose.Spells e.1 ∧ ¬ Setting.constants.Spells e.1 := by
    decide
  cases s with
  | input => exact absurd (hoption (.str "a.json") (by simp [fullOptions, Setting.key])) (by simp)
  | output => exact absurd (hoption (.str "out") (by simp [fullOptions, Setting.key])) (by simp)
  | clean => exact absurd (hoption (.bool true) (by simp [fullOptions, Setting.key])) (by simp)
  | skip => exact absurd (hoption (.int 1) (by simp [fullOptions, Setting.key])) (by simp)
  | verbose => exact absurd hkey (hkeys _ hmem).1
  | constants => exact absurd hkey (hkeys _ hmem).2

/-- Without the option, the text is accepted as a truth value; and for a file whose bytes are no
    text there are no words. -/
theorem not_reported :
    ¬ Reported (settle mixedDisk (fullOptions.filter (·.1 ≠ "clean")) none) ∧
      ¬ Reported (settle ⟨["w"], [(["w", defaultFile], .file ⟨#[0xff]⟩)]⟩ [] none) := by
  constructor
  · have hok : settle mixedDisk (fullOptions.filter (·.1 ≠ "clean")) none =
        .ok ⟨.str "a.json", .str "out", .str "yes", .bool false, .int 1, .bool false⟩ := by
      exact settle_eq_ok_iff.2 ⟨merge_eq_ok_iff.2 ⟨_, fileFields_mixed, rfl⟩, rfl⟩
    rw [hok]
    rintro (⟨cause, h⟩ | ⟨settings, h, hfits⟩)
    · cases h
    · obtain rfl := Except.ok.inj h
      obtain ⟨b, hb⟩ := hfits .clean
      cases hb
  · have hplace : Disk.locate ⟨["w"], [(["w", defaultFile], .file ⟨#[0xff]⟩)]⟩
        (filePath ⟨["w"], [(["w", defaultFile], .file ⟨#[0xff]⟩)]⟩ none) =
          .ok ["w", defaultFile] := by
      rw [Disk.locate, show Disk.refused _ = none by decide +kernel]
      rfl
    exact fun h => not_unreadable_of_reported h (.bytes hplace rfl (by decide +kernel))

end Settings

/-! ## Options of a command line -/

namespace CommandLine

variable {found : List (Subject × String)} {options : List (String × Value)} {value : String}
  {s : Setting} {v : Value} {arguments : List String} {request : Request}

/-- The value that an option gives is of the type of its setting. -/
theorem hasType_of_settingValue (h : settingValue s value = some v) : s.HasType v := by
  rw [settingValue.eq_def] at h
  cases s with
  | input | output => exact ⟨value, (Option.some.inj h).symm⟩
  | clean | verbose | constants => exact ⟨true, (Option.some.inj h).symm⟩
  | skip =>
    dsimp only at h
    split at h
    · split at h
      · exact ⟨_, (Option.some.inj h).symm⟩
      · cases h
    · cases h

/-- The settings that options give, one by one. -/
theorem settingsOf_eq_some_iff : settingsOf found = some options ↔
    List.Forall₂ (fun (given : Setting × String) option => ∃ v,
        settingValue given.1 given.2 = some v ∧ (given.1.key, v) = option)
      (Setting.all.filterMap fun s => (last? found (.setting s)).map fun value => (s, value))
      options := by
  rw [settingsOf, Steps.mapM_eq_some]
  simp only [Option.map_eq_some_iff]

/-- Each setting is given once. -/
theorem nodup_keys_settingsOf (h : settingsOf found = some options) :
    (Entries.keys options).Nodup := by
  have hkeys : (Setting.all.filterMap fun s =>
      (last? found (.setting s)).map fun value => (s, value)).map (·.1.key) =
        options.map (·.1) := by
    rw [← List.forall₂_eq_eq_eq, List.forall₂_map_left_iff, List.forall₂_map_right_iff]
    refine (settingsOf_eq_some_iff.1 h).imp ?_
    rintro given option ⟨v, -, rfl⟩
    rfl
  rw [List.map_filterMap] at hkeys
  rw [Entries.keys, ← hkeys]
  refine List.Nodup.filterMap (fun s s' key hs hs' => ?_) (by decide)
  simp only [Option.map_map, Option.mem_def, Option.map_eq_some_iff, Function.comp_apply] at hs hs'
  obtain ⟨_, -, rfl⟩ := hs
  obtain ⟨_, -, heq⟩ := hs'
  exact (Setting.key_injective heq).symm

theorem hasType_of_mem_settingsOf (h : settingsOf found = some options)
    (hmem : (s.key, v) ∈ options) : s.HasType v := by
  obtain ⟨⟨s', value⟩, -, v', hvalue, heq⟩ :=
    Steps.exists_mem_of_forall₂_right (settingsOf_eq_some_iff.1 h) hmem
  obtain ⟨hkey, rfl⟩ := Prod.mk.inj heq
  obtain rfl := Setting.key_injective hkey
  exact hasType_of_settingValue hvalue

/-- What is wrong with a value is no request. -/
theorem failure?_ne_request {subject : Subject} :
    failure? found subject ≠ some (.request request) := by
  intro h
  rw [failure?.eq_def] at h
  obtain ⟨value, -, h⟩ := Option.bind_eq_some_iff.1 h
  split at h
  · split at h <;> cases h
  · split at h <;> cases h
  · cases h

theorem exists_settingsOf (h : parse arguments = .request request) :
    ∃ found, settingsOf found = some request.options := by
  rw [parse] at h
  split at h
  · cases h
  · next found more _ =>
    split at h
    · cases h
    · split at h
      · next hfailure _ =>
        obtain ⟨subject, -, hsubject⟩ := List.exists_of_findSome?_eq_some hfailure
        rw [h] at hsubject
        exact absurd hsubject failure?_ne_request
      · next options _ hoptions _ =>
        cases h
        exact ⟨found, hoptions⟩
      · cases h

/-- **Options of a command line** are of the types of their settings, and there is one for each
    setting at most. -/
theorem options_typed (h : parse arguments = .request request) :
    (Entries.keys request.options).Nodup ∧ Settings.OptionsTyped request.options := by
  obtain ⟨found, hfound⟩ := exists_settingsOf h
  exact ⟨nodup_keys_settingsOf hfound, fun s v hv => Or.inr (hasType_of_mem_settingsOf hfound hv)⟩

end CommandLine

end ApiTypes
