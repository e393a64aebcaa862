/-
  What writing and clearing do to a disk.

  * `file?`, `HoldsText`: what the file at a place holds; a text is known by its bytes;
  * `Whole`: everything stands in a directory, so that nothing is below a place without
    one; kept by all changes;
  * `Grows`: directories and whatever else is there stay there; then a path that leads to a
    place still leads to it (`Grows.locate`);
  * `placeOf`: the place that a path names by itself.  Where the path leads, it is there
    (`eq_placeOf_of_locate`);
  * `Shows`: where nothing is found, no file is below the place.  Paths that do not lead back
    have it on a whole disk (`Whole.shows`), and all changes keep it (`Keeps`);
  * one lemma for each operation: `makeDirectories_spec`, `write_spec`, `clear_spec`.
-/
import ApiTypes.Disk
import ApiTypes.Proofs.Steps
import Mathlib.Data.List.Induction

namespace ApiTypes.Disk

variable {disk disk' : Disk} {l next q : Place} {entry : Entry} {name : String}
  {names : List String} {path : Path} {fault : ReadFault} {content : ByteArray}

/-- The bytes of the file at a place, if there is one. -/
def file? (disk : Disk) (q : Place) : Option ByteArray :=
  match disk.entry? q with
  | some (.file content) => some content
  | _ => none

/-- The file at a place holds the bytes of a text. -/
def HoldsText (disk : Disk) (q : Place) (text : String) : Prop :=
  ∃ bytes, Text.bytes? text = some bytes ∧ disk.file? q = some bytes

theorem HoldsText.isSome {text : String} (h : disk.HoldsText q text) :
    (disk.file? q).isSome := by
  obtain ⟨bytes, -, hfile⟩ := h
  rw [hfile]
  rfl

/-- A file holds no other text. -/
theorem HoldsText.unique {text text' : String} (h : disk.HoldsText q text)
    (h' : disk.HoldsText q text') : text = text' := by
  obtain ⟨bytes, hbytes, hfile⟩ := h
  obtain ⟨bytes', hbytes', hfile'⟩ := h'
  obtain rfl := Option.some.inj (hfile.symm.trans hfile')
  exact Text.bytes?_inj hbytes hbytes'

/-- Files that hold one text hold the same bytes. -/
theorem HoldsText.file?_eq {text : String} (h : disk.HoldsText l text)
    (h' : disk'.HoldsText q text) : disk.file? l = disk'.file? q := by
  obtain ⟨bytes, hbytes, hfile⟩ := h
  obtain ⟨bytes', hbytes', hfile'⟩ := h'
  rw [hfile, hfile', Option.some.inj (hbytes.symm.trans hbytes')]

/-! ## Entries -/

theorem entry?_of_prefix_home (h : q <+: disk.home) : disk.entry? q = some .directory := by
  rw [Disk.entry?, if_pos (List.isPrefixOf_iff_prefix.2 h)]

theorem entry?_nil : disk.entry? [] = some .directory := entry?_of_prefix_home List.nil_prefix

theorem entry?_of_not_prefix_home (h : ¬ q <+: disk.home) :
    disk.entry? q = (disk.entries.find? (·.1 = q)).map (·.2) := by
  rw [Disk.entry?, if_neg (mt List.isPrefixOf_iff_prefix.1 h)]

theorem file?_eq_none (h : disk.entry? q = none) : disk.file? q = none := by rw [file?, h]

theorem file?_congr (h : disk'.entry? q = disk.entry? q) : disk'.file? q = disk.file? q := by
  rw [file?, file?, h]

theorem entry?_congr (hhome : disk'.home = disk.home)
    (hentries : disk'.entries.find? (·.1 = q) = disk.entries.find? (·.1 = q)) :
    disk'.entry? q = disk.entry? q := by rw [Disk.entry?, Disk.entry?, hhome, hentries]

theorem find?_filter_of_keep {keep : Place × Entry → Bool} {entries : List (Place × Entry)}
    (hkeep : ∀ e : Place × Entry, e.1 = q → keep e = true) :
    (entries.filter keep).find? (·.1 = q) = entries.find? (·.1 = q) := by
  rw [List.find?_filter]
  refine congrArg (List.find? · entries) (funext fun e => decide_eq_decide.2 ?_)
  exact ⟨fun h => of_decide_eq_true h.2, fun h => ⟨hkeep e h, decide_eq_true h⟩⟩

theorem entry?_put_of_ne (h : q ≠ l) : Disk.entry? (disk.put l entry) q = disk.entry? q := by
  refine entry?_congr rfl ?_
  have hnone : [(l, entry)].find? (·.1 = q) = none := by simpa using h.symm
  rw [put, List.find?_append, hnone, Option.or_none]
  exact find?_filter_of_keep fun e he => decide_eq_true (he ▸ h)

theorem entry?_put_self (h : disk.entry? l ≠ some .directory) :
    Disk.entry? (disk.put l entry) l = some entry := by
  have hhome : ¬ l <+: (disk.put l entry).home := fun hp => h (entry?_of_prefix_home hp)
  rw [entry?_of_not_prefix_home hhome, put, List.find?_append]
  have hnone : (disk.entries.filter (·.1 ≠ l)).find? (·.1 = l) = none := by simp
  rw [hnone]
  simp

/-! ## Disks in which everything is in a directory -/

/-- Everything stands in a directory. -/
def Whole (disk : Disk) : Prop := ∀ e ∈ disk.entries, disk.entry? e.1.dropLast = some .directory

theorem Whole.dropLast (h : disk.Whole) (hq : disk.entry? q = some entry) :
    disk.entry? q.dropLast = some .directory := by
  by_cases hhome : q <+: disk.home
  · exact entry?_of_prefix_home ((List.dropLast_prefix q).trans hhome)
  · rw [entry?_of_not_prefix_home hhome, Option.map_eq_some_iff] at hq
    obtain ⟨e, he, -⟩ := hq
    obtain rfl : e.1 = q := by simpa using List.find?_some he
    exact h e (List.mem_of_find?_eq_some he)

/-- What is there has directories all the way. -/
theorem Whole.above (h : disk.Whole) {rest : Place} (hrest : rest ≠ [])
    (hq : disk.entry? (l ++ rest) = some entry) : disk.entry? l = some .directory := by
  induction rest using List.reverseRecOn generalizing entry with
  | nil => exact absurd rfl hrest
  | append_singleton rest name ih =>
    rw [← List.append_assoc] at hq
    have hparent := h.dropLast hq
    rw [List.dropLast_concat] at hparent
    by_cases hnil : rest = []
    · rwa [hnil, List.append_nil] at hparent
    · exact ih hnil hparent

/-- Nothing is below a place with nothing or a file. -/
theorem Whole.entry?_eq_none (h : disk.Whole) (hl : disk.entry? l ≠ some .directory)
    {rest : Place} (hrest : rest ≠ []) : disk.entry? (l ++ rest) = none := by
  rw [Option.eq_none_iff_forall_ne_some]
  exact fun entry hentry => hl (h.above hrest hentry)

theorem Whole.put (h : disk.Whole) (hl : disk.entry? l ≠ some .directory)
    (hparent : disk.entry? l.dropLast = some .directory) : (disk.put l entry).Whole := by
  intro e he
  rcases List.mem_append.1 he with he | he
  · have hdirectory := h e (List.mem_of_mem_filter he)
    have hne : e.1.dropLast ≠ l := by
      rintro rfl
      exact hl hdirectory
    rwa [entry?_put_of_ne hne]
  · obtain rfl := List.mem_singleton.1 he
    have hne : l.dropLast ≠ l := by
      intro heq
      rw [heq] at hparent
      exact hl hparent
    rwa [entry?_put_of_ne hne]

/-! ## Following names -/

/-- One name on from a place; two points lead back. -/
def onward (l : Place) (name : String) : Place := if name = ".." then l.dropLast else l ++ [name]

/-- The place that a path names by itself, whatever is on the disk. -/
def placeOf (disk : Disk) (path : Path) : Place := path.names.foldl onward (disk.origin path)

theorem follow_eq_ok : disk.follow l name = .ok next ↔ disk.entry? l = some .directory ∧
    (name = ".." ∨ byteSize name ≤ longestName) ∧ next = onward l name := by
  unfold follow onward
  split
  · next hentry => simp [hentry]
  · next hentry => simp [hentry]
  · next hentry =>
    split
    · next hname => simp [hentry, hname, eq_comm]
    · next hname =>
      split
      · next hlong => simp [hentry, hname, Nat.not_le.2 hlong]
      · next hshort => simp [hentry, hname, Nat.le_of_not_lt hshort, eq_comm]

theorem follow_eq_nameTooLong : disk.follow l name = .error .nameTooLong ↔
    disk.entry? l = some .directory ∧ name ≠ ".." ∧ longestName < byteSize name := by
  unfold follow
  split
  · next hentry => simp [hentry]
  · next hentry => simp [hentry]
  · next hentry =>
    split
    · next hname => simp [hname]
    · next hname =>
      split
      · next hlong => simp [hentry, hname, hlong]
      · next hshort => simp [hshort]

/-- From a directory, only a name that is too long cannot be followed. -/
theorem eq_nameTooLong (hl : disk.entry? l = some .directory)
    (h : disk.follow l name = .error fault) : fault = .nameTooLong := by
  unfold follow at h
  rw [hl] at h
  dsimp only at h
  split at h
  · exact absurd h nofun
  · split at h
    · exact (Except.error.inj h).symm
    · exact absurd h nofun

/-- Where names lead is where they say. -/
theorem eq_of_foldlM_follow : ∀ {names : List String} {l : Place},
    names.foldlM disk.follow l = .ok next → next = names.foldl onward l
  | [], l, h => (Except.ok.inj h).symm
  | name :: rest, l, h => by
    rw [List.foldlM_cons] at h
    obtain ⟨l', hfollow, h⟩ := Steps.bind_eq_ok.1 h
    rw [List.foldl_cons, ← (follow_eq_ok.1 hfollow).2.2]
    exact eq_of_foldlM_follow h

theorem locate_eq_ok : disk.locate path = .ok l ↔
    refused path = none ∧ path.names.foldlM disk.follow (disk.origin path) = .ok l := by
  rw [locate]
  cases refused path with
  | none => simp
  | some fault => simp

theorem eq_placeOf_of_locate (h : disk.locate path = .ok l) : l = disk.placeOf path :=
  eq_of_foldlM_follow (locate_eq_ok.1 h).2

/-- Names without points lead down. -/
theorem foldl_onward (h : ".." ∉ names) : names.foldl onward l = l ++ names := by
  induction names generalizing l with
  | nil => exact (List.append_nil l).symm
  | cons name rest ih =>
    rw [List.mem_cons, not_or] at h
    rw [List.foldl_cons, ih h.2, onward, if_neg (Ne.symm h.1), List.append_assoc,
      List.singleton_append]

/-! ## Disks that grow -/

/-- Whatever is there stays there, and directories stay directories. -/
structure Grows (disk disk' : Disk) : Prop where
  home : disk'.home = disk.home
  directory : ∀ q, disk.entry? q = some .directory → disk'.entry? q = some .directory
  there : ∀ q, (disk.entry? q).isSome → (disk'.entry? q).isSome

theorem Grows.refl (disk : Disk) : disk.Grows disk := ⟨rfl, fun _ h => h, fun _ h => h⟩

theorem Grows.trans {disk'' : Disk} (h : disk.Grows disk') (h' : disk'.Grows disk'') :
    disk.Grows disk'' :=
  ⟨h'.home.trans h.home, fun q hq => h'.directory q (h.directory q hq),
    fun q hq => h'.there q (h.there q hq)⟩

theorem Grows.put (hl : disk.entry? l ≠ some .directory) : disk.Grows (disk.put l entry) := by
  refine ⟨rfl, fun q hq => ?_, fun q hq => ?_⟩
  · have hne : q ≠ l := by
      rintro rfl
      exact hl hq
    rwa [entry?_put_of_ne hne]
  · by_cases hne : q = l
    · rw [hne, entry?_put_self hl]
      rfl
    · rwa [entry?_put_of_ne hne]

theorem Grows.follow (h : disk.Grows disk') (hl : disk.follow l name = .ok next) :
    disk'.follow l name = .ok next := by
  rw [follow_eq_ok] at hl ⊢
  exact ⟨h.directory l hl.1, hl.2⟩

theorem Grows.foldlM_follow (h : disk.Grows disk') : ∀ {names : List String} {l : Place},
    names.foldlM disk.follow l = .ok next → names.foldlM disk'.follow l = .ok next
  | [], _, hl => hl
  | name :: rest, l, hl => by
    rw [List.foldlM_cons] at hl ⊢
    obtain ⟨l', hfollow, hl⟩ := Steps.bind_eq_ok.1 hl
    exact Steps.bind_eq_ok.2 ⟨l', h.follow hfollow, h.foldlM_follow hl⟩

theorem Grows.foldlM_nameTooLong (h : disk.Grows disk') : ∀ {names : List String} {l : Place},
    names.foldlM disk.follow l = .error .nameTooLong →
    names.foldlM disk'.follow l = .error .nameTooLong
  | [], _, hl => absurd hl nofun
  | name :: rest, l, hl => by
    rw [List.foldlM_cons] at hl ⊢
    rw [Steps.bind_eq_error] at hl ⊢
    obtain hfollow | ⟨l', hfollow, hl⟩ := hl
    · rw [follow_eq_nameTooLong] at hfollow ⊢
      exact Or.inl ⟨h.directory l hfollow.1, hfollow.2⟩
    · exact Or.inr ⟨l', h.follow hfollow, h.foldlM_nameTooLong hl⟩

theorem Grows.origin (h : disk.Grows disk') (path : Path) : disk'.origin path = disk.origin path := by
  rw [Disk.origin, Disk.origin, h.home]

theorem Grows.placeOf (h : disk.Grows disk') (path : Path) :
    disk'.placeOf path = disk.placeOf path := by rw [Disk.placeOf, Disk.placeOf, h.origin]

theorem Grows.locate (h : disk.Grows disk') (hl : disk.locate path = .ok l) :
    disk'.locate path = .ok l := by
  rw [locate_eq_ok] at hl ⊢
  exact ⟨hl.1, h.origin path ▸ h.foldlM_follow hl.2⟩

theorem Grows.locate_nameTooLong (h : disk.Grows disk')
    (hl : disk.locate path = .error .nameTooLong) : disk'.locate path = .error .nameTooLong := by
  rw [Disk.locate] at hl ⊢
  cases hrefused : refused path with
  | none =>
    rw [hrefused] at hl
    exact h.origin path ▸ h.foldlM_nameTooLong hl
  | some fault =>
    rw [hrefused] at hl
    exact hl

theorem has_eq_false : disk.has path = .ok false ↔
    (∃ l, disk.locate path = .ok l ∧ disk.entry? l = none) ∨
      ∃ fault ≠ ReadFault.nameTooLong, disk.locate path = .error fault := by
  unfold Disk.has
  split
  · next l hl => simp [hl]
  · next hl => simp [hl]
  · next fault hfault hl => simpa [hl] using hfault

/-- What is found stays found. -/
theorem Grows.has (h : disk.Grows disk') (hhas : disk'.has path = .ok false) :
    disk.has path = .ok false := by
  rw [has_eq_false] at hhas ⊢
  cases hlocate : disk.locate path with
  | ok l =>
    obtain ⟨l', hl', hnone⟩ | ⟨fault, -, hfault⟩ := hhas
    · obtain rfl := Except.ok.inj ((h.locate hlocate).symm.trans hl')
      refine Or.inl ⟨l, rfl, Option.not_isSome_iff_eq_none.1 fun hsome => ?_⟩
      have := h.there l hsome
      rw [hnone] at this
      exact absurd this nofun
    · exact absurd ((h.locate hlocate).symm.trans hfault) nofun
  | error fault =>
    refine Or.inr ⟨fault, ?_, rfl⟩
    rintro rfl
    have hlong := h.locate_nameTooLong hlocate
    obtain ⟨l', hl', -⟩ | ⟨fault, hfault, hl'⟩ := hhas
    · exact absurd (hlong.symm.trans hl') nofun
    · exact hfault (Except.error.inj (hl'.symm.trans hlong))

/-! ## Longer paths -/

/-- What stands behind a text takes no bytes from it. -/
theorem pointsSize_le (cs ds : List Char) :
    pointsSize (Text.points cs) ≤ pointsSize (Text.points (cs ++ ds)) := by
  fun_induction Text.points cs with
  | case1 => exact Nat.zero_le _
  | case2 c =>
    by_cases hc : c = Text.mark
    · have hnothing : pointSize (Text.alone c) = 0 := by
        rw [hc]
        rfl
      simp [pointsSize, hnothing]
    · rw [List.singleton_append, Text.points_cons_of_ne hc, Text.alone_of_ne hc]
      simp [pointsSize]
  | case3 c d rest point hpoint ih =>
    rw [List.cons_append, List.cons_append, Text.points, hpoint]
    simpa [pointsSize] using ih
  | case4 c d rest hnone ih =>
    rw [List.cons_append, List.cons_append, Text.points, hnone]
    simpa [pointsSize] using ih

theorem byteSize_append_le (s t : String) : byteSize s ≤ byteSize (s ++ t) := by
  have hle := pointsSize_le s.toList t.toList
  rwa [← String.toList_append] at hle

theorem byteSize_text_le {root : String} {rest : List String}
    (h : byteSize (Path.text ⟨root, names ++ rest⟩) ≤ longestPath) :
    byteSize (Path.text ⟨root, names⟩) ≤ longestPath := by
  by_cases hnone : root = "" ∧ names = []
  · rw [Path.text, if_pos hnone]
    decide
  · have hnone' : ¬ (root = "" ∧ names ++ rest = []) := fun hempty =>
      hnone ⟨hempty.1, (List.append_eq_nil_iff.1 hempty.2).1⟩
    have hbehind : ∃ more, Text.join "/" (names ++ rest) = Text.join "/" names ++ more := by
      by_cases hnames : names = []
      · exact ⟨Text.join "/" rest, by rw [hnames]; exact String.empty_append.symm⟩
      by_cases hrest : rest = []
      · exact ⟨"", by rw [hrest, List.append_nil, String.append_empty]⟩
      · exact ⟨_, (Text.join_append "/" hnames hrest).trans String.append_assoc⟩
    obtain ⟨more, hmore⟩ := hbehind
    rw [Path.text, if_neg hnone', hmore, ← String.append_assoc] at h
    rw [Path.text, if_neg hnone]
    exact Nat.le_trans (byteSize_append_le _ more) h

/-- What is refused is refused with more names behind it. -/
theorem refused_of_append {root : String} {rest : List String}
    (h : refused ⟨root, names ++ rest⟩ = none) : refused ⟨root, names⟩ = none := by
  unfold refused at h ⊢
  split at h
  · exact absurd h nofun
  · next hnames =>
    split at h
    · exact absurd h nofun
    · next hsize =>
      rw [List.any_append, Bool.or_eq_true, not_or] at hnames
      have hsize' := byteSize_text_le (Nat.le_of_not_lt hsize)
      rw [if_neg hnames.1, if_neg (Nat.not_lt.2 hsize')]

/-- A path that leads somewhere does so through directories. -/
theorem exists_locate_of_append {root : String} {rest : List String} (hrest : rest ≠ [])
    (h : disk.locate ⟨root, names ++ rest⟩ = .ok l) :
    ∃ next, disk.locate ⟨root, names⟩ = .ok next ∧ disk.entry? next = some .directory := by
  obtain ⟨hrefused, hwalk⟩ := locate_eq_ok.1 h
  rw [List.foldlM_append] at hwalk
  obtain ⟨next, hnames, hwalk⟩ := Steps.bind_eq_ok.1 hwalk
  refine ⟨next, locate_eq_ok.2 ⟨refused_of_append hrefused, hnames⟩, ?_⟩
  obtain ⟨name, rest, rfl⟩ := List.exists_cons_of_ne_nil hrest
  rw [List.foldlM_cons] at hwalk
  obtain ⟨l', hfollow, -⟩ := Steps.bind_eq_ok.1 hwalk
  exact (follow_eq_ok.1 hfollow).1

/-! ## Files that a path shows -/

/-- If nothing is found at a path, there is no file below the place that it names. -/
def Shows (disk : Disk) (path : Path) : Prop :=
  disk.has path = .ok false → ∀ q, disk.placeOf path <+: q → disk.file? q = none

/-- Names that cannot be followed lead to a place with nothing below. -/
theorem Whole.file?_eq_none_of_follow (h : disk.Whole) : ∀ {names : List String} {l q : Place},
    ".." ∉ names → names.foldlM disk.follow l = .error fault → fault ≠ .nameTooLong →
    names.foldl onward l <+: q → disk.file? q = none
  | [], _, _, _, hfollow, _, _ => absurd hfollow nofun
  | name :: rest, l, q, hdots, hfollow, hfault, hq => by
    rw [List.foldlM_cons] at hfollow
    obtain hname | ⟨l', hname, hfollow⟩ := Steps.bind_eq_error.1 hfollow
    · have hl : disk.entry? l ≠ some .directory := fun hl => hfault (eq_nameTooLong hl hname)
      obtain ⟨more, rfl⟩ := hq
      rw [foldl_onward hdots, List.append_assoc]
      exact file?_eq_none (h.entry?_eq_none hl (by simp))
    · rw [List.foldl_cons, ← (follow_eq_ok.1 hname).2.2] at hq
      exact h.file?_eq_none_of_follow (List.not_mem_of_not_mem_cons hdots) hfollow hfault hq

/-- A path without points shows its files. -/
theorem Whole.shows (h : disk.Whole) (hrefused : refused path = none)
    (hdots : ".." ∉ path.names) : disk.Shows path := by
  intro hhas q hq
  obtain ⟨l, hl, hnone⟩ | ⟨fault, hfault, hl⟩ := has_eq_false.1 hhas
  · rw [← eq_placeOf_of_locate hl] at hq
    obtain ⟨more, rfl⟩ := hq
    refine file?_eq_none ?_
    by_cases hmore : more = []
    · rwa [hmore, List.append_nil]
    · exact h.entry?_eq_none (by rw [hnone]; exact nofun) hmore
  · rw [locate, hrefused] at hl
    exact h.file?_eq_none_of_follow hdots hl hfault hq

/-! ## Making directories -/

/-- A change that leaves the files as they are. -/
structure Furnishes (disk disk' : Disk) : Prop extends disk.Grows disk' where
  files : ∀ q, disk'.file? q = disk.file? q
  whole : disk.Whole → disk'.Whole

theorem Furnishes.refl (disk : Disk) : disk.Furnishes disk :=
  ⟨.refl disk, fun _ => rfl, id⟩

theorem Furnishes.trans {disk'' : Disk} (h : disk.Furnishes disk') (h' : disk'.Furnishes disk'') :
    disk.Furnishes disk'' :=
  ⟨h.toGrows.trans h'.toGrows, fun q => (h'.files q).trans (h.files q), h'.whole ∘ h.whole⟩

/-- From a directory one comes to a place in a directory. -/
theorem Whole.onward (h : disk.Whole) (hl : disk.entry? l = some .directory) (name : String) :
    disk.entry? (onward l name).dropLast = some .directory := by
  unfold Disk.onward
  split
  · exact h.dropLast (h.dropLast hl)
  · rwa [List.dropLast_concat]

theorem enter_spec (disk : Disk) (l : Place) (name : String) :
    disk.Furnishes (disk.enter l name).2 ∧ ∀ next, (disk.enter l name).1 = .ok next →
      (disk.enter l name).2.follow l name = .ok next ∧
        Disk.entry? (disk.enter l name).2 next = some .directory := by
  unfold enter
  split
  · exact ⟨.refl disk, nofun⟩
  · next next hfollow =>
    split
    · next hnext =>
      refine ⟨.refl disk, ?_⟩
      rintro _ ⟨⟩
      exact ⟨hfollow, hnext⟩
    · exact ⟨.refl disk, nofun⟩
    · next hnext =>
      have hfree : disk.entry? next ≠ some .directory := by
        rw [hnext]
        exact nofun
      have hgrows : disk.Grows (disk.put next .directory) := .put hfree
      refine ⟨⟨hgrows, fun q => ?_, fun h => ?_⟩, ?_⟩
      · by_cases hq : q = next
        · rw [hq, file?, entry?_put_self hfree, file?_eq_none hnext]
        · exact file?_congr (entry?_put_of_ne hq)
      · obtain ⟨hl, -, rfl⟩ := follow_eq_ok.1 hfollow
        exact h.put hfree (h.onward hl name)
      · rintro _ ⟨⟩
        exact ⟨hgrows.follow hfollow, entry?_put_self hfree⟩

theorem makeDirectories_spec : ∀ (names : List String) (disk : Disk) (l : Place),
    disk.Furnishes (disk.makeDirectories l names).2 ∧
      ∀ next, (disk.makeDirectories l names).1 = .ok next →
        names.foldlM (disk.makeDirectories l names).2.follow l = .ok next
  | [], disk, l => ⟨.refl disk, fun _ h => h⟩
  | name :: rest, disk, l => by
    obtain ⟨hfurnishes, henter⟩ := enter_spec disk l name
    rw [makeDirectories]
    split
    · next next changed hresult =>
      rw [hresult] at hfurnishes henter
      obtain ⟨hrest, hmake⟩ := makeDirectories_spec rest changed next
      refine ⟨hfurnishes.trans hrest, fun last hlast => ?_⟩
      rw [List.foldlM_cons, hrest.follow (henter next rfl).1]
      exact hmake last hlast
    · next fault changed hresult =>
      rw [hresult] at hfurnishes
      exact ⟨hfurnishes, nofun⟩

/-! ## Writing -/

/-- A file is written at the place that a path names, and no other. -/
structure Writes (disk disk' : Disk) (path : Path) (content : ByteArray) : Prop
    extends disk.Grows disk' where
  whole : disk.Whole → disk'.Whole
  located : disk'.locate path = .ok (disk.placeOf path)
  file : disk'.file? (disk.placeOf path) = some content
  others : ∀ q ≠ disk.placeOf path, disk'.file? q = disk.file? q

theorem names_eq {path : Path} (h : path.names.getLast? = some name) :
    path.names = path.parent.names ++ [name] :=
  (List.dropLast_append_getLast? name h).symm

/-- **Writing** either fails and leaves the files as they are, or writes the one. -/
theorem write_spec (disk : Disk) (path : Path) (content : ByteArray) :
    ((∃ e, (disk.write path content).1 = .error e) ∧
      disk.Furnishes (disk.write path content).2) ∨
    ((disk.write path content).1 = .ok () ∧
      disk.Writes (disk.write path content).2 path content) := by
  unfold write
  split
  · next name hrefused hlast =>
    obtain ⟨hmade, hmake⟩ :=
      makeDirectories_spec path.parent.names disk (disk.origin path)
    split
    · next fault changed hresult =>
      rw [hresult] at hmade
      exact Or.inl ⟨⟨_, rfl⟩, hmade⟩
    · next directory changed hresult =>
      rw [hresult] at hmade hmake
      split
      · exact Or.inl ⟨⟨_, rfl⟩, hmade⟩
      · next l hfollow =>
        have hwalk : path.names.foldlM changed.follow (disk.origin path) = .ok l := by
          rw [names_eq hlast, List.foldlM_append, hmake directory rfl]
          show [name].foldlM changed.follow directory = .ok l
          rw [List.foldlM_cons, hfollow]
          rfl
        have hplace : l = disk.placeOf path := eq_of_foldlM_follow hwalk
        split
        · exact Or.inl ⟨⟨_, rfl⟩, hmade⟩
        · next hfree =>
          obtain ⟨hdirectory, -, hl⟩ := follow_eq_ok.1 hfollow
          have hput : changed.Grows (changed.put l (.file content)) := .put hfree
          have hgrows := hmade.toGrows.trans hput
          refine Or.inr ⟨rfl, ⟨hgrows, fun h => ?_, ?_, ?_, fun q hq => ?_⟩⟩
          · exact (hmade.whole h).put hfree (hl ▸ (hmade.whole h).onward hdirectory name)
          · refine locate_eq_ok.2 ⟨hrefused, ?_⟩
            rw [← hplace, hgrows.origin]
            exact hput.foldlM_follow hwalk
          · rw [← hplace, file?, entry?_put_self hfree]
          · rw [← hplace] at hq
            exact (file?_congr (entry?_put_of_ne hq)).trans (hmade.files q)
  · exact Or.inl ⟨⟨_, rfl⟩, .refl disk⟩

/-! ## Clearing -/

/-- All files below a place are removed, and no others. -/
structure Clears (disk disk' : Disk) (l : Place) : Prop where
  home : disk'.home = disk.home
  whole : disk.Whole → disk'.Whole
  below : ∀ q, l <+: q → disk'.file? q = none
  outside : ∀ q, ¬ l <+: q → disk'.file? q = disk.file? q

/-- The disk with the entries at some places. -/
def keeping (disk : Disk) (keep : Place → Bool) : Disk :=
  { disk with entries := disk.entries.filter (keep ·.1) }

variable {keep : Place → Bool}

theorem keeping_keeping {keep' : Place → Bool} :
    (disk.keeping keep).keeping keep' = disk.keeping fun q => keep' q && keep q := by
  rw [keeping, keeping, keeping, List.filter_filter]

theorem entry?_keeping (h : keep q = true) :
    Disk.entry? (disk.keeping keep) q = disk.entry? q :=
  entry?_congr rfl (find?_filter_of_keep fun _ he => he ▸ h)

theorem file?_keeping_of_not (h : keep q ≠ true) : (disk.keeping keep).file? q = none := by
  by_cases hhome : q <+: (disk.keeping keep).home
  · rw [file?, entry?_of_prefix_home hhome]
  · refine file?_eq_none ?_
    rw [entry?_of_not_prefix_home hhome, Option.map_eq_none_iff, List.find?_eq_none]
    intro e he heq
    exact h (of_decide_eq_true heq ▸ (List.mem_filter.1 he).2)

/-- Dropping the entries below a directory, or these and its own, clears it. -/
theorem clears_keeping (hl : disk.entry? l = some .directory)
    (houtside : ∀ q, ¬ l <+: q → keep q = true) (hbelow : ∀ q, keep q = true → l <+: q → q = l) :
    disk.Clears (disk.keeping keep) l := by
  refine ⟨rfl, fun h e he => ?_, fun q hq => ?_, fun q hq => ?_⟩
  · obtain ⟨he, hkept⟩ := List.mem_filter.1 he
    have hdirectory := h e he
    by_cases hkeep : keep e.1.dropLast = true
    · rwa [entry?_keeping hkeep]
    · -- only of the cleared directory itself the parent may have been dropped
      have hparent : l <+: e.1.dropLast := by
        by_contra hout
        exact hkeep (houtside _ hout)
      have hself := hbelow e.1 hkept (hparent.trans (List.dropLast_prefix _))
      have hlength := hparent.length_le
      rw [hself, List.length_dropLast] at hlength
      have hnil : l = [] := by
        cases l with
        | nil => rfl
        | cons name rest => exact absurd hlength (by simp)
      rw [hself, hnil]
      exact entry?_nil
  · by_cases hkeep : keep q = true
    · obtain rfl := hbelow q hkeep hq
      rw [file?, entry?_keeping hkeep, hl]
    · exact file?_keeping_of_not hkeep
  · exact file?_congr (entry?_keeping (houtside q hq))

/-- **Clearing** removes the files below the place of the path, unless it leaves the disk
    as it is; that is no failure only if there is nothing at the path. -/
theorem clear_spec (disk : Disk) (path : Path) :
    ((disk.clear path).2 = disk ∧
      ((disk.clear path).1 = .ok () → disk.has path = .ok false)) ∨
    disk.Clears (disk.clear path).2 (disk.placeOf path) := by
  unfold clear
  split
  · exact Or.inl ⟨rfl, nofun⟩
  · next hhas => exact Or.inl ⟨rfl, fun _ => hhas⟩
  · next fault hhas hlocate =>
    unfold Disk.has at hhas
    rw [hlocate] at hhas
    cases fault <;> exact absurd hhas nofun
  · next l hhas hlocate =>
    obtain rfl := eq_placeOf_of_locate hlocate
    split
    · next hl =>
      -- what is emptied keeps its own entry, unless that is dropped as well
      let keep (q : Place) : Bool := !(disk.placeOf path).isPrefixOf q || q = disk.placeOf path
      have houtside : ∀ q, ¬ disk.placeOf path <+: q → keep q = true := by
        intro q hq
        have hprefix : (disk.placeOf path).isPrefixOf q = false :=
          Bool.eq_false_iff.2 (mt List.isPrefixOf_iff_prefix.1 hq)
        simp [keep, hprefix]
      have hbelow : ∀ q, keep q = true → disk.placeOf path <+: q → q = disk.placeOf path := by
        intro q hkeep hq
        simpa [keep, List.isPrefixOf_iff_prefix.2 hq] using hkeep
      split
      · exact Or.inr (clears_keeping hl houtside hbelow)
      · exact Or.inr (clears_keeping hl houtside hbelow)
      · refine Or.inr ?_
        show disk.Clears ((disk.keeping keep).keeping (· ≠ disk.placeOf path)) _
        rw [keeping_keeping]
        refine clears_keeping hl (fun q hq => ?_) fun q hkeep hq => ?_
        · have hne : q ≠ disk.placeOf path := by
            rintro rfl
            exact hq List.prefix_rfl
          rw [houtside q hq, Bool.and_true, decide_eq_true hne]
        · exact hbelow q (Bool.and_eq_true_iff.1 hkeep).2 hq
    · exact Or.inl ⟨rfl, nofun⟩

theorem Clears.placeOf (h : disk.Clears disk' l) (path : Path) :
    disk'.placeOf path = disk.placeOf path := by
  rw [Disk.placeOf, Disk.placeOf, origin, origin, h.home]

/-- A path that shows its files is cleared if there is no failure. -/
theorem Shows.clears (h : disk.Shows path) (hclear : (disk.clear path).1 = .ok ()) :
    disk.Clears (disk.clear path).2 (disk.placeOf path) := by
  obtain ⟨hsame, hhas⟩ | h := clear_spec disk path
  · rw [hsame]
    exact ⟨rfl, id, h (hhas hclear), fun _ _ => rfl⟩
  · exact h

/-! ## What all changes keep -/

/-- A disk stays whole, and a path goes on showing its files. -/
structure Keeps (path : Path) (disk disk' : Disk) : Prop where
  home : disk'.home = disk.home
  whole : disk.Whole → disk'.Whole
  shows : disk.Shows path → disk'.Shows path

theorem Keeps.refl (path : Path) (disk : Disk) : Keeps path disk disk := ⟨rfl, id, id⟩

theorem Keeps.trans {disk'' : Disk} (h : Keeps path disk disk') (h' : Keeps path disk' disk'') :
    Keeps path disk disk'' :=
  ⟨h'.home.trans h.home, h'.whole ∘ h.whole, h'.shows ∘ h.shows⟩

theorem Furnishes.keeps (h : disk.Furnishes disk') (path : Path) : Keeps path disk disk' := by
  refine ⟨h.home, h.whole, fun hshows hhas q hq => ?_⟩
  rw [h.files q]
  exact hshows (h.has hhas) q (h.placeOf path ▸ hq)

/-- Behind a path that a file has been written below, something is found. -/
theorem Writes.keeps {root : String} {rest : List String} (hrest : rest ≠ [])
    (h : disk.Writes disk' ⟨root, names ++ rest⟩ content) : Keeps ⟨root, names⟩ disk disk' := by
  refine ⟨h.home, h.whole, fun _ hhas => ?_⟩
  obtain ⟨next, hnext, hdirectory⟩ := exists_locate_of_append hrest h.located
  obtain ⟨l, hl, hnone⟩ | ⟨fault, -, hfault⟩ := has_eq_false.1 hhas
  · obtain rfl := Except.ok.inj (hnext.symm.trans hl)
    exact absurd (hdirectory.symm.trans hnone) nofun
  · exact absurd (hnext.symm.trans hfault) nofun

theorem write_keeps {root : String} {rest : List String} (hrest : rest ≠ []) (disk : Disk)
    (content : ByteArray) :
    Keeps ⟨root, names⟩ disk (disk.write ⟨root, names ++ rest⟩ content).2 := by
  obtain ⟨-, h⟩ | ⟨-, h⟩ := write_spec disk ⟨root, names ++ rest⟩ content
  · exact h.keeps _
  · exact h.keeps hrest

theorem clear_keeps (disk : Disk) (path : Path) : Keeps path disk (disk.clear path).2 := by
  obtain ⟨hsame, -⟩ | h := clear_spec disk path
  · rw [hsame]
    exact .refl path disk
  · exact ⟨h.home, h.whole, fun _ _ q hq => h.below q (h.placeOf path ▸ hq)⟩

end ApiTypes.Disk
