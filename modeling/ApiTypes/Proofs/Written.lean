/-
  What is left when files have been written.

  * `writeFiles_spec`, `file?_of_mem_writeFiles`: the run over the files of a generation;
    each is at its own place, and nothing else has changed;
  * `Writable`: files that can be written, and the disk that they leave;
  * `Task`, `writeAll`: earlier writes into the same directory;
  * `WrittenAnew`: what a write leaves that clears the directory first.  Whatever has been
    written before, nothing of it is seen there (`write_anew`).
-/
import ApiTypes.Proofs.Disk
import ApiTypes.Proofs.FilePaths
import ApiTypes.Proofs.Imports

namespace ApiTypes.Output

variable {disk after changed : Disk} {directory : Path} {f : File} {fs rest : List File}
  {paths : List Path} {text : String}

/-! ## One file -/

/-- A text is written, or the write fails. -/
theorem writeText_spec {path : Path} (h : writeText disk path text = (.ok (), after)) :
    ∃ bytes, Text.bytes? text = some bytes ∧ disk.Writes after path bytes := by
  unfold writeText at h
  split at h
  · next bytes hbytes =>
    obtain ⟨⟨e, he⟩, -⟩ | ⟨-, hwrites⟩ := Disk.write_spec disk path bytes
    · rw [h] at he
      exact absurd he nofun
    · rw [h] at hwrites
      exact ⟨bytes, hbytes, hwrites⟩
  · have hresult : ((disk.write path ByteArray.empty).1 >>= fun () => .error .malformed) = .ok () :=
      congrArg Prod.fst h
    obtain ⟨_, -, hfailure⟩ := Steps.bind_eq_ok.1 hresult
    exact absurd hfailure nofun

theorem writeText_keeps (hf : f.Below) (directory : Path) (disk : Disk) (text : String) :
    Disk.Keeps directory disk (writeText disk (f.path directory) text).2 := by
  rw [File.path_eq directory hf]
  unfold writeText
  split
  · exact Disk.write_keeps hf.2 disk _
  · exact Disk.write_keeps hf.2 disk _

/-! ## All files -/

theorem writeFiles_cons (h : writeFiles directory disk (f :: rest) = (.ok paths, after)) :
    ∃ text changed more, f.text = .ok text ∧
      writeText disk (f.path directory) text = (.ok (), changed) ∧
      writeFiles directory changed rest = (.ok more, after) ∧ paths = f.path directory :: more := by
  rw [writeFiles] at h
  split at h
  · exact absurd (congrArg Prod.fst h) nofun
  · next text htext =>
    split at h
    · exact absurd (congrArg Prod.fst h) nofun
    · next changed hwrite =>
      have hpaths : (f.path directory :: ·) <$> (writeFiles directory changed rest).1 = .ok paths :=
        congrArg Prod.fst h
      have hafter : (writeFiles directory changed rest).2 = after := congrArg Prod.snd h
      obtain ⟨more, hmore, hpaths⟩ := Steps.map_eq_ok.1 hpaths
      exact ⟨text, changed, more, htext, hwrite, Prod.ext hmore hafter, hpaths.symm⟩

/-- **The run.**  Files that are written are at their places, and nothing else changes. -/
theorem writeFiles_spec : ∀ {fs : List File} {disk : Disk} {paths : List Path},
    writeFiles directory disk fs = (.ok paths, after) →
      paths = fs.map (File.path directory) ∧ disk.Grows after ∧
      (∀ f ∈ fs, after.locate (f.path directory) = .ok (disk.placeOf (f.path directory))) ∧
      ∀ q, (∀ f ∈ fs, disk.placeOf (f.path directory) ≠ q) → after.file? q = disk.file? q
  | [], disk, paths, h => by
    obtain ⟨hpaths, rfl⟩ := Prod.mk.inj h
    obtain rfl := Except.ok.inj hpaths
    exact ⟨rfl, .refl disk, nofun, fun _ _ => rfl⟩
  | f :: rest, disk, paths, h => by
    obtain ⟨text, changed, more, -, hwrite, hrest, rfl⟩ := writeFiles_cons h
    obtain ⟨bytes, -, hwrites⟩ := writeText_spec hwrite
    obtain ⟨rfl, hgrows, hlocated, hothers⟩ := writeFiles_spec hrest
    refine ⟨rfl, hwrites.toGrows.trans hgrows, ?_, fun q hq => ?_⟩
    · rintro f' (_ | ⟨_, hf'⟩)
      · exact hgrows.locate hwrites.located
      · rw [← hwrites.placeOf]
        exact hlocated f' hf'
    · have hrest' := hothers q fun f' hf' => by
        rw [hwrites.placeOf]
        exact hq f' (List.mem_cons_of_mem _ hf')
      exact hrest'.trans (hwrites.others q (hq f List.mem_cons_self).symm)

/-- What is the last to be written to a place stays there. -/
theorem file?_of_writeFiles_append : ∀ {front : List File} {disk : Disk} {paths : List Path},
    writeFiles directory disk (front ++ f :: rest) = (.ok paths, after) →
    (∀ f' ∈ rest, disk.placeOf (f'.path directory) ≠ disk.placeOf (f.path directory)) →
    ∃ text, f.text = .ok text ∧ after.HoldsText (disk.placeOf (f.path directory)) text
  | [], disk, paths, h, hrest => by
    obtain ⟨text, changed, more, htext, hwrite, hmore, -⟩ := writeFiles_cons h
    obtain ⟨bytes, hbytes, hwrites⟩ := writeText_spec hwrite
    obtain ⟨-, -, -, hothers⟩ := writeFiles_spec hmore
    refine ⟨text, htext, bytes, hbytes, (hothers _ fun f' hf' => ?_).trans hwrites.file⟩
    rw [hwrites.placeOf]
    exact hrest f' hf'
  | first :: front, disk, paths, h, hrest => by
    obtain ⟨text, changed, more, -, hwrite, hmore, -⟩ := writeFiles_cons h
    obtain ⟨bytes, -, hwrites⟩ := writeText_spec hwrite
    rw [← hwrites.placeOf]
    refine file?_of_writeFiles_append hmore fun f' hf' => ?_
    rw [hwrites.placeOf, hwrites.placeOf]
    exact hrest f' hf'

/-- What has been written is not written over when all places are different. -/
theorem file?_of_mem_writeFiles (hnodup : (fs.map fun f => disk.placeOf (f.path directory)).Nodup)
    (h : writeFiles directory disk fs = (.ok paths, after)) (hf : f ∈ fs) :
    ∃ text, f.text = .ok text ∧ after.HoldsText (disk.placeOf (f.path directory)) text := by
  obtain ⟨front, rest, rfl⟩ := List.append_of_mem hf
  refine file?_of_writeFiles_append h fun f' hf' heq => ?_
  rw [List.map_append, List.map_cons] at hnodup
  have hfirst := (List.nodup_cons.1 (List.nodup_append.1 hnodup).2.1).1
  exact hfirst (List.mem_map.2 ⟨f', hf', heq⟩)

theorem writeFiles_keeps (directory : Path) : ∀ (fs : List File) (disk : Disk),
    (∀ f ∈ fs, f.Below) → Disk.Keeps directory disk (writeFiles directory disk fs).2
  | [], disk, _ => .refl directory disk
  | f :: rest, disk, hfs => by
    obtain ⟨hf, hrest⟩ := List.forall_mem_cons.1 hfs
    rw [writeFiles]
    split
    · exact .refl directory disk
    · next text htext =>
      have hkeeps := writeText_keeps hf directory disk text
      split
      · next e changed hwrite =>
        rwa [hwrite] at hkeeps
      · next changed hwrite =>
        rw [hwrite] at hkeeps
        exact hkeeps.trans (writeFiles_keeps directory rest changed hrest)

/-- Files can be written to paths one after another, which makes one disk of another. -/
inductive Writable (directory : Path) : Disk → List File → List Path → Disk → Prop
  | nil {disk : Disk} : Writable directory disk [] [] disk
  | cons {disk after : Disk} {f : File} {rest : List File} {p : Path} {paths : List Path}
      {text : String} {bytes : ByteArray} : f.path directory = p → f.text = .ok text →
      Text.bytes? text = some bytes → (disk.write p bytes).1 = .ok () →
      Writable directory (disk.write p bytes).2 rest paths after →
      Writable directory disk (f :: rest) (p :: paths) after

theorem Writable.writeFiles_eq (h : Writable directory disk fs paths after) :
    writeFiles directory disk fs = (.ok paths, after) := by
  induction h with
  | nil => rfl
  | @cons disk after f rest p paths text bytes hpath htext hbytes hwrite _ ih =>
    have hone : writeText disk p text = (.ok (), (disk.write p bytes).2) := by
      rw [writeText, hbytes]
      exact Prod.ext hwrite rfl
    rw [writeFiles, htext, hpath]
    dsimp only
    rw [hone]
    dsimp only
    rw [ih]
    rfl

/-! ## Files that are apart -/

/-- Files have different places below the directory. -/
structure Apart (fs : List File) : Prop where
  below : ∀ f ∈ fs, f.Below
  down : ∀ f ∈ fs, ".." ∉ f.names
  nodup : (fs.map File.names).Nodup

theorem placeOf_path (hbelow : f.Below) (hdown : ".." ∉ f.names) (disk : Disk)
    (directory : Path) :
    disk.placeOf (f.path directory) = disk.placeOf directory ++ f.names := by
  rw [File.path_eq directory hbelow, Disk.placeOf, List.foldl_append, Disk.foldl_onward hdown]
  rfl

theorem Apart.nodup_paths (h : Apart fs) (directory : Path) :
    (fs.map (File.path directory)).Nodup := by
  refine List.pairwise_map.2 ((List.pairwise_map.1 h.nodup).imp_of_mem ?_)
  intro f f' hf hf' hne heq
  rw [File.path_eq directory (h.below f hf), File.path_eq directory (h.below f' hf')] at heq
  exact hne (List.append_cancel_left (Path.mk.inj heq).2)

section

variable (hapart : Apart fs) (h : writeFiles directory disk fs = (.ok paths, after))

include hapart h

theorem file?_of_mem (hf : f ∈ fs) : ∃ text, f.text = .ok text ∧
    after.HoldsText (disk.placeOf directory ++ f.names) text := by
  have hplaces : (fs.map fun f => disk.placeOf (f.path directory)).Nodup := by
    refine List.pairwise_map.2 ((List.pairwise_map.1 hapart.nodup).imp_of_mem ?_)
    intro f f' hf hf' hne heq
    rw [placeOf_path (hapart.below f hf) (hapart.down f hf),
      placeOf_path (hapart.below f' hf') (hapart.down f' hf')] at heq
    exact hne (List.append_cancel_left heq)
  rw [← placeOf_path (hapart.below f hf) (hapart.down f hf)]
  exact file?_of_mem_writeFiles hplaces h hf

theorem file?_of_forall_ne {q : Place} (hq : ∀ f ∈ fs, disk.placeOf directory ++ f.names ≠ q) :
    after.file? q = disk.file? q := by
  refine (writeFiles_spec h).2.2.2 q fun f hf => ?_
  rw [placeOf_path (hapart.below f hf) (hapart.down f hf)]
  exact hq f hf

theorem exists_path_iff {q : Place} : (∃ p ∈ paths, after.locate p = .ok q) ↔
    ∃ f ∈ fs, disk.placeOf directory ++ f.names = q := by
  obtain ⟨rfl, -, hlocated, -⟩ := writeFiles_spec h
  have hplace : ∀ f ∈ fs, after.locate (f.path directory) =
      .ok (disk.placeOf directory ++ f.names) := fun f hf => by
    rw [hlocated f hf, placeOf_path (hapart.below f hf) (hapart.down f hf)]
  constructor
  · rintro ⟨p, hp, hq⟩
    obtain ⟨f, hf, rfl⟩ := List.mem_map.1 hp
    exact ⟨f, hf, Except.ok.inj ((hplace f hf).symm.trans hq)⟩
  · rintro ⟨f, hf, rfl⟩
    exact ⟨_, List.mem_map_of_mem hf, hplace f hf⟩

end

/-! ## Earlier writes -/

/-- A generation and how it is written. -/
structure Task where
  generation : Generation
  source : Option Json.Value
  options : Options

/-- A task has what has been generated for some document. -/
def Task.Generated (t : Task) : Prop :=
  ∃ document skip, Generation.ofDocument document skip = .ok t.generation

/-- Writes into a directory one after another, whether they fail or not. -/
def writeAll (directory : Path) (disk : Disk) (tasks : List Task) : Disk :=
  tasks.foldl (fun disk t => (write directory t.generation t.source t.options disk).2) disk

theorem writeAll_singleton (directory : Path) (disk : Disk) (t : Task) :
    writeAll directory disk [t] =
      (write directory t.generation t.source t.options disk).2 := rfl

/-- **The step**: a write keeps the disk whole, and the path shows what it has shown. -/
theorem Task.Generated.keeps {t : Task} (h : t.Generated) (directory : Path) (disk : Disk) :
    Disk.Keeps directory disk (write directory t.generation t.source t.options disk).2 := by
  obtain ⟨document, skip, hgen⟩ := h
  have hfiles (disk : Disk) := writeFiles_keeps directory
    (files t.generation t.source t.options.constants) disk fun f hf => below_of_mem_files hgen hf
  unfold write
  cases t.options.clean with
  | false => exact hfiles disk
  | true =>
    have hclear := Disk.clear_keeps disk directory
    dsimp only [if_true]
    split
    · exact hclear
    · exact hclear.trans (hfiles _)

/-- **The run** over the tasks. -/
theorem writeAll_keeps (directory : Path) : ∀ (tasks : List Task) (disk : Disk),
    (∀ t ∈ tasks, t.Generated) → Disk.Keeps directory disk (writeAll directory disk tasks)
  | [], disk, _ => .refl directory disk
  | t :: rest, disk, h => by
    obtain ⟨ht, hrest⟩ := List.forall_mem_cons.1 h
    exact (ht.keeps directory disk).trans (writeAll_keeps directory rest _ hrest)

/-! ## Writing anew -/

/-- What a write leaves that clears the directory first. -/
structure WrittenAnew (g : Generation) (source : Option Json.Value) (constants : Bool)
    (directory : Path) (before after : Disk) (paths : List Path) : Prop where
  /-- No path is written to twice. -/
  nodup : paths.Nodup
  /-- The path of the directory leads to the place that it names. -/
  located : after.locate directory = .ok (before.placeOf directory)
  /-- The files in the directory are those that the paths lead to. -/
  files : ∀ q, before.placeOf directory <+: q →
    ((after.file? q).isSome ↔ ∃ p ∈ paths, after.locate p = .ok q)
  /-- Files elsewhere are as before. -/
  outside : ∀ q, ¬ before.placeOf directory <+: q → after.file? q = before.file? q
  /-- The same comes of a write without clearing, if there are no files in the directory. -/
  returns : ∃ empty : Disk, (∀ q, empty.placeOf directory <+: q → empty.file? q = none) ∧
    write directory g source ⟨false, constants⟩ empty = (.ok paths, after)
  /-- In any directory without files, a write leaves the same files with the same bytes. -/
  contents : ∀ (fresh : Disk) (directory' : Path) (paths' : List Path) (after' : Disk),
    (∀ q, fresh.placeOf directory' <+: q → fresh.file? q = none) →
    write directory' g source ⟨false, constants⟩ fresh = (.ok paths', after') →
    ∀ rest, after.file? (before.placeOf directory ++ rest) =
      after'.file? (fresh.placeOf directory' ++ rest)

theorem write_unclean (directory : Path) (g : Generation) (source : Option Json.Value)
    (constants : Bool) (disk : Disk) : write directory g source ⟨false, constants⟩ disk =
      writeFiles directory disk (files g source constants) := rfl

theorem write_clean_eq_ok {g : Generation} {source : Option Json.Value} {constants : Bool}
    (h : write directory g source ⟨true, constants⟩ disk = (.ok paths, after)) :
    (disk.clear directory).1 = .ok () ∧
      writeFiles directory (disk.clear directory).2 (files g source constants) =
        (.ok paths, after) := by
  unfold write at h
  dsimp only [if_true] at h
  split at h
  · exact absurd (congrArg Prod.fst h) nofun
  · next hclear => exact ⟨hclear, h⟩

/-- The path of the directory leads somewhere when files have been written below. -/
theorem exists_locate_directory {g : Generation} {source : Option Json.Value} {constants : Bool}
    (hbelow : ∀ f ∈ files g source constants, f.Below)
    (h : writeFiles directory disk (files g source constants) = (.ok paths, after)) :
    ∃ l, after.locate directory = .ok l := by
  obtain ⟨f, hf⟩ : ∃ f, f ∈ files g source constants :=
    ⟨_, List.mem_append_right _ List.mem_cons_self⟩
  have hlocated := (writeFiles_spec h).2.2.1 f hf
  rw [File.path_eq directory (hbelow f hf)] at hlocated
  obtain ⟨l, hl, -⟩ := Disk.exists_locate_of_append (hbelow f hf).2 hlocated
  exact ⟨l, hl⟩

/-- Two writes into directories without files leave the same files there. -/
theorem file?_eq_of_fresh (hapart : Apart fs) {start fresh after after' : Disk}
    {directory directory' : Path} {paths paths' : List Path}
    (hstart : ∀ q, start.placeOf directory <+: q → start.file? q = none)
    (hfresh : ∀ q, fresh.placeOf directory' <+: q → fresh.file? q = none)
    (h : writeFiles directory start fs = (.ok paths, after))
    (h' : writeFiles directory' fresh fs = (.ok paths', after')) (rest : Place) :
    after.file? (start.placeOf directory ++ rest) =
      after'.file? (fresh.placeOf directory' ++ rest) := by
  by_cases hrest : ∃ f ∈ fs, f.names = rest
  · obtain ⟨f, hf, rfl⟩ := hrest
    obtain ⟨text, htext, hfile⟩ := file?_of_mem hapart h hf
    obtain ⟨text', htext', hfile'⟩ := file?_of_mem hapart h' hf
    obtain rfl := Except.ok.inj (htext.symm.trans htext')
    exact hfile.file?_eq hfile'
  · have hne : ∀ (out : Place), ∀ f ∈ fs, out ++ f.names ≠ out ++ rest :=
      fun out f hf heq => hrest ⟨f, hf, List.append_cancel_left heq⟩
    rw [file?_of_forall_ne hapart h (hne _), file?_of_forall_ne hapart h' (hne _),
      hstart _ (List.prefix_append _ _), hfresh _ (List.prefix_append _ _)]

section

variable {document skip : Json.Value} {g : Generation}
  (hgen : Generation.ofDocument document skip = .ok g)
  (hschemas : ∀ name ∈ Entries.keys g.schemaDeclarations, '/' ∉ name.toList)
  (hfolders : ∀ e ∈ g.endpoints, ".." ∉ UrlTree.segments e.folder)

include hgen hschemas hfolders

theorem apart_files (source : Option Json.Value) (constants : Bool) :
    Apart (files g source constants) :=
  ⟨fun _ hf => below_of_mem_files hgen hf,
    fun _ hf => points_not_mem_names hgen hschemas hfolders hf,
    nodup_names_files hgen hschemas source constants⟩

theorem writtenAnew_of_shows {before : Disk} {source : Option Json.Value} {constants : Bool}
    (hshows : before.Shows directory)
    (h : write directory g source ⟨true, constants⟩ before = (.ok paths, after)) :
    WrittenAnew g source constants directory before after paths := by
  obtain ⟨hclear, hfiles⟩ := write_clean_eq_ok h
  have hclears := hshows.clears hclear
  have hplace := hclears.placeOf directory
  have hapart := apart_files hgen hschemas hfolders source constants
  obtain ⟨hpaths, hgrows, -, -⟩ := writeFiles_spec hfiles
  have hempty : ∀ q, (before.clear directory).2.placeOf directory <+: q →
      (before.clear directory).2.file? q = none := by
    rw [hplace]
    exact hclears.below
  refine ⟨hpaths ▸ hapart.nodup_paths directory, ?_, fun q hq => ?_, fun q hq => ?_,
    ⟨_, hempty, hfiles⟩, fun fresh directory' paths' after' hfresh h' rest => ?_⟩
  · obtain ⟨next, hnext⟩ := exists_locate_directory hapart.below hfiles
    rw [← hplace, ← hgrows.placeOf, ← Disk.eq_placeOf_of_locate hnext]
    exact hnext
  · rw [exists_path_iff hapart hfiles, hplace]
    constructor
    · intro hsome
      by_contra hnone
      rw [file?_of_forall_ne hapart hfiles fun f hf heq => hnone ⟨f, hf, hplace ▸ heq⟩,
        hclears.below q hq] at hsome
      exact absurd hsome nofun
    · rintro ⟨f, hf, rfl⟩
      obtain ⟨text, -, hfile⟩ := file?_of_mem hapart hfiles hf
      rw [← hplace]
      exact hfile.isSome
  · have hne : ∀ f ∈ files g source constants,
        (before.clear directory).2.placeOf directory ++ f.names ≠ q := by
      rintro f - rfl
      exact hq (hplace ▸ List.prefix_append _ _)
    rw [file?_of_forall_ne hapart hfiles hne, hclears.outside q hq]
  · rw [← hplace]
    exact file?_eq_of_fresh hapart hempty hfresh hfiles h' rest

end

/-- **Clean writes do not depend on what has been written before.**  Whatever has been
    written into a directory, a write that clears it leaves its own files in it and
    nothing else.  A write that does not clear changes no other files than its own.  A path
    of the directory that leads back, with two points, is no key by which files are told
    apart; of such a path alone it is asked that it has hidden no files from the start. -/
theorem write_anew {tasks : List Task} (hwhole : disk.Whole)
    (htasks : ∀ t ∈ tasks, t.Generated) :
    ((".." ∈ directory.names → disk.Shows directory) →
      ∀ document skip g source constants paths after,
      Generation.ofDocument document skip = .ok g →
      (∀ name ∈ Entries.keys g.schemaDeclarations, '/' ∉ name.toList) →
      (∀ e ∈ g.endpoints, ".." ∉ UrlTree.segments e.folder) →
      write directory g source ⟨true, constants⟩ (writeAll directory disk tasks) =
        (.ok paths, after) →
      WrittenAnew g source constants directory (writeAll directory disk tasks) after paths) ∧
    ∀ g source constants paths after,
      write directory g source ⟨false, constants⟩ (writeAll directory disk tasks) =
        (.ok paths, after) →
      ∀ q, (∀ p ∈ paths, after.locate p ≠ .ok q) →
        after.file? q = (writeAll directory disk tasks).file? q := by
  have hkeeps := writeAll_keeps directory tasks disk htasks
  refine ⟨fun hshows document skip g source constants paths after hgen hschemas hfolders h => ?_,
    fun g source constants paths after h q hq => ?_⟩
  · refine writtenAnew_of_shows hgen hschemas hfolders ?_ h
    by_cases hback : ".." ∈ directory.names
    · exact hkeeps.shows (hshows hback)
    · have hbelow : ∀ f ∈ files g source constants, f.Below := fun _ => below_of_mem_files hgen
      obtain ⟨l, hl⟩ := exists_locate_directory hbelow (write_clean_eq_ok h).2
      exact (hkeeps.whole hwhole).shows (Disk.locate_eq_ok.1 hl).1 hback
  · rw [write_unclean] at h
    obtain ⟨rfl, hgrows, hlocated, hothers⟩ := writeFiles_spec h
    refine hothers q fun f hf heq => ?_
    exact hq _ (List.mem_map_of_mem hf) (heq ▸ hlocated f hf)

/-! ## A shop -/

/-- The file of common types. -/
def commonFile : File := ⟨"common/Http", .ok Template.commonFile⟩

/-- The code of the endpoint of an operation that says nothing about itself. -/
def bareCode (path : String) : String :=
  Comment.body "" (Endpoint.headingOf "" "get" path)

theorem code_bareEndpoint (path name : String) :
    (Generation.bareEndpoint path name).code = .ok (bareCode path) := rfl

theorem mark_not_mem_ofList {cs : List Char} (h : Text.mark ∉ cs) :
    Text.mark ∉ (String.ofList cs).toList := by rwa [String.toList_ofList]

theorem bytes?_commonFile : Text.bytes? Template.commonFile = some Template.commonFile.toUTF8 := by
  refine Text.bytes?_of_not_mem (Text.not_mem_join (by decide) ?_)
  simp only [List.forall_mem_cons, List.not_mem_nil, false_imp_iff, implies_true, and_true]
  and_intros <;> exact mark_not_mem_ofList (by decide +kernel)

/-- The index of modules whose names are characters other than the mark. -/
theorem bytes?_indexFile {schemas modules : List String}
    (hschemas : ∀ name ∈ schemas, Text.mark ∉ name.toList)
    (hmodules : ∀ path ∈ modules, Text.mark ∉ path.toList) :
    Text.bytes? (Template.indexFile schemas modules false) =
      some (Template.indexFile schemas modules false).toUTF8 := by
  have hheadings : Text.mark ∉
        "// Common types\nexport * from './common/Http';\n\n// Schema types\n".toList ∧
      Text.mark ∉ "\n// Endpoint types\n".toList := by
    and_intros <;> exact mark_not_mem_ofList (by decide +kernel)
  have hfixed : Text.mark ∉ "export type \x7b ".toList ∧
      Text.mark ∉ " \x7d from './schemas/".toList ∧ Text.mark ∉ "export * from './".toList ∧
      Text.mark ∉ "';\n".toList := by
    and_intros <;> exact mark_not_mem_ofList (by decide +kernel)
  refine Text.bytes?_of_not_mem ?_
  unfold Template.indexFile
  simp only [String.toList_append, String.toList_join, List.mem_append, List.mem_flatMap,
    List.mem_map, not_or, not_exists, not_and]
  refine ⟨⟨⟨⟨hheadings.1, ?_⟩, hheadings.2⟩, ?_⟩, List.not_mem_nil⟩
  · rintro - ⟨name, hname, rfl⟩
    simp only [String.toList_append, List.mem_append, not_or]
    exact ⟨⟨⟨⟨hfixed.1, hschemas name hname⟩, hfixed.2.1⟩, hschemas name hname⟩, hfixed.2.2.2⟩
  · rintro - ⟨path, hpath, rfl⟩
    simp only [String.toList_append, List.mem_append, not_or]
    exact ⟨⟨hfixed.2.2.1, hmodules path hpath⟩, hfixed.2.2.2⟩

/-- A declaration imports nothing if no other schema is declared. -/
theorem imports_eq_nil {place : String} {schemas : List String}
    (h : ∀ name ∈ schemas, schemaModule name = place) (names : NameSet) :
    imports place schemas names = .ok [] := by
  have hnone : names.toList.filter (fun name => name ∈ schemas ∧ schemaModule name ≠ place) = [] :=
    List.filter_eq_nil_iff.2 fun name _ hname =>
      absurd (h name (of_decide_eq_true hname).1) (of_decide_eq_true hname).2
  rw [imports, hnone]
  rfl

/-- A document with a schema and an operation that says nothing about itself. -/
def shop : Json.Value :=
  .obj [("components", .obj [("schemas", .obj [("User", userSchema)])]),
    ("paths", .obj [("/shop/items", .obj (Generation.bareOperation "/shop/items").pathItem)])]

/-- The files of the shop. -/
def shopFiles : List File :=
  [commonFile, ⟨"schemas/User", .ok (Template.typeFile [] "export type User = string;")⟩,
    ⟨"endpoints/shop/shop_items", .ok (Template.typeFile [] (bareCode "/shop/items"))⟩,
    ⟨"index", .ok (Template.indexFile ["User"] ["endpoints/shop/shop_items"] false)⟩]

theorem exists_generation_shop : ∃ g, Generation.ofDocument shop (.int 0) = .ok g ∧
    Entries.keys g.schemaDeclarations = ["User"] ∧
    g.endpoints = [Generation.bareEndpoint "/shop/items" "shop_items"] ∧
    files g none false = shopFiles := by
  let scope : Scope := ⟨shop, ⟨[]⟩⟩
  have hscope : Scope.ofDocument shop = .ok scope := by cbv
  have hoperations : operations shop = .ok [Generation.bareOperation "/shop/items"] := by cbv
  have hresolve : Endpoint.resolve [(Generation.bareOperation "/shop/items").proposal 0] =
      ["shop_items"] := by decide +kernel
  obtain ⟨referred, hreferred⟩ := exists_dependencies_eq_ok
    (exists_components_of_schemas rfl : ∀ kind, ∃ entries, components shop kind = .ok entries)
    userSchema
  have hdeclare : (scope.declare "User" userSchema).result =
      .ok (.keyword .string, "" ++ exportType "User" (.keyword .string)) :=
    Scope.declare_eq_ok_iff.2 ⟨userSchema, none, "", rfl, typeOf_userSchema _ _, rfl, rfl, rfl⟩
  obtain ⟨user, huser, hcode⟩ : ∃ user, declareSchema scope "User" userSchema = .ok user ∧
      user.code = "export type User = string;" :=
    ⟨_, declareSchema_eq_ok_iff.2 ⟨_, _, referred, hdeclare, hreferred, rfl⟩, rfl⟩
  have hdeclared : [("User", userSchema)].foldlM (fun done (e : String × Json.Value) =>
      Generation.addSchema scope done e.1 e.2) ([], []) = .ok ([("User", user)], []) := by
    simp only [List.foldlM_cons, List.foldlM_nil, Generation.addSchema, huser]
    rfl
  have hendpoints : endpointsOf scope (.int 0) =
      .ok [Generation.bareEndpoint "/shop/items" "shop_items"] := by
    refine Steps.bind_eq_ok.2 ⟨_, hoperations, Steps.bind_eq_ok.2 ⟨0, rfl, ?_⟩⟩
    rw [List.map_singleton, hresolve]
    exact Steps.mapM_eq_ok.2 (.cons rfl .nil)
  obtain ⟨g, hgen, hschemas, hg⟩ : ∃ g, Generation.ofDocument shop (.int 0) = .ok g ∧
      g.schemaDeclarations = [("User", user)] ∧
      g.endpoints = [Generation.bareEndpoint "/shop/items" "shop_items"] := by
    refine ⟨_, Steps.bind_eq_ok.2 ⟨scope, hscope, Steps.bind_eq_ok.2 ⟨_, rfl,
      Steps.bind_eq_ok.2 ⟨_, hdeclared, Steps.bind_eq_ok.2 ⟨_, hendpoints,
        Steps.bind_eq_ok.2 ⟨_, rfl, rfl⟩⟩⟩⟩⟩, ?_, rfl⟩
    rfl
  refine ⟨g, hgen, by rw [hschemas]; rfl, hg, ?_⟩
  have hnone : imports (schemaModule "User") ["User"] user.dependencies = .ok [] :=
    imports_eq_nil (List.forall_mem_singleton.2 rfl) user.dependencies
  have huserFile : declarationFile (schemaModule "User") ["User"] user =
      ⟨"schemas/User", .ok (Template.typeFile [] "export type User = string;")⟩ := by
    rw [declarationFile, hnone, hcode]
    rfl
  have hmodule : endpointModule "shop_items" (Naming.folder "/shop/items" 0) =
      "endpoints/shop/shop_items" := by decide +kernel
  have hfile : endpointFile g ["User"] (Generation.bareEndpoint "/shop/items" "shop_items") =
      ⟨"endpoints/shop/shop_items", .ok (Template.typeFile [] (bareCode "/shop/items"))⟩ := by
    obtain ⟨code, hbare, hfile⟩ := endpointFile_eq hgen (hg ▸ List.mem_singleton_self _) ["User"]
    obtain rfl := Except.ok.inj ((code_bareEndpoint _ _).symm.trans hbare)
    rw [hfile, ← hmodule]
    rfl
  simp only [files, hschemas, hg, Entries.keys, List.map_singleton, hfile, huserFile]
  rw [shopFiles, ← hmodule]
  rfl

/-- A disk with an old file in `out`, and another. -/
def staleDisk : Disk :=
  ⟨["home"], [(["home", "out"], .directory), (["home", "out", "stale.ts"], .file "old".toUTF8),
    (["home", "notes.txt"], .file "notes".toUTF8)]⟩

theorem whole_staleDisk : staleDisk.Whole := by
  intro e he
  simp only [staleDisk, List.mem_cons, List.not_mem_nil, or_false] at he
  obtain rfl | rfl | rfl := he <;> rfl

/-- What is in `out` when the files of the shop have been written. -/
def shopEntries : List (Place × Entry) :=
  [(["home", "out", "common"], .directory),
    (["home", "out", "common", "Http.ts"], .file Template.commonFile.toUTF8),
    (["home", "out", "schemas"], .directory),
    (["home", "out", "schemas", "User.ts"],
      .file (Template.typeFile [] "export type User = string;").toUTF8),
    (["home", "out", "endpoints"], .directory), (["home", "out", "endpoints", "shop"], .directory),
    (["home", "out", "endpoints", "shop", "shop_items.ts"],
      .file (Template.typeFile [] (bareCode "/shop/items")).toUTF8),
    (["home", "out", "index.ts"],
      .file (Template.indexFile ["User"] ["endpoints/shop/shop_items"] false).toUTF8)]

/-- The paths of the files of the shop. -/
def shopPaths : List Path :=
  [⟨"", ["out", "common", "Http.ts"]⟩, ⟨"", ["out", "schemas", "User.ts"]⟩,
    ⟨"", ["out", "endpoints", "shop", "shop_items.ts"]⟩, ⟨"", ["out", "index.ts"]⟩]

/-- The disk after a first write into `out`. -/
def usedDisk : Disk := ⟨["home"], staleDisk.entries ++ shopEntries⟩

/-- The disk without `out`. -/
def clearedDisk : Disk := ⟨["home"], [(["home", "notes.txt"], .file "notes".toUTF8)]⟩

/-- The disk after a second write, which clears `out`. -/
def renewedDisk : Disk :=
  ⟨["home"], clearedDisk.entries ++ (["home", "out"], .directory) :: shopEntries⟩

theorem writable_shop : Writable (Path.ofText "out") staleDisk shopFiles shopPaths usedDisk ∧
    Writable (Path.ofText "out") clearedDisk shopFiles shopPaths renewedDisk := by
  have huser : Text.bytes? (Template.typeFile [] "export type User = string;") =
      some (Template.typeFile [] "export type User = string;").toUTF8 :=
    Text.bytes?_of_not_mem (by decide +kernel)
  have hitems : Text.bytes? (Template.typeFile [] (bareCode "/shop/items")) =
      some (Template.typeFile [] (bareCode "/shop/items")).toUTF8 :=
    Text.bytes?_of_not_mem (by decide +kernel)
  have hindex := bytes?_indexFile (List.forall_mem_singleton.2 (by decide +kernel) :
      ∀ name ∈ ["User"], Text.mark ∉ name.toList)
    (List.forall_mem_singleton.2 (by decide +kernel) :
      ∀ path ∈ ["endpoints/shop/shop_items"], Text.mark ∉ path.toList)
  constructor <;>
    exact .cons (by decide +kernel) rfl bytes?_commonFile rfl
      (.cons (by decide +kernel) rfl huser rfl
        (.cons (by decide +kernel) rfl hitems rfl
          (.cons (by decide +kernel) rfl hindex rfl .nil)))

/-- A first write of the shop, and a second that clears `out`: the old file is gone, and the
    one outside is not. -/
theorem write_anew_stale : ∃ g before after,
    Generation.ofDocument shop (.int 0) = .ok g ∧
    writeAll (Path.ofText "out") staleDisk [⟨g, none, ⟨false, false⟩⟩] = before ∧
    write (Path.ofText "out") g none ⟨true, false⟩ before = (.ok shopPaths, after) ∧
    WrittenAnew g none false (Path.ofText "out") before after shopPaths ∧
    (before.file? ["home", "out", "stale.ts"]).isSome ∧
    after.file? ["home", "out", "stale.ts"] = none ∧
    after.file? ["home", "notes.txt"] = some "notes".toUTF8 := by
  obtain ⟨g, hgen, hkeys, hendpoints, hfiles⟩ := exists_generation_shop
  obtain ⟨hfirst, hsecond⟩ := writable_shop
  have hbefore : writeAll (Path.ofText "out") staleDisk [⟨g, none, ⟨false, false⟩⟩] =
      usedDisk := by
    rw [writeAll_singleton, write_unclean, hfiles, hfirst.writeFiles_eq]
  have hclear : usedDisk.clear (Path.ofText "out") = (.ok (), clearedDisk) := rfl
  have hwrite : write (Path.ofText "out") g none ⟨true, false⟩ usedDisk =
      (.ok shopPaths, renewedDisk) := by
    unfold write
    dsimp only [if_true]
    rw [hclear, hfiles]
    exact hsecond.writeFiles_eq
  have htasks : ∀ t ∈ [(⟨g, none, ⟨false, false⟩⟩ : Task)], t.Generated :=
    List.forall_mem_singleton.2 ⟨_, _, hgen⟩
  obtain ⟨hanew, -⟩ := @write_anew staleDisk (Path.ofText "out") _ whole_staleDisk htasks
  rw [hbefore] at hanew
  have hback : ".." ∉ (Path.ofText "out").names := by decide
  have hslash : ∀ name ∈ Entries.keys g.schemaDeclarations, '/' ∉ name.toList := by
    rw [hkeys]
    exact List.forall_mem_singleton.2 (by decide)
  have hfolders : ∀ e ∈ g.endpoints, ".." ∉ UrlTree.segments e.folder := by
    rw [hendpoints]
    exact List.forall_mem_singleton.2 (by decide +kernel)
  exact ⟨g, usedDisk, renewedDisk, hgen, hbefore, hwrite,
    hanew (absurd · hback) _ _ _ _ _ _ _ hgen hslash hfolders hwrite, rfl, rfl, rfl⟩

end ApiTypes.Output
