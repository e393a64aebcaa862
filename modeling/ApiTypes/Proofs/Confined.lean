/-
  Where the files of a generation end up.

  The module of a schema has the name of the schema in it, and that of an endpoint the
  segments of its path; both may lead up.

  * `ModulePath.endOf`: the place that a route leads to (`foldl_onward_eq_endOf`), and
    `ModulePath.Stays`: the routes that lead below where they start (`stays_iff`);
  * `Disk.Confined`: paths name places below that of the directory, each another one;
  * `nodup_otherPlaces`: the files that are not of schemas have places of their own;
  * `confined_iff`: when the files of a generation are confined; `confined_of_plain`: plain
    names of schemas and folders that do not lead up are enough;
  * `write_confined_iff`: the same of what a write returns.
-/
import ApiTypes.Proofs.Imports
import ApiTypes.Proofs.Written

namespace ApiTypes

/-! ## Routes -/

namespace ModulePath

variable {r : ModulePath} {base : Place} {name : String}

/-- The place that a route leads to: up from where it starts, and down through its names. -/
def endOf (r : ModulePath) (base : Place) : Place := base.take (base.length - r.up) ++ r.names

/-- **The step**: going on from where a route leads is going on with the route. -/
theorem onward_endOf (hroot : r.rooted = false) (hname : name ≠ "") (hpoint : name ≠ ".") :
    Disk.onward (r.endOf base) name = (r.step name).endOf base := by
  rw [Disk.onward, step, if_neg (not_or.2 ⟨hname, hpoint⟩)]
  by_cases hback : name = ".."
  · rw [if_pos hback, if_pos hback]
    by_cases hnames : r.names = []
    · rw [if_neg (not_not.2 hnames), hroot, if_neg Bool.false_ne_true]
      simp only [endOf, hnames, List.append_nil]
      rw [List.dropLast_eq_take, List.length_take, List.take_take]
      congr 1
      omega
    · rw [if_pos hnames, endOf, endOf, List.dropLast_append_of_ne_nil hnames]
  · rw [if_neg hback, if_neg hback, endOf, endOf, List.append_assoc]

theorem rooted_step (r : ModulePath) (name : String) : (r.step name).rooted = r.rooted := by
  unfold step
  repeat' split
  all_goals rfl

/-- **The run**: the names of a path lead where its route does. -/
theorem foldl_onward_eq_endOf : ∀ {segments : List String} {r : ModulePath}, r.rooted = false →
    (segments.filter fun name => name ≠ "" ∧ name ≠ ".").foldl Disk.onward (r.endOf base) =
      (segments.foldl step r).endOf base
  | [], _, _ => rfl
  | name :: rest, r, hroot => by
    have hstep : (r.step name).rooted = false := (rooted_step r name).trans hroot
    rw [List.foldl_cons, ← foldl_onward_eq_endOf hstep]
    by_cases hkept : name ≠ "" ∧ name ≠ "."
    · rw [List.filter_cons_of_pos (by simpa using hkept), List.foldl_cons,
        onward_endOf hroot hkept.1 hkept.2]
    · have hsame : r.step name = r := by
        rw [step, if_pos]
        by_contra hnot
        exact hkept (not_or.1 hnot)
      rw [List.filter_cons_of_neg (by simpa using hkept), hsame]

/-- A path without a root has an unrooted route. -/
theorem ofText_eq_foldl {text : String} (h : (Path.ofText text).root = "") :
    ofText text = (Text.split '/' text).foldl step ⟨false, 0, []⟩ := by
  have hhead : (text.toList.head? == some '/') = false := by
    rw [Path.ofText, Path.rootOf.eq_def] at h
    dsimp only at h
    split at h
    · exact absurd h (by decide)
    · exact absurd h (by decide)
    · exact absurd h (by decide)
    · next hnone =>
      cases htext : text.toList with
      | nil => rfl
      | cons c cs =>
        have hc : c ≠ '/' := by
          rintro rfl
          exact hnone cs htext
        simpa using hc
  rw [ofText, hhead]

/-- A route comes back through the names of the directories that it has left, and goes on. -/
def Stays (r : ModulePath) (base : Place) : Prop :=
  ∃ rest, rest ≠ [] ∧ r.names = base.drop (base.length - r.up) ++ rest

/-- **Routes that stay** are those that lead strictly below where they start. -/
theorem stays_iff : r.Stays base ↔ base <+: r.endOf base ∧ r.endOf base ≠ base := by
  have hbase := List.take_append_drop (base.length - r.up) base
  constructor
  · rintro ⟨rest, hrest, hnames⟩
    have hend : r.endOf base = base ++ rest := by
      rw [endOf, hnames, ← List.append_assoc, hbase]
    rw [hend]
    refine ⟨List.prefix_append base rest, fun heq => hrest ?_⟩
    exact List.append_right_eq_self.1 heq
  · rintro ⟨⟨rest, hend⟩, hne⟩
    refine ⟨rest, ?_, ?_⟩
    · rintro rfl
      exact hne (hend.symm.trans (List.append_nil base))
    · rw [endOf] at hend
      nth_rewrite 1 [← hbase] at hend
      rw [List.append_assoc] at hend
      exact (List.append_cancel_left hend).symm

end ModulePath

/-! ## Places of files -/

/-- Paths name places strictly below that of a directory, each another one. -/
structure Disk.Confined (disk : Disk) (directory : Path) (paths : List Path) : Prop where
  below : ∀ p ∈ paths, disk.placeOf directory <+: disk.placeOf p ∧
    disk.placeOf p ≠ disk.placeOf directory
  apart : (paths.map disk.placeOf).Nodup

namespace Output

variable {base : Place} {place : String}

/-- The place of the file of a module. -/
def placeIn (base : Place) (place : String) : Place :=
  (ModulePath.ofText (place ++ ".ts")).endOf base

theorem placeIn_eq (hroot : (Path.ofText (place ++ ".ts")).root = "") :
    placeIn base place = (Path.ofText (place ++ ".ts")).names.foldl Disk.onward base := by
  have hstart : ModulePath.endOf ⟨false, 0, []⟩ base = base := by
    rw [ModulePath.endOf, Nat.sub_zero, List.take_length, List.append_nil]
  have hrun := @ModulePath.foldl_onward_eq_endOf base (Text.split '/' (place ++ ".ts"))
    ⟨false, 0, []⟩ rfl
  rw [hstart] at hrun
  rw [placeIn, ModulePath.ofText_eq_foldl hroot, ← hrun]
  rfl

/-- Names that do not lead up lead down. -/
theorem placeIn_of_not_mem (hroot : (Path.ofText (place ++ ".ts")).root = "")
    (hback : ".." ∉ (Path.ofText (place ++ ".ts")).names) :
    placeIn base place = base ++ (Path.ofText (place ++ ".ts")).names := by
  rw [placeIn_eq hroot, Disk.foldl_onward hback]

theorem stays_of_not_mem (hroot : (Path.ofText (place ++ ".ts")).root = "")
    (hback : ".." ∉ (Path.ofText (place ++ ".ts")).names)
    (hnames : (Path.ofText (place ++ ".ts")).names ≠ []) :
    (ModulePath.ofText (place ++ ".ts")).Stays base := by
  have hplace := @placeIn_of_not_mem base place hroot hback
  rw [placeIn] at hplace
  rw [ModulePath.stays_iff, hplace]
  exact ⟨List.prefix_append base _, fun heq => hnames (List.append_right_eq_self.1 heq)⟩

theorem File.placeOf_path {f : File} (h : f.Below) (disk : Disk) (directory : Path) :
    disk.placeOf (f.path directory) = placeIn (disk.placeOf directory) f.place := by
  rw [placeIn_eq h.1, File.path_eq directory h, Disk.placeOf, List.foldl_append]
  rfl

/-- **Files** are confined if and only if the routes of their modules stay and lead to
    places of their own. -/
theorem confined_files_iff {fs : List File} (hbelow : ∀ f ∈ fs, f.Below) (disk : Disk)
    (directory : Path) : disk.Confined directory (fs.map (File.path directory)) ↔
      (∀ place ∈ fs.map File.place,
        (ModulePath.ofText (place ++ ".ts")).Stays (disk.placeOf directory)) ∧
      ((fs.map File.place).map (placeIn (disk.placeOf directory))).Nodup := by
  have hplaces : (fs.map (File.path directory)).map disk.placeOf =
      (fs.map File.place).map (placeIn (disk.placeOf directory)) := by
    rw [List.map_map, List.map_map]
    exact List.map_congr_left fun f hf => File.placeOf_path (hbelow f hf) disk directory
  have hstays : ∀ f ∈ fs, (ModulePath.ofText (f.place ++ ".ts")).Stays (disk.placeOf directory) ↔
      disk.placeOf directory <+: disk.placeOf (f.path directory) ∧
        disk.placeOf (f.path directory) ≠ disk.placeOf directory := by
    intro f hf
    rw [File.placeOf_path (hbelow f hf), ModulePath.stays_iff]
    rfl
  constructor
  · rintro ⟨hall, hnodup⟩
    refine ⟨?_, hplaces ▸ hnodup⟩
    rw [List.forall_mem_map]
    exact fun f hf => (hstays f hf).2 (hall _ (List.mem_map_of_mem hf))
  · rintro ⟨hall, hnodup⟩
    rw [List.forall_mem_map] at hall
    refine ⟨?_, hplaces ▸ hnodup⟩
    rw [List.forall_mem_map]
    exact fun f hf => (hstays f hf).1 (hall f hf)

/-! ## Endpoints -/

/-- The place of an endpoint's file: the file is named after the endpoint, and stands in
    `endpoints` if the endpoint has no folder. -/
theorem exists_placeIn_endpointModule {name folder : String} (hname : '/' ∉ name.toList)
    (hfolder : folder.toList.head? ≠ some '/') : ∃ front,
      placeIn base (endpointModule name folder) = front ++ [name ++ ".ts"] ∧
        (folder = "" → front = base ++ ["endpoints"]) := by
  rw [placeIn_eq (root_endpointModule hname hfolder), names_endpointModule hname hfolder,
    List.foldl_cons, List.foldl_append]
  refine ⟨(Path.ofText folder).names.foldl Disk.onward (Disk.onward base "endpoints"), ?_, ?_⟩
  · rw [List.foldl_cons, List.foldl_nil, Disk.onward, if_neg (Path.fileName_ne name).2.2]
  · rintro rfl
    rfl

variable {document skip : Json.Value} {g : Generation}

/-- The name of an endpoint in a folder has an underscore. -/
theorem underscore_mem_name (h : Generation.ofDocument document skip = .ok g) {e : Endpoint}
    (he : e ∈ g.endpoints) (hfolder : e.folder ≠ "") : '_' ∈ e.name.toList := by
  obtain ⟨-, -, operation, pairs, -, -, -, -, hname, hfolder'⟩ :=
    Generation.exists_operation_of_mem h he
  obtain ⟨c, cs, hpath, hmem⟩ := Naming.exists_name_eq operation.path pairs
  have hbase : '_' ∈ (Naming.name operation.path pairs).toList := by
    rw [hpath]
    exact List.mem_cons_of_mem c (hmem (hfolder' ▸ hfolder))
  rcases hname with heq | ⟨text, heq⟩
  · rwa [heq]
  · rw [heq, String.toList_append, String.toList_append]
    exact List.mem_append_left _ (List.mem_append_left _ hbase)

/-- The modules with fixed names. -/
def fixedPlaces (constants : Bool) : List String :=
  ["common/Http", "index"] ++ if constants then ["api"] else []

/-- The modules that are not of schemas. -/
def otherPlaces (g : Generation) (constants : Bool) : List String :=
  fixedPlaces constants ++ g.endpoints.map fun e => endpointModule e.name e.folder

theorem eq_of_mem_fixedPlaces {constants : Bool} (h : place ∈ fixedPlaces constants) :
    place = "common/Http" ∨ place = "index" ∨ place = "api" := by
  cases constants with
  | false =>
    have hplace : place = "common/Http" ∨ place = "index" := by simpa [fixedPlaces] using h
    exact hplace.imp_right Or.inl
  | true => simpa [fixedPlaces, or_assoc] using h

/-- Modules with fixed names have routes that stay. -/
theorem stays_of_mem_fixedPlaces {constants : Bool} (h : place ∈ fixedPlaces constants) :
    (ModulePath.ofText (place ++ ".ts")).Stays base := by
  rcases eq_of_mem_fixedPlaces h with rfl | rfl | rfl
  · exact stays_of_not_mem (by decide) (by decide) (by decide)
  · exact stays_of_not_mem (by decide) (by decide) (by decide)
  · exact stays_of_not_mem (by decide) (by decide) (by decide)

/-- The place of an endpoint's file is not that of a file with a fixed name. -/
theorem placeIn_endpointModule_ne (h : Generation.ofDocument document skip = .ok g) {e : Endpoint}
    (he : e ∈ g.endpoints) {front : Place} {name : String} (hname : '_' ∉ name.toList)
    (hfront : front ≠ base ++ ["endpoints"]) :
    placeIn base (endpointModule e.name e.folder) ≠ front ++ [name ++ ".ts"] := by
  obtain ⟨front', hplace, hnone⟩ := @exists_placeIn_endpointModule base _ _
    (Generation.slash_not_mem_of_mem_endpoints h he) (Generation.head?_folder_of_mem_endpoints h he)
  intro heq
  obtain ⟨hsame, hlast⟩ := List.append_inj' (hplace.symm.trans heq) rfl
  by_cases hfolder : e.folder = ""
  · exact hfront (hsame.symm.trans (hnone hfolder))
  · have hnames : e.name = name := (String.append_left_inj ".ts").1 (List.singleton_inj.1 hlast)
    exact hname (hnames ▸ underscore_mem_name h he hfolder)

theorem nodup_endpointPlaces (h : Generation.ofDocument document skip = .ok g) (base : Place) :
    (g.endpoints.map fun e => placeIn base (endpointModule e.name e.folder)).Nodup := by
  refine List.pairwise_map.2 ((List.pairwise_map.1 (Generation.nodup_names h)).imp_of_mem ?_)
  intro e e' he he' hne heq
  obtain ⟨front, hplace, -⟩ := @exists_placeIn_endpointModule base _ _
    (Generation.slash_not_mem_of_mem_endpoints h he) (Generation.head?_folder_of_mem_endpoints h he)
  obtain ⟨front', hplace', -⟩ := @exists_placeIn_endpointModule base _ _
    (Generation.slash_not_mem_of_mem_endpoints h he')
    (Generation.head?_folder_of_mem_endpoints h he')
  rw [hplace, hplace'] at heq
  have hlast := List.singleton_inj.1 (List.append_inj' heq rfl).2
  exact hne ((String.append_left_inj ".ts").1 hlast)

/-- **Files that are not of schemas** have places of their own. -/
theorem nodup_otherPlaces (h : Generation.ofDocument document skip = .ok g) (constants : Bool)
    (base : Place) : ((otherPlaces g constants).map (placeIn base)).Nodup := by
  have hcommon : placeIn base "common/Http" = base ++ ["common"] ++ ["Http" ++ ".ts"] := by
    rw [List.append_assoc]
    exact placeIn_of_not_mem (by decide) (by decide)
  have hindex : placeIn base "index" = base ++ ["index" ++ ".ts"] :=
    placeIn_of_not_mem (by decide) (by decide)
  have hapi : placeIn base "api" = base ++ ["api" ++ ".ts"] :=
    placeIn_of_not_mem (by decide) (by decide)
  have hne (name : String) : base ++ [name] ≠ base := by simp
  have hfixed : ((fixedPlaces constants).map (placeIn base)).Nodup := by
    cases constants <;> simp [fixedPlaces, hcommon, hindex, hapi]
  have hother : ∀ e ∈ g.endpoints, ∀ place ∈ fixedPlaces constants,
      placeIn base (endpointModule e.name e.folder) ≠ placeIn base place := by
    intro e he place hplace
    rcases eq_of_mem_fixedPlaces hplace with rfl | rfl | rfl
    · rw [hcommon]
      exact placeIn_endpointModule_ne h he (by decide) (by simp)
    · rw [hindex]
      exact placeIn_endpointModule_ne h he (by decide) (by simp)
    · rw [hapi]
      exact placeIn_endpointModule_ne h he (by decide) (by simp)
  rw [otherPlaces, List.map_append, List.map_map, List.nodup_append]
  refine ⟨hfixed, nodup_endpointPlaces h base, ?_⟩
  intro q hq q' hq' heq
  obtain ⟨place, hplace, rfl⟩ := List.mem_map.1 hq
  obtain ⟨e, he, rfl⟩ := List.mem_map.1 hq'
  exact hother e he place hplace heq.symm

/-! ## All files -/

/-- The modules of a generation: those of schemas, and the others. -/
theorem places_perm (g : Generation) (source : Option Json.Value) (constants : Bool) :
    ((files g source constants).map File.place).Perm
      ((Entries.keys g.schemaDeclarations).map schemaModule ++ otherPlaces g constants) := by
  rw [map_place_files, otherPlaces, fixedPlaces, List.perm_iff_count]
  intro place
  simp only [List.count_append, List.count_cons, List.count_nil]
  omega

/-- **The files of a generation** are confined if and only if the modules of schemas and of
    endpoints have routes that stay, and no schema has the file of another or of something
    else.  The files that are not of schemas never share one. -/
theorem confined_iff (h : Generation.ofDocument document skip = .ok g)
    (source : Option Json.Value) (constants : Bool) (disk : Disk) (directory : Path) :
    disk.Confined directory ((files g source constants).map (File.path directory)) ↔
      let base := disk.placeOf directory
      let names := Entries.keys g.schemaDeclarations
      (∀ name ∈ names, (ModulePath.ofText (schemaModule name ++ ".ts")).Stays base) ∧
      (∀ e ∈ g.endpoints,
        (ModulePath.ofText (endpointModule e.name e.folder ++ ".ts")).Stays base) ∧
      (names.map fun name => placeIn base (schemaModule name)).Nodup ∧
      ∀ name ∈ names, ∀ place ∈ otherPlaces g constants,
        placeIn base (schemaModule name) ≠ placeIn base place := by
  have hperm := places_perm g source constants
  rw [confined_files_iff fun f hf => below_of_mem_files h hf, (hperm.map _).nodup_iff,
    List.map_append, List.nodup_append, List.map_map]
  constructor
  · rintro ⟨hstays, hschemas, -, hapart⟩
    have hplaces := fun place hplace => hstays place (hperm.mem_iff.2 hplace)
    refine ⟨fun name hname => ?_, fun e he => ?_, hschemas, fun name hname place hplace => ?_⟩
    · exact hplaces _ (List.mem_append_left _ (List.mem_map_of_mem hname))
    · refine hplaces _ (List.mem_append_right _ (List.mem_append_right _ ?_))
      exact List.mem_map.2 ⟨e, he, rfl⟩
    · exact hapart _ (List.mem_map.2 ⟨name, hname, rfl⟩) _ (List.mem_map_of_mem hplace)
  · rintro ⟨hschemas, hendpoints, hnodup, hapart⟩
    refine ⟨fun place hplace => ?_, hnodup, nodup_otherPlaces h _ _, fun q hq q' hq' => ?_⟩
    · rcases List.mem_append.1 (hperm.mem_iff.1 hplace) with hplace | hplace
      · obtain ⟨name, hname, rfl⟩ := List.mem_map.1 hplace
        exact hschemas name hname
      · rcases List.mem_append.1 hplace with hplace | hplace
        · exact stays_of_mem_fixedPlaces hplace
        · obtain ⟨e, he, rfl⟩ := List.mem_map.1 hplace
          exact hendpoints e he
    · obtain ⟨name, hname, rfl⟩ := List.mem_map.1 hq
      obtain ⟨place, hplace, rfl⟩ := List.mem_map.1 hq'
      exact hapart name hname place hplace

/-! ## Plain names -/

/-- No segment of a name but the last is empty or made of points. -/
def PlainName (name : String) : Prop :=
  ∀ segment ∈ (Text.split '/' name).dropLast, segment ≠ "" ∧ segment ≠ "." ∧ segment ≠ ".."

/-- The names in the path of the file of a schema with a plain name. -/
theorem PlainName.exists_names_eq {name : String} (h : PlainName name) :
    ∃ front last, Text.split '/' name = front ++ [last] ∧ ".." ∉ front ∧
      (Path.ofText (schemaModule name ++ ".ts")).names =
        "schemas" :: (front ++ [last ++ ".ts"]) := by
  obtain ⟨front, last, _, _, hsplit, hending, hfile⟩ := Text.exists_split_append '/' name ".ts"
  obtain ⟨rfl, rfl⟩ := List.cons.inj ((Text.split_eq_singleton (by decide)).symm.trans hending)
  have hfront : ∀ segment ∈ front, segment ≠ "" ∧ segment ≠ "." ∧ segment ≠ ".." := by
    intro segment hsegment
    refine h segment ?_
    rwa [hsplit, List.dropLast_concat]
  refine ⟨front, last, hsplit, fun hmem => (hfront _ hmem).2.2 rfl, ?_⟩
  have hkept : ∀ segment ∈ front ++ [last ++ ".ts"], segment ≠ "" ∧ segment ≠ "." := by
    intro segment hsegment
    rcases List.mem_append.1 hsegment with hsegment | hsegment
    · exact ⟨(hfront segment hsegment).1, (hfront segment hsegment).2.1⟩
    · rw [List.mem_singleton.1 hsegment]
      exact ⟨(Path.fileName_ne last).1, (Path.fileName_ne last).2.1⟩
  rw [names_schemaModule, Path.ofText, hfile]
  refine congrArg _ (List.filter_eq_self.2 fun segment hsegment => ?_)
  exact decide_eq_true (hkept segment hsegment)

/-- The place of the file of a schema with a plain name. -/
theorem PlainName.exists_placeIn_eq {name : String} (h : PlainName name) (base : Place) :
    ∃ front last, Text.split '/' name = front ++ [last] ∧
      (ModulePath.ofText (schemaModule name ++ ".ts")).Stays base ∧
      placeIn base (schemaModule name) = base ++ "schemas" :: (front ++ [last ++ ".ts"]) := by
  obtain ⟨front, last, hsplit, hfront, hnames⟩ := h.exists_names_eq
  have hroot : (Path.ofText (schemaModule name ++ ".ts")).root = "" :=
    Path.root_ofText (by simp [schemaModule])
  have hback : ".." ∉ (Path.ofText (schemaModule name ++ ".ts")).names := by
    have hfile := (Path.fileName_ne last).2.2.symm
    rw [hnames]
    simp [hfront, hfile]
  refine ⟨front, last, hsplit, stays_of_not_mem hroot hback ?_, ?_⟩
  · rw [hnames]
    exact List.cons_ne_nil _ _
  · rw [placeIn_of_not_mem hroot hback, hnames]

theorem PlainName.eq_of_placeIn_eq {name name' : String} (h : PlainName name) (h' : PlainName name')
    (heq : placeIn base (schemaModule name) = placeIn base (schemaModule name')) :
    name = name' := by
  obtain ⟨front, last, hsplit, -, hplace⟩ := h.exists_placeIn_eq base
  obtain ⟨front', last', hsplit', -, hplace'⟩ := h'.exists_placeIn_eq base
  rw [hplace, hplace'] at heq
  obtain ⟨rfl, hlast⟩ := List.append_inj' (List.cons.inj (List.append_cancel_left heq)).2 rfl
  obtain rfl : last = last' := (String.append_left_inj ".ts").1 (List.singleton_inj.1 hlast)
  have hsame := congrArg (Text.join (String.singleton '/')) (hsplit.trans hsplit'.symm)
  rwa [Text.join_split, Text.join_split] at hsame

/-- The place of the file of an endpoint whose folder does not lead up. -/
theorem exists_placeIn_endpoint_eq (h : Generation.ofDocument document skip = .ok g) {e : Endpoint}
    (he : e ∈ g.endpoints) (hfolder : ".." ∉ UrlTree.segments e.folder) (base : Place) :
    (ModulePath.ofText (endpointModule e.name e.folder ++ ".ts")).Stays base ∧
      ∃ rest, placeIn base (endpointModule e.name e.folder) = base ++ "endpoints" :: rest := by
  have hslash := Generation.slash_not_mem_of_mem_endpoints h he
  have hhead := Generation.head?_folder_of_mem_endpoints h he
  have hnames := names_endpointModule hslash hhead
  have hroot := root_endpointModule hslash hhead
  have hback : ".." ∉ (Path.ofText (endpointModule e.name e.folder ++ ".ts")).names := by
    have hnone : ".." ∉ (Path.ofText e.folder).names :=
      fun hmem => hfolder (Path.mem_segments_of_mem_names hmem)
    have hfile := (Path.fileName_ne e.name).2.2.symm
    rw [hnames]
    simp [hnone, hfile]
  refine ⟨stays_of_not_mem hroot hback ?_, (Path.ofText e.folder).names ++ [e.name ++ ".ts"], ?_⟩
  · rw [hnames]
    exact List.cons_ne_nil _ _
  · rw [placeIn_of_not_mem hroot hback, hnames]

theorem exists_placeIn_fixed_eq {constants : Bool} (h : place ∈ fixedPlaces constants)
    (base : Place) : ∃ first rest, first ≠ "schemas" ∧
      placeIn base place = base ++ first :: rest := by
  rcases eq_of_mem_fixedPlaces h with rfl | rfl | rfl
  · exact ⟨"common", ["Http.ts"], by decide, placeIn_of_not_mem (by decide) (by decide)⟩
  · exact ⟨"index.ts", [], by decide, placeIn_of_not_mem (by decide) (by decide)⟩
  · exact ⟨"api.ts", [], by decide, placeIn_of_not_mem (by decide) (by decide)⟩

/-- **Plain names are enough**: what is written is confined if no schema has another one and
    no folder leads up. -/
theorem confined_of_plain (h : Generation.ofDocument document skip = .ok g)
    (hschemas : ∀ name ∈ Entries.keys g.schemaDeclarations, PlainName name)
    (hfolders : ∀ e ∈ g.endpoints, ".." ∉ UrlTree.segments e.folder)
    (source : Option Json.Value) (constants : Bool) (disk : Disk) (directory : Path) :
    disk.Confined directory ((files g source constants).map (File.path directory)) := by
  have hendpoint := fun e he =>
    exists_placeIn_endpoint_eq h he (hfolders e he) (disk.placeOf directory)
  rw [confined_iff h]
  refine ⟨fun name hname => ?_, fun e he => (hendpoint e he).1, ?_,
    fun name hname place hplace => ?_⟩
  · obtain ⟨-, -, -, hstays, -⟩ := (hschemas name hname).exists_placeIn_eq (disk.placeOf directory)
    exact hstays
  · refine List.Nodup.map_on ?_ (Generation.nodup_keys_schemaDeclarations h)
    exact fun name hname name' hname' heq =>
      (hschemas name hname).eq_of_placeIn_eq (hschemas name' hname') heq
  · -- the first names behind the directory's tell the kinds of files apart
    obtain ⟨front, last, -, -, hschema⟩ :=
      (hschemas name hname).exists_placeIn_eq (disk.placeOf directory)
    rw [hschema]
    intro heq
    rcases List.mem_append.1 hplace with hplace | hplace
    · obtain ⟨first, rest, hne, hfixed⟩ := exists_placeIn_fixed_eq hplace (disk.placeOf directory)
      rw [hfixed] at heq
      exact hne (List.cons.inj (List.append_cancel_left heq)).1.symm
    · obtain ⟨e, he, rfl⟩ := List.mem_map.1 hplace
      obtain ⟨-, rest, hrest⟩ := hendpoint e he
      rw [hrest] at heq
      exact absurd (List.cons.inj (List.append_cancel_left heq)).1 (by decide)

/-! ## Writing -/

section

variable {g : Generation} {source : Option Json.Value} {options : Options} {directory : Path}
  {disk after : Disk} {paths : List Path}
  (h : write directory g source options disk = (.ok paths, after))

include h

/-- The files are written to a disk on which every path names the same place, whether the
    directory is cleared or not. -/
theorem exists_writeFiles_of_write : ∃ start : Disk, start.placeOf = disk.placeOf ∧
    writeFiles directory start (files g source options.constants) = (.ok paths, after) := by
  have hplaces {start : Disk} (hhome : start.home = disk.home) : start.placeOf = disk.placeOf := by
    funext p
    rw [Disk.placeOf, Disk.placeOf, Disk.origin, Disk.origin, hhome]
  obtain ⟨clean, constants⟩ := options
  cases clean with
  | false => exact ⟨disk, rfl, h⟩
  | true =>
    refine ⟨(disk.clear directory).2, hplaces ?_, (write_clean_eq_ok h).2⟩
    obtain ⟨hsame, -⟩ | hclears := Disk.clear_spec disk directory
    · rw [hsame]
    · exact hclears.home

/-- What is written, whether the directory is cleared or not. -/
theorem write_spec : paths = (files g source options.constants).map (File.path directory) ∧
    ∀ p ∈ paths, after.locate p = .ok (disk.placeOf p) := by
  obtain ⟨start, hplaces, hwrite⟩ := exists_writeFiles_of_write h
  obtain ⟨rfl, -, hlocated, -⟩ := writeFiles_spec hwrite
  refine ⟨rfl, ?_⟩
  rw [List.forall_mem_map]
  intro f hf
  rw [hlocated f hf, hplaces]

end

/-- **Writing is confined** if and only if the modules of schemas and of endpoints have routes
    that stay, and no schema has the file of another or of something else; which is so if
    the schemas have plain names and no folder leads up.  What is returned is where the
    files are. -/
theorem write_confined_iff (hgen : Generation.ofDocument document skip = .ok g)
    {source : Option Json.Value} {options : Options} {directory : Path} {disk after : Disk}
    {paths : List Path} (h : write directory g source options disk = (.ok paths, after)) :
    let base := disk.placeOf directory
    let names := Entries.keys g.schemaDeclarations
    (∀ p ∈ paths, after.locate p = .ok (disk.placeOf p)) ∧
    (disk.Confined directory paths ↔
      (∀ name ∈ names, (ModulePath.ofText (schemaModule name ++ ".ts")).Stays base) ∧
      (∀ e ∈ g.endpoints,
        (ModulePath.ofText (endpointModule e.name e.folder ++ ".ts")).Stays base) ∧
      (names.map fun name => placeIn base (schemaModule name)).Nodup ∧
      ∀ name ∈ names, ∀ place ∈ otherPlaces g options.constants,
        placeIn base (schemaModule name) ≠ placeIn base place) ∧
    ((∀ name ∈ names, PlainName name) → (∀ e ∈ g.endpoints, ".." ∉ UrlTree.segments e.folder) →
      disk.Confined directory paths) := by
  obtain ⟨rfl, hlocated⟩ := write_spec h
  exact ⟨hlocated, confined_iff hgen source options.constants disk directory,
    fun hschemas hfolders =>
      confined_of_plain hgen hschemas hfolders source options.constants disk directory⟩

/-! ## Two runs -/

/-- The files of a generation for one path without any schema. -/
def bareFiles (path name : String) : List File :=
  let place := endpointModule name (Naming.folder path 0)
  [commonFile, ⟨place, .ok (Template.typeFile [] (bareCode path))⟩,
    ⟨"index", .ok (Template.indexFile [] [place] false)⟩]

/-- The files of one endpoint that depends on nothing, without any schema. -/
theorem files_eq_of_singleton (h : Generation.ofDocument document skip = .ok g) {e : Endpoint}
    (hendpoints : g.endpoints = [e]) (hschemas : g.schemaDeclarations = []) {code : String}
    (hcode : e.code = .ok code) :
    files g none false = [commonFile,
      ⟨endpointModule e.name e.folder, .ok (Template.typeFile [] code)⟩,
      ⟨"index", .ok (Template.indexFile [] [endpointModule e.name e.folder] false)⟩] := by
  have hnone (place : String) (names : NameSet) : imports place [] names = .ok [] :=
    imports_eq_nil (fun _ hname => absurd hname List.not_mem_nil) names
  obtain ⟨code', hcode', hfile⟩ :=
    endpointFile_eq h (hendpoints ▸ List.mem_singleton_self _) []
  obtain rfl := Except.ok.inj (hcode.symm.trans hcode')
  rw [declarationFile, hnone] at hfile
  simp only [files, hschemas, hendpoints, Entries.keys, List.map_nil, List.map_singleton, hfile]
  rfl

theorem exists_generation_files_bare {path name : String} (hname : Endpoint.resolve
    ([path].map fun path => (Generation.bareOperation path).proposal 0) = [name]) :
    ∃ g, Generation.ofDocument (Generation.bareDocument [path]) (.int 0) = .ok g ∧
      g.endpoints = [Generation.bareEndpoint path name] ∧ g.schemaDeclarations = [] ∧
      files g none false = bareFiles path name := by
  obtain ⟨g, hgen, hendpoints, hschemas⟩ := Generation.exists_generation_bare [path]
  rw [hname] at hendpoints
  have hsingle : g.endpoints = [Generation.bareEndpoint path name] := hendpoints
  refine ⟨g, hgen, hsingle, hschemas, ?_⟩
  rw [files_eq_of_singleton hgen hsingle hschemas (code_bareEndpoint path name)]
  rfl

/-- A disk with nothing but the working directory. -/
def emptyDisk : Disk := ⟨["home"], []⟩

/-- The paths of three files in `out`. -/
def pathsInOut (names : List String) : List Path :=
  [⟨"", ["out", "common", "Http.ts"]⟩, ⟨"", "out" :: names⟩, ⟨"", ["out", "index.ts"]⟩]

/-- The file of the endpoint stands in the directory. -/
theorem write_confined_iff_plain : ∃ g after,
    Generation.ofDocument (Generation.bareDocument ["/a"]) (.int 0) = .ok g ∧
    write (Path.ofText "out") g none ⟨false, false⟩ emptyDisk =
      (.ok (pathsInOut ["endpoints", "a.ts"]), after) ∧
    emptyDisk.Confined (Path.ofText "out") (pathsInOut ["endpoints", "a.ts"]) := by
  obtain ⟨g, hgen, hendpoints, hschemas, hfiles⟩ :=
    @exists_generation_files_bare "/a" "a" (by decide +kernel)
  have hindex : ∀ path ∈ [endpointModule "a" (Naming.folder "/a" 0)],
      Text.mark ∉ path.toList := List.forall_mem_singleton.2 (by decide +kernel)
  obtain ⟨after, hwritable⟩ : ∃ after, Writable (Path.ofText "out") emptyDisk
      (bareFiles "/a" "a") (pathsInOut ["endpoints", "a.ts"]) after :=
    ⟨_, .cons (by decide +kernel) rfl bytes?_commonFile rfl
      (.cons (by decide +kernel) rfl (Text.bytes?_of_not_mem (by decide +kernel)) rfl
        (.cons (by decide +kernel) rfl (bytes?_indexFile nofun hindex) rfl .nil))⟩
  have hwrite : write (Path.ofText "out") g none ⟨false, false⟩ emptyDisk =
      (.ok (pathsInOut ["endpoints", "a.ts"]), after) := by
    rw [write_unclean, hfiles, hwritable.writeFiles_eq]
  obtain ⟨-, -, hplain⟩ := write_confined_iff hgen hwrite
  refine ⟨g, after, hgen, hwrite, hplain ?_ ?_⟩
  · rw [hschemas]
    exact nofun
  · rw [hendpoints]
    exact List.forall_mem_singleton.2 (by decide +kernel)

/-- The file of an endpoint whose folder leads up is written outside of the directory. -/
theorem not_confined_back : ∃ g after,
    Generation.ofDocument (Generation.bareDocument ["/../../x"]) (.int 0) = .ok g ∧
    write (Path.ofText "out") g none ⟨false, false⟩ emptyDisk =
      (.ok (pathsInOut ["endpoints", "..", "..", ".._.._x.ts"]), after) ∧
    (after.file? ["home", ".._.._x.ts"]).isSome ∧
    ¬ emptyDisk.Confined (Path.ofText "out")
      (pathsInOut ["endpoints", "..", "..", ".._.._x.ts"]) := by
  obtain ⟨g, hgen, -, -, hfiles⟩ :=
    @exists_generation_files_bare "/../../x" ".._.._x" (by decide +kernel)
  let fs := bareFiles "/../../x" ".._.._x"
  have hindex : ∀ path ∈ [endpointModule ".._.._x" (Naming.folder "/../../x" 0)],
      Text.mark ∉ path.toList := List.forall_mem_singleton.2 (by decide +kernel)
  obtain ⟨after, hwritable⟩ : ∃ after, Writable (Path.ofText "out") emptyDisk fs
      (pathsInOut ["endpoints", "..", "..", ".._.._x.ts"]) after :=
    ⟨_, .cons (by decide +kernel) rfl bytes?_commonFile rfl
      (.cons (by decide +kernel) rfl (Text.bytes?_of_not_mem (by decide +kernel)) rfl
        (.cons (by decide +kernel) rfl (bytes?_indexFile nofun hindex) rfl .nil))⟩
  have hafter := hwritable.writeFiles_eq
  have hmem : (⟨"", ["out", "endpoints", "..", "..", ".._.._x.ts"]⟩ : Path) ∈
      fs.map (File.path (Path.ofText "out")) := by decide +kernel
  have hplace : emptyDisk.placeOf ⟨"", ["out", "endpoints", "..", "..", ".._.._x.ts"]⟩ =
      ["home", ".._.._x.ts"] := by decide +kernel
  refine ⟨g, after, hgen, by rw [write_unclean, hfiles, hafter], ?_, fun hconfined => ?_⟩
  · obtain ⟨f, hf, hpath⟩ := List.mem_map.1 hmem
    have hnodup : (fs.map fun f => emptyDisk.placeOf (f.path (Path.ofText "out"))).Nodup := by
      decide +kernel
    obtain ⟨text, -, hfile⟩ := file?_of_mem_writeFiles hnodup hafter hf
    rw [hpath, hplace] at hfile
    exact hfile.isSome
  · have hbelow := (hconfined.below _ (List.mem_cons_of_mem _ List.mem_cons_self)).1
    rw [hplace] at hbelow
    exact absurd hbelow (by decide +kernel)

end Output

end ApiTypes
