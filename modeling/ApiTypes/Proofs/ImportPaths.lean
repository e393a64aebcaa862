/-
  Import paths lead back to the modules that they are made for.

  A path between modules goes up to where the two part, and down again.

  * `ModulePath.follow`: where the segments of a path lead from a directory, nowhere if they
    leave the output;
  * `take_common`: up to where they part, two paths go through the same names;
  * `follow_between`: so the way between them leads to the other one;
  * `ofText_of_plain`, `ofText_directory`: where a module without points for names stands, and its
    directory, by their segments;
  * `importText_spec`: the text of a way has its segments, with a point in front if it goes down;
  * `follow_relative`: hence the path that a module imports another by leads to that one.
-/
import ApiTypes.ModulePath
import Mathlib.Data.List.TakeWhile

namespace ApiTypes.ModulePath

variable {source target path name : String} {place names ds ts : List String} {k : Nat}

/-! ## Following a path -/

/-- Goes on from a directory by one segment; there is no way up from the output. -/
def enter (place : List String) (segment : String) : Option (List String) :=
  if segment = "." then some place
  else if segment = ".." then
    if place = [] then none else some place.dropLast
  else some (place ++ [segment])

/-- Where segments lead from a directory, one after another. -/
def follow (place segments : List String) : Option (List String) := segments.foldlM enter place

theorem follow_append (place segments more : List String) :
    follow place (segments ++ more) = (follow place segments).bind (follow · more) :=
  List.foldlM_append

theorem follow_point (place segments : List String) :
    follow place ("." :: segments) = follow place segments := by
  rw [follow, List.foldlM_cons, enter, if_pos rfl]
  rfl

/-- Steps up take away as many names, if there are that many. -/
theorem follow_up (hk : k ≤ place.length) :
    follow place (List.replicate k "..") = some (place.take (place.length - k)) := by
  induction k generalizing place with
  | zero =>
    rw [Nat.sub_zero, List.take_length]
    rfl
  | succ k ih =>
    have hne : place ≠ [] := List.ne_nil_of_length_pos (by omega)
    have hstep : enter place ".." = some place.dropLast := by
      rw [enter, if_neg (by decide), if_pos rfl, if_neg hne]
    have hup : k ≤ place.dropLast.length := by
      rw [List.length_dropLast]
      omega
    have hrest := ih hup
    rw [follow] at hrest
    rw [follow, List.replicate_succ, List.foldlM_cons, hstep, Option.bind_eq_bind,
      Option.bind_some, hrest, List.length_dropLast, List.dropLast_eq_take, List.take_take]
    congr 2
    omega

/-- Names lead down. -/
theorem follow_down (h : ∀ name ∈ names, name ≠ "." ∧ name ≠ "..") :
    follow place names = some (place ++ names) := by
  induction names generalizing place with
  | nil => exact congrArg some (List.append_nil place).symm
  | cons name rest ih =>
    obtain ⟨⟨hpoint, hback⟩, hrest⟩ := List.forall_mem_cons.1 h
    have hstep : enter place name = some (place ++ [name]) := by
      rw [enter, if_neg hpoint, if_neg hback]
    have hdown := @ih (place ++ [name]) hrest
    rw [follow] at hdown
    rw [follow, List.foldlM_cons, hstep, Option.bind_eq_bind, Option.bind_some, hdown,
      List.append_assoc, List.singleton_append]

/-! ## Where two paths part -/

/-- Up to where they part, two paths go through the same names. -/
theorem take_common (ds ts : List String) :
    ds.take (common ds ts) = ts.take (common ds ts) := by
  induction ds generalizing ts with
  | nil => simp [common]
  | cons d ds ih =>
    cases ts with
    | nil => simp [common]
    | cons t ts =>
      rw [common]
      by_cases h : d = t
      · rw [if_pos h, List.take_succ_cons, List.take_succ_cons, ih, h]
      · rw [if_neg h, List.take_zero, List.take_zero]

theorem common_le_length (ds ts : List String) : common ds ts ≤ ds.length := by
  induction ds generalizing ts with
  | nil => exact Nat.le_refl 0
  | cons d ds ih =>
    cases ts with
    | nil => exact Nat.zero_le _
    | cons t ts =>
      rw [common]
      by_cases h : d = t
      · rw [if_pos h, List.length_cons]
        exact Nat.succ_le_succ (ih ts)
      · rw [if_neg h]
        exact Nat.zero_le _

/-- A path has a name behind where it parts from another one, unless that goes on from it. -/
theorem drop_common_ne_nil (h : ¬ ts <+: ds) : ts.drop (common ds ts) ≠ [] := by
  intro hnil
  have hts : ds.take (common ds ts) = ts := by
    rw [take_common, List.take_of_length_le (List.drop_eq_nil_iff.1 hnil)]
  have hprefix : ds.take (common ds ts) <+: ds := List.take_prefix _ _
  rw [hts] at hprefix
  exact h hprefix

/-- **Up and down.**  From where one path leads, up to where another parts from it and down its
    names is where that one leads. -/
theorem follow_between (h : ∀ name ∈ ts, name ≠ "." ∧ name ≠ "..") :
    follow ds (List.replicate (ds.length - common ds ts) ".." ++ ts.drop (common ds ts)) =
      some ts := by
  have hback : ds.length - (ds.length - common ds ts) = common ds ts :=
    Nat.sub_sub_self (common_le_length ds ts)
  have hnames : ∀ name ∈ ts.drop (common ds ts), name ≠ "." ∧ name ≠ ".." :=
    fun name hname => h name (List.mem_of_mem_drop hname)
  rw [follow_append, follow_up (Nat.sub_le _ _), Option.bind_some, hback, follow_down hnames,
    take_common, List.take_append_drop]

/-! ## Segments of modules -/

/-- A name in a path that is neither empty nor made of points only. -/
def Plain (name : String) : Prop := name ≠ "" ∧ name ≠ "." ∧ name ≠ ".."

theorem step_of_plain (p : ModulePath) (h : Plain name) :
    p.step name = { p with names := p.names ++ [name] } := by
  rw [step, if_neg (not_or.2 ⟨h.1, h.2.1⟩), if_neg h.2.2]

theorem foldl_step_of_plain (p : ModulePath) (h : ∀ name ∈ names, Plain name) :
    names.foldl step p = { p with names := p.names ++ names } := by
  induction names generalizing p with
  | nil => rw [List.foldl_nil, List.append_nil]
  | cons name rest ih =>
    obtain ⟨hname, hrest⟩ := List.forall_mem_cons.1 h
    rw [List.foldl_cons, step_of_plain p hname, ih _ hrest, List.append_assoc,
      List.singleton_append]

/-- A path that starts or ends with a slash has an empty segment there. -/
theorem ends_of_plain (h : ∀ segment ∈ Text.split '/' path, Plain segment) :
    path.toList.head? ≠ some '/' ∧ path.toList.getLast? ≠ some '/' := by
  have hslash (before behind : String) : path = before ++ "/" ++ behind →
      "" ∉ Text.split '/' before ∧ "" ∉ Text.split '/' behind := by
    rintro rfl
    have hsplit : Text.split '/' (before ++ "/" ++ behind) =
        Text.split '/' before ++ Text.split '/' behind := Text.split_append_sep '/' before behind
    rw [hsplit, List.forall_mem_append] at h
    exact ⟨fun hmem => (h.1 "" hmem).1 rfl, fun hmem => (h.2 "" hmem).1 rfl⟩
  have hempty : "" ∈ Text.split '/' "" := by decide
  constructor
  · intro hhead
    obtain ⟨cs, hcs⟩ := List.head?_eq_some_iff.1 hhead
    refine (hslash "" (String.ofList cs) ?_).1 hempty
    apply String.toList_injective
    simp [hcs]
  · intro hlast
    obtain ⟨cs, hcs⟩ := List.getLast?_eq_some_iff.1 hlast
    refine (hslash (String.ofList cs) "" ?_).2 hempty
    apply String.toList_injective
    simp [hcs]

theorem ofText_of_plain (h : ∀ segment ∈ Text.split '/' path, Plain segment) :
    ofText path = ⟨false, 0, Text.split '/' path⟩ := by
  have hhead : (path.toList.head? == some '/') = false :=
    beq_eq_false_iff_ne.2 (ends_of_plain h).1
  rw [ofText, hhead, foldl_step_of_plain _ h, List.nil_append]

/-- A module outside of all directories. -/
theorem directory_of_not_mem (h : '/' ∉ path.toList) : directory path = "" := by
  have hnone : path.toList.reverse.dropWhile (· != '/') = [] := by
    refine List.dropWhile_eq_nil_iff.2 fun c hc => bne_iff_ne.2 fun heq => h ?_
    exact heq ▸ List.mem_reverse.1 hc
  rw [directory, hnone]
  rfl

/-- A module inside a directory whose path does not end in a slash. -/
theorem directory_append {directoryPath : String} (hname : '/' ∉ name.toList)
    (hne : directoryPath ≠ "") (hlast : directoryPath.toList.getLast? ≠ some '/') :
    directory (directoryPath ++ "/" ++ name) = directoryPath := by
  have hchars : (directoryPath ++ "/" ++ name).toList.reverse =
      name.toList.reverse ++ '/' :: directoryPath.toList.reverse := by
    simp [String.toList_append]
  have hdrop : (name.toList.reverse ++ '/' :: directoryPath.toList.reverse).dropWhile
      (· != '/') = '/' :: directoryPath.toList.reverse := by
    rw [List.dropWhile_append_of_pos, List.dropWhile_cons_of_neg (by decide)]
    intro c hc
    refine bne_iff_ne.2 ?_
    rintro rfl
    exact hname (List.mem_reverse.1 hc)
  have hbare : ('/' :: directoryPath.toList.reverse).dropWhile (· == '/') =
      directoryPath.toList.reverse := by
    rw [List.dropWhile_cons_of_pos (by decide)]
    cases hrev : directoryPath.toList.reverse with
    | nil => rfl
    | cons c cs =>
      refine List.dropWhile_cons_of_neg ?_
      intro hc
      refine hlast ?_
      rw [← List.head?_reverse, hrev, eq_of_beq hc, List.head?_cons]
  have hsome : directoryPath.toList.isEmpty = false :=
    List.isEmpty_eq_false_iff.2 (mt String.toList_eq_nil_iff.1 hne)
  rw [directory, hchars, hdrop, List.reverse_reverse, hbare, List.reverse_reverse, hsome,
    if_neg Bool.false_ne_true, String.ofList_toList]

/-- A path with a slash can be cut at its last one. -/
theorem exists_eq_append_slash (h : '/' ∈ path.toList) :
    ∃ before name, path = before ++ "/" ++ name ∧ '/' ∉ name.toList := by
  obtain ⟨behind, before, hcut, hname⟩ := List.eq_append_cons_of_mem (List.mem_reverse.2 h)
  refine ⟨String.ofList before.reverse, String.ofList behind.reverse, ?_, by simpa using hname⟩
  apply String.toList_injective
  rw [← List.reverse_reverse path.toList, hcut]
  simp

/-- **The directory of a module** has the segments of the module but the last. -/
theorem ofText_directory (h : ∀ segment ∈ Text.split '/' path, Plain segment) :
    ofText (directory path) = ⟨false, 0, (Text.split '/' path).dropLast⟩ := by
  by_cases hslash : '/' ∈ path.toList
  · obtain ⟨before, name, rfl, hname⟩ := exists_eq_append_slash hslash
    have hsplit : Text.split '/' (before ++ "/" ++ name) = Text.split '/' before ++ [name] := by
      rw [← Text.split_eq_singleton hname]
      exact Text.split_append_sep '/' before name
    rw [hsplit] at h ⊢
    obtain ⟨hbefore, -⟩ := List.forall_mem_append.1 h
    have hne : before ≠ "" := by
      rintro rfl
      exact (hbefore "" (by decide)).1 rfl
    rw [directory_append hname hne (ends_of_plain hbefore).2, ofText_of_plain hbefore,
      List.dropLast_concat]
  · rw [directory_of_not_mem hslash, Text.split_eq_singleton hslash]
    rfl

/-! ## Import paths -/

/-- The text of segments as a path to import, behind a point unless it starts with one. -/
def importText (segments : List String) : String :=
  let path := Text.join "/" segments
  if path.toList.head? = some '.' then path else "./" ++ path

theorem relative_eq (hne : target ≠ "")
    (hnames : between (ofText (directory source)) (ofText target) ≠ []) :
    relative source target =
      .ok (importText (between (ofText (directory source)) (ofText target))) := by
  rw [relative, if_neg hne]
  split
  · next hnil => exact absurd hnil hnames
  · rfl

/-- A path that goes down starts with a point, which leads nowhere else. -/
theorem importText_down (hfirst : name ≠ "" ∧ name.toList.head? ≠ some '.')
    (hslash : ∀ segment ∈ name :: names, '/' ∉ segment.toList) :
    "./".toList <+: (importText (name :: names)).toList ∧
      Text.split '/' (importText (name :: names)) = "." :: name :: names := by
  obtain ⟨c, cs, hname⟩ := List.exists_cons_of_ne_nil (mt String.toList_eq_nil_iff.1 hfirst.1)
  obtain ⟨more, hmore⟩ := @Text.exists_head_intercalate name "/" c cs hname names
  have hpoint : (Text.join "/" (name :: names)).toList.head? ≠ some '.' := by
    rw [Text.join, hmore, List.head?_cons, ← @List.head?_cons _ c cs, ← hname]
    exact hfirst.2
  have htext : importText (name :: names) = "." ++ "/" ++ Text.join "/" (name :: names) := by
    rw [importText]
    exact if_neg hpoint
  rw [htext]
  constructor
  · rw [String.toList_append]
    exact List.prefix_append _ _
  · have hjoined : Text.split '/' (Text.join "/" (name :: names)) = name :: names :=
      Text.split_join (List.cons_ne_nil _ _) hslash
    have hsplit : Text.split '/' ("." ++ "/" ++ Text.join "/" (name :: names)) =
        Text.split '/' "." ++ Text.split '/' (Text.join "/" (name :: names)) :=
      Text.split_append_sep '/' "." _
    have hself : Text.split '/' "." = ["."] := Text.split_eq_singleton (by decide)
    rw [hsplit, hjoined, hself, List.singleton_append]

/-- A path that goes up starts with a step up. -/
theorem importText_up (hne : names ≠ []) (hslash : ∀ segment ∈ names, '/' ∉ segment.toList) :
    "../".toList <+: (importText (".." :: names)).toList ∧
      Text.split '/' (importText (".." :: names)) = ".." :: names := by
  obtain ⟨second, rest, rfl⟩ := List.exists_cons_of_ne_nil hne
  have hjoin : (Text.join "/" (".." :: second :: rest)).toList =
      "../".toList ++ (Text.join "/" (second :: rest)).toList := by
    rw [Text.join, String.intercalate_cons_cons, String.toList_append]
    rfl
  have htext : importText (".." :: second :: rest) = Text.join "/" (".." :: second :: rest) := by
    rw [importText]
    exact if_pos (by rw [hjoin]; rfl)
  rw [htext, hjoin]
  refine ⟨List.prefix_append _ _, Text.split_join (List.cons_ne_nil _ _) ?_⟩
  exact List.forall_mem_cons.2 ⟨by decide, hslash⟩

/-- The text of steps up and names starts with a step, and leads where they do. -/
theorem importText_spec (k : Nat) (hfirst : name ≠ "" ∧ name.toList.head? ≠ some '.')
    (hslash : ∀ segment ∈ name :: names, '/' ∉ segment.toList) :
    ("./".toList <+: (importText (List.replicate k ".." ++ name :: names)).toList ∨
      "../".toList <+: (importText (List.replicate k ".." ++ name :: names)).toList) ∧
    ∀ place, follow place (Text.split '/' (importText (List.replicate k ".." ++ name :: names))) =
      follow place (List.replicate k ".." ++ name :: names) := by
  cases k with
  | zero =>
    rw [List.replicate_zero, List.nil_append]
    obtain ⟨hstart, hsplit⟩ := importText_down hfirst hslash
    exact ⟨Or.inl hstart, fun place => by rw [hsplit, follow_point]⟩
  | succ k =>
    have hup : ∀ segment ∈ List.replicate k "..", '/' ∉ segment.toList := by
      intro segment hmem
      rw [List.eq_of_mem_replicate hmem]
      decide
    obtain ⟨hstart, hsplit⟩ := @importText_up (List.replicate k ".." ++ name :: names) (by simp)
      (List.forall_mem_append.2 ⟨hup, hslash⟩)
    rw [List.replicate_succ, List.cons_append]
    exact ⟨Or.inr hstart, fun place => by rw [hsplit]⟩

/-- **Import paths lead to their modules.**  The path that a module imports another by starts
    with a step, and leads from the directory of the one to the other without leaving the output,
    if the names in the first are no points, those in the second do not start with one, and the
    second is neither the directory of the first nor above it. -/
theorem follow_relative
    (hsource : ∀ segment ∈ Text.split '/' source,
      segment ≠ "" ∧ segment ≠ "." ∧ segment ≠ "..")
    (htarget : ∀ segment ∈ Text.split '/' target,
      segment ≠ "" ∧ segment.toList.head? ≠ some '.')
    (habove : ¬ Text.split '/' target <+: (Text.split '/' source).dropLast) :
    ∃ path, relative source target = .ok path ∧
      ("./".toList <+: path.toList ∨ "../".toList <+: path.toList) ∧
      follow (Text.split '/' source).dropLast (Text.split '/' path) =
        some (Text.split '/' target) := by
  have hplain : ∀ segment ∈ Text.split '/' target, Plain segment := by
    intro segment hmem
    obtain ⟨hempty, hpoint⟩ := htarget segment hmem
    refine ⟨hempty, ?_, ?_⟩
    · rintro rfl
      exact hpoint rfl
    · rintro rfl
      exact hpoint rfl
  have hne : target ≠ "" := by
    rintro rfl
    exact (hplain "" (by decide)).1 rfl
  have hslash : ∀ segment ∈ Text.split '/' target, '/' ∉ segment.toList :=
    fun segment => Text.not_mem_of_mem_split
  generalize hts : Text.split '/' target = ts at *
  generalize hds : (Text.split '/' source).dropLast = ds at *
  obtain ⟨first, rest, hdrop⟩ := List.exists_cons_of_ne_nil (drop_common_ne_nil habove)
  have hdown : ∀ segment ∈ first :: rest, segment ∈ ts :=
    fun segment hmem => List.mem_of_mem_drop (hdrop ▸ hmem)
  have hbetween : between (ofText (directory source)) (ofText target) =
      List.replicate (ds.length - common ds ts) ".." ++ first :: rest := by
    rw [ofText_directory hsource, ofText_of_plain (hts ▸ hplain), hts, hds, ← hdrop]
    exact if_pos rfl
  have hrelative := @relative_eq source target hne (by rw [hbetween]; simp)
  rw [hbetween] at hrelative
  obtain ⟨hstart, htext⟩ := importText_spec (ds.length - common ds ts)
    (htarget first (hdown first List.mem_cons_self))
    fun segment hmem => hslash segment (hdown segment hmem)
  refine ⟨_, hrelative, hstart, ?_⟩
  rw [htext, ← hdrop]
  exact follow_between fun segment hmem => (hplain segment hmem).2

/-- From an endpoint in a folder that starts with a point, up to a schema and down to it. -/
theorem follow_relative_folder :
    let source := "endpoints/.well-known/keys"
    let target := "schemas/shop/Key"
    let path := "../../schemas/shop/Key"
    (∀ segment ∈ Text.split '/' source, segment ≠ "" ∧ segment ≠ "." ∧ segment ≠ "..") ∧
    (∀ segment ∈ Text.split '/' target, segment ≠ "" ∧ segment.toList.head? ≠ some '.') ∧
    ¬ Text.split '/' target <+: (Text.split '/' source).dropLast ∧
    relative source target = .ok path ∧ "../".toList <+: path.toList ∧
    follow (Text.split '/' source).dropLast (Text.split '/' path) =
      some (Text.split '/' target) := by
  intro source target path
  have hsource : ∀ segment ∈ Text.split '/' source,
      segment ≠ "" ∧ segment ≠ "." ∧ segment ≠ ".." := by decide
  have htarget : ∀ segment ∈ Text.split '/' target,
      segment ≠ "" ∧ segment.toList.head? ≠ some '.' := by decide
  have habove : ¬ Text.split '/' target <+: (Text.split '/' source).dropLast := by decide
  have hrelative : relative source target = .ok path := by decide
  obtain ⟨path', hpath, -, hfollow⟩ := follow_relative hsource htarget habove
  obtain rfl := Except.ok.inj (hrelative.symm.trans hpath)
  exact ⟨hsource, htarget, habove, hrelative, by decide, hfollow⟩

end ApiTypes.ModulePath
