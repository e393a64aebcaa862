/-
  Where the URLs of endpoints end up in their tree.

  The keys of an endpoint are the segments of its folder and its name
  (`Leaf.keys`).  Its URL stands there, or under `_self` behind them if they
  lead to a folder, because the folder of some endpoint starts with them
  (`Leaf.place`).

  * `contents_insert` is the step: inserting an endpoint adds one leaf and moves
    the leaf that stands in the way of its folder, if there is one, under
    `_self` (`moved`);
  * `contents_build` is the run: after any list of endpoints, in any order, the
    leaves are the endpoints' URLs, each at its place.
-/
import ApiTypes.Proofs.UrlTree.Contents
import Mathlib.Data.List.Induction

namespace ApiTypes.UrlTree

/-! ## Places -/

/-- The keys that lead to an endpoint: its folder's segments and its name. -/
def Leaf.keys (leaf : Leaf) : List String := segments leaf.folder ++ [leaf.name]

/-- Where the URL of an endpoint stands among those of several: at its keys, or
    under `_self` if the folder of one of them starts with its keys. -/
def Leaf.place (all : List Leaf) (leaf : Leaf) : List String :=
  if ∃ other ∈ all, leaf.keys <+: segments other.folder then leaf.keys ++ [selfKey] else leaf.keys

/-- Where a leaf stands once there is a folder with the given segments. -/
def moved (folder : List String) (leaf : List String × String) : List String × String :=
  if leaf.1 <+: folder then (leaf.1 ++ [selfKey], leaf.2) else leaf

/-- Where a URL is put: at its keys, or under `_self` if a folder is there. -/
def target (entries : List (String × UrlTree)) (keys : List String) : List String :=
  if ∃ leaf ∈ contents entries, keys <+: leaf.1 ∧ keys ≠ leaf.1 then keys ++ [selfKey] else keys

/-- Nothing stands in the way of a URL: no leaf has its keys, and none lies at or
    below `_self` behind them. -/
def Vacant (entries : List (String × UrlTree)) (keys : List String) : Prop :=
  ∀ leaf ∈ contents entries, leaf.1 ≠ keys ∧ ¬ keys ++ [selfKey] <+: leaf.1

theorem moved_of_ne {segment : String} {folder : List String} {leaf : List String × String}
    (hne : leaf.1 ≠ []) (h : leaf.1.head? ≠ some segment) :
    moved (segment :: folder) leaf = leaf := by
  obtain ⟨keys, path⟩ := leaf
  cases keys with
  | nil => exact absurd rfl hne
  | cons key keys =>
    have hk : key ≠ segment := fun he => h (by simp [he])
    rw [moved, if_neg]
    simp [List.cons_prefix_cons, hk]

theorem moved_under (segment : String) (folder : List String) (leaf : List String × String) :
    moved (segment :: folder) (under segment leaf) = under segment (moved folder leaf) := by
  simp only [moved, under, List.cons_prefix_cons, true_and]
  split <;> rfl

theorem map_moved_under (segment : String) (folder : List String)
    (leaves : List (List String × String)) :
    (leaves.map (under segment)).map (moved (segment :: folder)) =
      (leaves.map (moved folder)).map (under segment) := by
  simp only [List.map_map]
  exact List.map_congr_left fun leaf _ => moved_under segment folder leaf

theorem map_moved_nil (entries : List (String × UrlTree)) :
    (contents entries).map (moved []) = contents entries := by
  refine (List.map_congr_left (g := id) fun leaf hleaf => ?_).trans (List.map_id _)
  rw [moved, if_neg, id]
  rw [List.prefix_nil]
  exact ne_nil_of_mem_contents hleaf

/-! ## The folder at a key -/

theorem tidy_asFolder {entries : List (String × UrlTree)} (h : Tidy entries) (segment : String) :
    Tidy (asFolder (Entries.get? entries segment)) := by
  cases hget : Entries.get? entries segment with
  | none => exact .nil
  | some tree =>
    cases tree with
    | url path => exact .url (by simp [Entries.keys]) .nil
    | folder inner => exact (h.of_mem (Entries.mem_of_get? hget)).2

theorem mem_contents_asFolder {entries : List (String × UrlTree)} {segment : String}
    {leaf : List String × String} (hnodup : (Entries.keys entries).Nodup)
    (h : leaf ∈ contents (asFolder (Entries.get? entries segment))) :
    under segment leaf ∈ contents entries ∨ leaf.1 = [selfKey] := by
  cases hget : Entries.get? entries segment with
  | none => simp [hget, asFolder, contents] at h
  | some tree =>
    cases tree with
    | url path =>
      simp only [hget, asFolder, contents, leavesOf, under, List.map_cons, List.map_nil,
        List.append_nil, List.mem_singleton] at h
      exact Or.inr (by rw [h])
    | folder inner =>
      rw [hget, asFolder] at h
      exact Or.inl ((cons_mem_contents_iff hnodup).2 ⟨_, hget, h⟩)

theorem mem_contents_asFolder_of_cons {entries : List (String × UrlTree)}
    {segment path : String} {keys : List String} (hnodup : (Entries.keys entries).Nodup)
    (hkeys : keys ≠ []) (h : (segment :: keys, path) ∈ contents entries) :
    (keys, path) ∈ contents (asFolder (Entries.get? entries segment)) := by
  obtain ⟨tree, hget, hleaf⟩ := (cons_mem_contents_iff hnodup).1 h
  obtain ⟨inner, rfl⟩ := exists_folder_of_mem_leavesOf hkeys hleaf
  rw [hget]
  exact hleaf

theorem vacant_asFolder {entries : List (String × UrlTree)} {segment name : String}
    {rest : List String} (hnodup : (Entries.keys entries).Nodup) (hname : name ≠ selfKey)
    (h : Vacant entries (segment :: rest ++ [name])) :
    Vacant (asFolder (Entries.get? entries segment)) (rest ++ [name]) := by
  intro leaf hleaf
  rcases mem_contents_asFolder hnodup hleaf with hmem | hself
  · obtain ⟨hne, hbelow⟩ := h _ hmem
    refine ⟨fun he => hne (by simp [under, he]), fun hp => hbelow ?_⟩
    exact List.cons_prefix_cons.2 ⟨rfl, hp⟩
  · rw [hself]
    refine ⟨fun he => ?_, fun hp => ?_⟩
    · cases rest with
      | nil => exact hname (List.cons.inj he).1.symm
      | cons s rest => simp at he
    · have := hp.length_le
      simp at this

theorem target_asFolder {entries : List (String × UrlTree)} {segment name : String}
    {rest : List String} (hnodup : (Entries.keys entries).Nodup) :
    target entries (segment :: (rest ++ [name])) =
      segment :: target (asFolder (Entries.get? entries segment)) (rest ++ [name]) := by
  have hiff : (∃ leaf ∈ contents entries, segment :: (rest ++ [name]) <+: leaf.1 ∧
      segment :: (rest ++ [name]) ≠ leaf.1) ↔
      ∃ leaf ∈ contents (asFolder (Entries.get? entries segment)), rest ++ [name] <+: leaf.1 ∧
        rest ++ [name] ≠ leaf.1 := by
    constructor
    · rintro ⟨⟨keys, path⟩, hleaf, hp, hne⟩
      obtain ⟨more, rfl⟩ := hp
      refine ⟨(rest ++ [name] ++ more, path), ?_, List.prefix_append _ _, fun he => ?_⟩
      · exact mem_contents_asFolder_of_cons hnodup (by simp) hleaf
      · exact hne (congrArg (segment :: ·) he)
    · rintro ⟨leaf, hleaf, hp, hne⟩
      rcases mem_contents_asFolder hnodup hleaf with hmem | hself
      · exact ⟨_, hmem, List.cons_prefix_cons.2 ⟨rfl, hp⟩, fun he => hne (List.cons.inj he).2⟩
      · rw [hself] at hp hne
        rw [← List.nil_append [selfKey], List.prefix_concat_iff] at hp
        rcases hp with he | hp
        · exact absurd he hne
        · simp at hp
  simp only [target, hiff]
  split <;> rfl

theorem map_moved_leavesUnder {segment : String} {rest : List String} (hself : selfKey ∉ rest)
    (tree : Option UrlTree) :
    (leavesUnder segment tree).map (moved (segment :: rest)) =
      ((contents (asFolder tree)).map (moved rest)).map (under segment) := by
  cases tree with
  | none => rfl
  | some tree =>
    cases tree with
    | folder inner => exact map_moved_under segment rest _
    | url path =>
      have hstay : ¬ [selfKey] <+: rest := fun hp => hself (hp.subset List.mem_cons_self)
      simp [leavesUnder, leavesOf, contents, asFolder, moved, under, hstay, List.cons_prefix_cons]

/-! ## One endpoint -/

theorem insert_ne_nil (entries : List (String × UrlTree)) (segments : List String)
    (name path : String) : insert entries segments name path ≠ [] := by
  cases segments with
  | nil => rw [insert]; split <;> exact Entries.set_ne_nil _ _ _
  | cons segment rest => exact Entries.set_ne_nil _ _ _

theorem tidy_insert {name path : String} : ∀ {segments : List String}
    {entries : List (String × UrlTree)}, Tidy entries → Tidy (insert entries segments name path)
  | [], entries, h => by
    rw [insert]
    split
    · next inner hget =>
      refine h.set fun inner' he => ?_
      obtain rfl := UrlTree.folder.inj he
      obtain ⟨-, hinner⟩ := h.of_mem (Entries.mem_of_get? hget)
      exact ⟨Entries.set_ne_nil _ _ _, hinner.set (by simp)⟩
    · exact h.set (by simp)
  | segment :: rest, entries, h => by
    refine h.set fun inner he => ?_
    obtain rfl := UrlTree.folder.inj he
    exact ⟨insert_ne_nil _ _ _ _, tidy_insert (tidy_asFolder h segment)⟩

theorem contents_insert_nil {entries : List (String × UrlTree)} {name path : String}
    (h : Tidy entries) (hvacant : Vacant entries [name]) :
    (contents (insert entries [] name path)).Perm
      ((target entries [name], path) :: contents entries) := by
  obtain ⟨others, hothers, hperm, hset⟩ := exists_contents_rest name h.keys_nodup
  have hleaf : ∀ keys url, (name :: keys, url) ∈ contents entries → keys ≠ [] :=
    fun keys url hmem he => (hvacant _ hmem).1 (by simp [he])
  cases hget : Entries.get? entries name with
  | none =>
    have hsame : (contents entries).Perm others := by simpa [hget, leavesUnder] using hperm
    have hfree : target entries [name] = [name] := by
      refine if_neg ?_
      rintro ⟨⟨keys, url⟩, hmem, ⟨more, rfl⟩, -⟩
      obtain ⟨tree, hsome, -⟩ := (cons_mem_contents_iff h.keys_nodup).1 hmem
      simp [hget] at hsome
    rw [hfree]
    simp only [insert, hget]
    exact (hset _).trans (hsame.symm.cons _)
  | some tree =>
    cases tree with
    | url p =>
      exact absurd rfl (hleaf [] p ((cons_mem_contents_iff h.keys_nodup).2
        ⟨_, hget, by simp [leavesOf]⟩))
    | folder inner =>
      obtain ⟨hne, hinner⟩ := h.of_mem (Entries.mem_of_get? hget)
      have hdown : target entries [name] = [name, selfKey] := by
        obtain ⟨⟨keys, url⟩, hmem⟩ := List.exists_mem_of_ne_nil _ (hinner.contents_ne_nil hne)
        refine if_pos ⟨(name :: keys, url), ?_, by simp, ?_⟩
        · exact (cons_mem_contents_iff h.keys_nodup).2 ⟨_, hget, hmem⟩
        · simpa using (ne_nil_of_mem_contents hmem).symm
      -- nothing stands under the reserved key, so writing it loses nothing
      obtain ⟨others', -, hperm', hset'⟩ := exists_contents_rest selfKey hinner.keys_nodup
      have hunder : leavesUnder selfKey (Entries.get? inner selfKey) = [] := by
        refine List.eq_nil_iff_forall_not_mem.2 fun leaf hmem => ?_
        have hin : leaf ∈ contents inner := hperm'.mem_iff.2 (List.mem_append_left _ hmem)
        obtain ⟨l, -, rfl⟩ := List.mem_map.1 hmem
        refine (hvacant _ ((cons_mem_contents_iff h.keys_nodup).2 ⟨_, hget, hin⟩)).2 ?_
        simp
      rw [hunder, List.nil_append] at hperm'
      rw [hdown]
      simp only [insert, hget]
      refine (hset _).trans ?_
      have hnew : (leavesUnder name (some (.folder (Entries.set inner selfKey (.url path))))).Perm
          (([name, selfKey], path) :: leavesUnder name (some (.folder inner))) := by
        have := ((hset' (.url path)).trans (hperm'.symm.append_left _)).map (under name)
        simpa [leavesUnder, leavesOf, under] using this
      refine (hnew.append_right _).trans ?_
      rw [hget] at hperm
      exact hperm.symm.cons _

/-- **The step.**  Inserting an endpoint adds its leaf, and moves the leaf on the
    way to its folder, if any, under the reserved key. -/
theorem contents_insert {name path : String} (hname : name ≠ selfKey) : ∀ {segments : List String}
    {entries : List (String × UrlTree)}, selfKey ∉ segments → Tidy entries →
      Vacant entries (segments ++ [name]) →
      (contents (insert entries segments name path)).Perm
        ((target entries (segments ++ [name]), path) :: (contents entries).map (moved segments))
  | [], entries, _, h, hvacant => by
    rw [map_moved_nil]
    exact contents_insert_nil h hvacant
  | segment :: rest, entries, hself, h, hvacant => by
    have hrest : selfKey ∉ rest := fun hmem => hself (List.mem_cons_of_mem _ hmem)
    have ih := @contents_insert name path hname rest _ hrest (tidy_asFolder h segment)
      (vacant_asFolder h.keys_nodup hname hvacant)
    obtain ⟨others, hothers, hperm, hset⟩ := exists_contents_rest segment h.keys_nodup
    have hstay : others.map (moved (segment :: rest)) = others := by
      refine (List.map_congr_left (g := id) fun leaf hleaf => ?_).trans (List.map_id _)
      refine moved_of_ne ?_ (hothers leaf hleaf)
      exact ne_nil_of_mem_contents (hperm.mem_iff.2 (List.mem_append_right _ hleaf))
    have hmoved : ((contents entries).map (moved (segment :: rest))).Perm
        (((contents (asFolder (Entries.get? entries segment))).map (moved rest)).map
          (under segment) ++ others) := by
      have := hperm.map (moved (segment :: rest))
      rwa [List.map_append, hstay, map_moved_leavesUnder hrest] at this
    rw [List.cons_append, target_asFolder h.keys_nodup]
    refine (hset _).trans (List.Perm.trans ?_ (hmoved.symm.cons _))
    exact (ih.map (under segment)).append_right others

/-! ## All endpoints -/

theorem build_concat (all : List Leaf) (leaf : Leaf) :
    build (all ++ [leaf]) = insert (build all) (segments leaf.folder) leaf.name leaf.path := by
  simp [build, List.foldl_append]

theorem tidy_build (all : List Leaf) : Tidy (build all) := by
  induction all using List.reverseRecOn with
  | nil => exact .nil
  | append_singleton all leaf ih => rw [build_concat]; exact tidy_insert ih

theorem Leaf.keys_inj {a b : Leaf} :
    a.keys = b.keys ↔ (segments a.folder, a.name) = (segments b.folder, b.name) := by
  rw [Leaf.keys, Leaf.keys, Prod.mk.injEq]
  constructor
  · intro h; simpa using List.append_inj' h rfl
  · rintro ⟨hfolder, hname⟩; rw [hfolder, hname]

/-- No key of an endpoint is the reserved one. -/
def Leaf.Unreserved (leaf : Leaf) : Prop := leaf.name ≠ selfKey ∧ selfKey ∉ segments leaf.folder

theorem Leaf.Unreserved.not_mem_keys {leaf : Leaf} (h : leaf.Unreserved) : selfKey ∉ leaf.keys := by
  intro hmem
  rcases List.mem_append.1 hmem with hmem | hmem
  · exact h.2 hmem
  · exact h.1 (List.mem_singleton.1 hmem).symm

theorem place_eq_or (all : List Leaf) (leaf : Leaf) :
    leaf.place all = leaf.keys ∨ leaf.place all = leaf.keys ++ [selfKey] := by
  rw [Leaf.place]
  split
  · exact Or.inr rfl
  · exact Or.inl rfl

/-- Keys that end in the reserved one start no other keys. -/
theorem not_prefix_place {all : List Leaf} {leaf : Leaf} {keys : List String}
    (h : leaf.Unreserved) (hne : keys ≠ leaf.keys) : ¬ keys ++ [selfKey] <+: leaf.place all := by
  intro hp
  have hmem : selfKey ∈ keys ++ [selfKey] := by simp
  rcases place_eq_or all leaf with he | he <;> rw [he] at hp
  · exact h.not_mem_keys (hp.subset hmem)
  · rcases List.prefix_concat_iff.1 hp with he' | hp
    · exact hne (List.append_inj' he' rfl).1
    · exact h.not_mem_keys (hp.subset hmem)

theorem place_ne {all : List Leaf} {leaf : Leaf} {keys : List String} (hkeys : selfKey ∉ keys)
    (hne : keys ≠ leaf.keys) : leaf.place all ≠ keys := by
  rcases place_eq_or all leaf with he | he <;> rw [he]
  · exact hne.symm
  · rintro rfl; simp at hkeys

/-- A further endpoint moves the others as its folder does. -/
theorem moved_place {all : List Leaf} {leaf other : Leaf} (h : selfKey ∉ segments leaf.folder) :
    moved (segments leaf.folder) (other.place all, other.path) =
      (other.place (all ++ [leaf]), other.path) := by
  by_cases hall : ∃ l ∈ all, other.keys <+: segments l.folder
  · have hmore : ∃ l ∈ all ++ [leaf], other.keys <+: segments l.folder := by
      obtain ⟨l, hl, hp⟩ := hall
      exact ⟨l, List.mem_append_left _ hl, hp⟩
    have hstay : ¬ other.keys ++ [selfKey] <+: segments leaf.folder :=
      fun hp => h (hp.subset (by simp))
    rw [Leaf.place, Leaf.place, if_pos hall, if_pos hmore, moved, if_neg hstay]
  · rw [moved, Leaf.place, Leaf.place, if_neg hall]
    have hiff : (∃ l ∈ all ++ [leaf], other.keys <+: segments l.folder) ↔
        other.keys <+: segments leaf.folder := by
      constructor
      · rintro ⟨l, hl, hp⟩
        rcases List.mem_append.1 hl with hl | hl
        · exact absurd ⟨l, hl, hp⟩ hall
        · rwa [List.mem_singleton.1 hl] at hp
      · exact fun hp => ⟨leaf, by simp, hp⟩
    simp only [hiff]
    split <;> rfl

/-- The place of a further endpoint, read off the tree of the others. -/
theorem target_build {all : List Leaf} {leaf : Leaf}
    (hperm : (contents (build all)).Perm (all.map fun l => (l.place all, l.path)))
    (hnew : ∀ other ∈ all, leaf.keys ≠ other.keys) :
    target (build all) leaf.keys = leaf.place (all ++ [leaf]) := by
  have hiff : (∃ l ∈ contents (build all), leaf.keys <+: l.1 ∧ leaf.keys ≠ l.1) ↔
      ∃ other ∈ all ++ [leaf], leaf.keys <+: segments other.folder := by
    constructor
    · rintro ⟨l, hl, hp, hne⟩
      obtain ⟨other, hother, rfl⟩ := List.mem_map.1 (hperm.mem_iff.1 hl)
      refine ⟨other, List.mem_append_left _ hother, ?_⟩
      have hbelow : leaf.keys <+: other.keys := by
        rcases place_eq_or all other with he | he
        · rwa [he] at hp
        · simp only [he] at hp hne
          exact (List.prefix_concat_iff.1 hp).resolve_left hne
      exact (List.prefix_concat_iff.1 hbelow).resolve_left (hnew other hother)
    · rintro ⟨other, hother, hp⟩
      have hlen := hp.length_le
      rcases List.mem_append.1 hother with hother | hother
      · have hplace : segments other.folder <+: other.place all := by
          rcases place_eq_or all other with he | he <;> rw [he, Leaf.keys]
          · exact List.prefix_append _ _
          · rw [List.append_assoc]; exact List.prefix_append _ _
        refine ⟨(other.place all, other.path), hperm.mem_iff.2 (List.mem_map_of_mem hother),
          hp.trans hplace, fun he => ?_⟩
        have hlong : (segments other.folder).length < (other.place all).length := by
          rcases place_eq_or all other with he | he <;> rw [he] <;> simp [Leaf.keys]
        have := congrArg List.length he
        simp only at this
        omega
      · rw [List.mem_singleton.1 hother, Leaf.keys, List.length_append, List.length_singleton]
          at hlen
        omega
  simp only [target, Leaf.place, hiff]

/-- **The run.**  The leaves of the tree are those of the endpoints, each at its
    place, and no others. -/
theorem contents_build {all : List Leaf} (hdistinct : (all.map Leaf.keys).Nodup)
    (hself : ∀ leaf ∈ all, leaf.Unreserved) :
    (contents (build all)).Perm (all.map fun leaf => (leaf.place all, leaf.path)) := by
  induction all using List.reverseRecOn with
  | nil => simp [build, contents]
  | append_singleton all leaf ih =>
    rw [List.map_append, List.nodup_append] at hdistinct
    have hleaf := hself leaf (by simp)
    have hall : ∀ other ∈ all, other.Unreserved :=
      fun other hother => hself other (List.mem_append_left _ hother)
    have hnew : ∀ other ∈ all, leaf.keys ≠ other.keys := fun other hother he =>
      hdistinct.2.2 _ (List.mem_map_of_mem hother) _ (by simp) he.symm
    have hperm := ih hdistinct.1 hall
    have hvacant : Vacant (build all) leaf.keys := by
      intro l hl
      obtain ⟨other, hother, rfl⟩ := List.mem_map.1 (hperm.mem_iff.1 hl)
      exact ⟨place_ne hleaf.not_mem_keys (hnew other hother),
        not_prefix_place (hall other hother) (hnew other hother)⟩
    rw [build_concat]
    refine (contents_insert hleaf.1 hleaf.2 (tidy_build all) hvacant).trans ?_
    have hmoved := hperm.map (moved (segments leaf.folder))
    have hplaces : (all.map (moved (segments leaf.folder) ∘ fun other =>
        (other.place all, other.path))) =
        all.map fun other => (other.place (all ++ [leaf]), other.path) :=
      List.map_congr_left fun other _ => moved_place hleaf.2
    rw [List.map_map, hplaces] at hmoved
    have htarget := target_build hperm hnew
    rw [Leaf.keys] at htarget
    rw [htarget, List.map_append]
    exact (hmoved.cons _).trans (List.perm_append_singleton _ _).symm

theorem place_perm {all all' : List Leaf} (h : all.Perm all') (leaf : Leaf) :
    leaf.place all = leaf.place all' := by
  simp only [Leaf.place, h.mem_iff]

/-- **The tree of URLs.**  For endpoints that differ in their folder's segments or
    their name, none of which is the reserved key: the leaves of their tree are
    one for each endpoint, its URL at its keys, or under the reserved key behind
    them if the folder of some endpoint starts with these keys; there are no
    other leaves, no empty folders and no keys that stand twice; and the same
    endpoints in another order give the same tree up to the order of the keys. -/
theorem build_spec {all : List Leaf}
    (hdistinct : (all.map fun leaf => (segments leaf.folder, leaf.name)).Nodup)
    (hself : ∀ leaf ∈ all, leaf.name ≠ selfKey ∧ selfKey ∉ segments leaf.folder) :
    (contents (build all)).Perm (all.map fun leaf =>
        (if ∃ other ∈ all, segments leaf.folder ++ [leaf.name] <+: segments other.folder then
          segments leaf.folder ++ [leaf.name, selfKey]
        else segments leaf.folder ++ [leaf.name], leaf.path)) ∧
      Tidy (build all) ∧ ∀ all', all.Perm all' → SameUpToOrder (build all) (build all') := by
  have hkeys : (all.map Leaf.keys).Nodup := by
    rw [List.Nodup, List.pairwise_map] at hdistinct ⊢
    exact hdistinct.imp fun hne he => hne (Leaf.keys_inj.1 he)
  have hcontents := contents_build hkeys hself
  refine ⟨?_, tidy_build all, fun all' hperm => ?_⟩
  · simpa [Leaf.place, Leaf.keys] using hcontents
  · refine sameUpToOrder_of_contents_perm (tidy_build all) (tidy_build all') ?_
    have hcontents' := contents_build ((hperm.map Leaf.keys).nodup_iff.1 hkeys)
      fun leaf hleaf => hself leaf (hperm.mem_iff.2 hleaf)
    refine hcontents.trans (.trans ?_ hcontents'.symm)
    simp only [place_perm hperm]
    exact hperm.map _

/-- A URL whose keys start the folder of another, two levels in a row. -/
theorem build_spec_users :
    (contents (build [⟨"users", "", "/users"⟩, ⟨"all", "users/all", "/users/all/all"⟩,
        ⟨"all", "users", "/users/all"⟩])).Perm
      [(["users", "_self"], "/users"), (["users", "all", "all"], "/users/all/all"),
        (["users", "all", "_self"], "/users/all")] :=
  (@build_spec [⟨"users", "", "/users"⟩, ⟨"all", "users/all", "/users/all/all"⟩,
    ⟨"all", "users", "/users/all"⟩] (by decide) (by decide)).1.trans (.of_eq (by decide))

end ApiTypes.UrlTree
