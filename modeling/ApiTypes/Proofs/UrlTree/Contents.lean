/-
  What a tree of URLs holds.

  * `contents` lists the leaves of a tree with the keys that lead to each, `allKeys` the
    keys at every depth;
  * `Tidy`: no key stands twice in a folder, and no folder is empty;
  * `SameUpToOrder`: equal apart from the order of the keys, at every depth.

  A tidy tree is determined by its contents up to the order of its keys
  (`sameUpToOrder_of_contents_perm`).  `exists_contents_rest` singles out what
  one key of a tree adds to its contents.
-/
import ApiTypes.UrlTree
import Mathlib.Data.List.Basic
import Mathlib.Data.List.Perm.Basic

namespace ApiTypes

namespace UrlTree

/-! ## Leaves -/

/-- Puts a key in front of the path of a leaf. -/
def under (key : String) (leaf : List String × String) : List String × String :=
  (key :: leaf.1, leaf.2)

mutual

/-- The leaves of one tree: keys that lead to a URL, and the URL. -/
def leavesOf : UrlTree → List (List String × String)
  | .url path => [([], path)]
  | .folder entries => contents entries

/-- The leaves of a folder's entries. -/
def contents : List (String × UrlTree) → List (List String × String)
  | [] => []
  | (key, tree) :: rest => (leavesOf tree).map (under key) ++ contents rest

end

/-- The leaves that an entry, if it is there, adds under its key. -/
def leavesUnder (key : String) (tree : Option UrlTree) : List (List String × String) :=
  (tree.map leavesOf).getD [] |>.map (under key)

theorem contents_cons (key : String) (tree : UrlTree) (rest : List (String × UrlTree)) :
    contents ((key, tree) :: rest) = leavesUnder key (some tree) ++ contents rest := by
  rw [contents]; rfl

theorem head?_of_mem_leavesUnder {key : String} {tree : Option UrlTree}
    {leaf : List String × String} (h : leaf ∈ leavesUnder key tree) : leaf.1.head? = some key := by
  obtain ⟨l, -, rfl⟩ := List.mem_map.1 h
  rfl

theorem head?_of_mem_contents {leaf : List String × String} :
    ∀ {entries : List (String × UrlTree)}, leaf ∈ contents entries →
      ∃ key ∈ Entries.keys entries, leaf.1.head? = some key
  | [], h => by simp [contents] at h
  | (k, tree) :: rest, h => by
    rw [contents_cons] at h
    rcases List.mem_append.1 h with h | h
    · exact ⟨k, by simp [Entries.keys], head?_of_mem_leavesUnder h⟩
    · obtain ⟨key, hkey, hhead⟩ := head?_of_mem_contents h
      exact ⟨key, List.mem_cons_of_mem _ hkey, hhead⟩

theorem ne_nil_of_mem_contents {leaf : List String × String} {entries : List (String × UrlTree)}
    (h : leaf ∈ contents entries) : leaf.1 ≠ [] := by
  obtain ⟨key, -, hhead⟩ := head?_of_mem_contents h
  rintro hnil
  simp [hnil] at hhead

theorem eq_url_of_nil_mem_leavesOf {tree : UrlTree} {path : String}
    (h : ([], path) ∈ leavesOf tree) : tree = .url path := by
  cases tree with
  | url p => simpa [leavesOf, eq_comm] using h
  | folder inner => exact absurd rfl (ne_nil_of_mem_contents (by simpa [leavesOf] using h))

theorem exists_folder_of_mem_leavesOf {tree : UrlTree} {keys : List String} {path : String}
    (hkeys : keys ≠ []) (h : (keys, path) ∈ leavesOf tree) : ∃ inner, tree = .folder inner := by
  cases tree with
  | url p => simp [leavesOf, hkeys] at h
  | folder inner => exact ⟨inner, rfl⟩

theorem contents_perm {xs ys : List (String × UrlTree)} (h : xs.Perm ys) :
    (contents xs).Perm (contents ys) := by
  induction h with
  | nil => exact .nil
  | cons e _ ih =>
    obtain ⟨k, t⟩ := e
    rw [contents_cons, contents_cons]
    exact ih.append_left _
  | swap e e' rest =>
    obtain ⟨k, t⟩ := e
    obtain ⟨k', t'⟩ := e'
    simp only [contents_cons, ← List.append_assoc]
    exact List.perm_append_comm.append_right _
  | trans _ _ ih₁ ih₂ => exact ih₁.trans ih₂

/-- **What one key adds.**  The contents of entries with distinct keys are the
    leaves under a key and a rest, and writing the key leaves the rest alone. -/
theorem exists_contents_rest {entries : List (String × UrlTree)} (key : String)
    (hnodup : (Entries.keys entries).Nodup) :
    ∃ rest, (∀ leaf ∈ rest, leaf.1.head? ≠ some key) ∧
      (contents entries).Perm (leavesUnder key (Entries.get? entries key) ++ rest) ∧
      ∀ tree, (contents (Entries.set entries key tree)).Perm
        (leavesUnder key (some tree) ++ rest) := by
  induction entries with
  | nil =>
    refine ⟨[], by simp, by simp [contents, Entries.get?, leavesUnder], fun tree => ?_⟩
    rw [Entries.set, contents_cons, contents]
  | cons e others ih =>
    obtain ⟨k, t⟩ := e
    obtain ⟨hk, hothers⟩ := List.nodup_cons.1 hnodup
    by_cases hkey : k = key
    · subst hkey
      refine ⟨contents others, fun leaf hleaf hhead => ?_, ?_, fun tree => ?_⟩
      · obtain ⟨k', hk', hhead'⟩ := head?_of_mem_contents hleaf
        rw [hhead, Option.some.injEq] at hhead'
        exact hk (hhead' ▸ hk')
      · rw [contents_cons, Entries.get?, if_pos rfl]
      · rw [Entries.set, if_pos rfl, contents_cons]
    · obtain ⟨rest, hrest, hcontents, hset⟩ := ih hothers
      refine ⟨leavesUnder k (some t) ++ rest, fun leaf hleaf hhead => ?_, ?_, fun tree => ?_⟩
      · rcases List.mem_append.1 hleaf with h | h
        · rw [head?_of_mem_leavesUnder h, Option.some.injEq] at hhead
          exact hkey hhead
        · exact hrest leaf h hhead
      · rw [contents_cons, Entries.get?, if_neg hkey]
        exact (hcontents.append_left _).trans (List.perm_append_comm_assoc _ _ _)
      · rw [Entries.set, if_neg hkey, contents_cons]
        exact ((hset tree).append_left _).trans (List.perm_append_comm_assoc _ _ _)

/-! ## Tidy trees -/

/-- No key stands twice, and no folder inside is empty, at any depth. -/
inductive Tidy : List (String × UrlTree) → Prop
  | nil : Tidy []
  | url {key path rest} : key ∉ Entries.keys rest → Tidy rest → Tidy ((key, .url path) :: rest)
  | folder {key inner rest} : key ∉ Entries.keys rest → inner ≠ [] → Tidy inner → Tidy rest →
      Tidy ((key, .folder inner) :: rest)

theorem Tidy.keys_nodup {entries : List (String × UrlTree)} (h : Tidy entries) :
    (Entries.keys entries).Nodup := by
  induction h with
  | nil => exact .nil
  | url hk _ ih => exact List.nodup_cons.2 ⟨hk, ih⟩
  | folder hk _ _ _ _ ih => exact List.nodup_cons.2 ⟨hk, ih⟩

theorem Tidy.of_mem {entries inner : List (String × UrlTree)} {key : String} (h : Tidy entries)
    (hmem : (key, .folder inner) ∈ entries) : inner ≠ [] ∧ Tidy inner := by
  induction h with
  | nil => simp at hmem
  | url _ _ ih =>
    rcases List.mem_cons.1 hmem with heq | hmem
    · cases heq
    · exact ih hmem
  | folder _ hne hinner _ _ ih =>
    rcases List.mem_cons.1 hmem with heq | hmem
    · cases heq; exact ⟨hne, hinner⟩
    · exact ih hmem

theorem Tidy.tail {e : String × UrlTree} {rest : List (String × UrlTree)}
    (h : Tidy (e :: rest)) : Tidy rest := by
  cases h with
  | url _ hrest => exact hrest
  | folder _ _ _ hrest => exact hrest

theorem Tidy.cons {key : String} {tree : UrlTree} {rest : List (String × UrlTree)}
    (hkey : key ∉ Entries.keys rest) (hrest : Tidy rest)
    (hinner : ∀ inner, tree = .folder inner → inner ≠ [] ∧ Tidy inner) :
    Tidy ((key, tree) :: rest) := by
  cases tree with
  | url path => exact .url hkey hrest
  | folder inner =>
    obtain ⟨hne, htidy⟩ := hinner inner rfl
    exact .folder hkey hne htidy hrest

theorem Tidy.perm {xs ys : List (String × UrlTree)} (h : xs.Perm ys) (hx : Tidy xs) : Tidy ys := by
  have hnodup : (Entries.keys ys).Nodup := (h.map _).nodup_iff.1 hx.keys_nodup
  have hfolders : ∀ key inner, (key, UrlTree.folder inner) ∈ ys → inner ≠ [] ∧ Tidy inner :=
    fun key inner hmem => hx.of_mem (h.mem_iff.2 hmem)
  clear h hx
  induction ys with
  | nil => exact .nil
  | cons e rest ih =>
    obtain ⟨k, t⟩ := e
    obtain ⟨hk, hrest⟩ := List.nodup_cons.1 hnodup
    refine .cons hk (ih hrest fun key inner hmem => ?_) fun inner ht => ?_
    · exact hfolders key inner (List.mem_cons_of_mem _ hmem)
    · subst ht; exact hfolders k inner List.mem_cons_self

/-- Writing a key keeps a tree tidy if what is written is tidy and not empty. -/
theorem Tidy.set {entries : List (String × UrlTree)} {key : String} {tree : UrlTree}
    (h : Tidy entries) (hinner : ∀ inner, tree = .folder inner → inner ≠ [] ∧ Tidy inner) :
    Tidy (Entries.set entries key tree) := by
  induction entries with
  | nil => exact .cons (by simp [Entries.keys]) .nil hinner
  | cons e rest ih =>
    obtain ⟨k, t⟩ := e
    have hk := (List.nodup_cons.1 h.keys_nodup).1
    rw [Entries.set]
    split
    · exact .cons hk h.tail hinner
    · next hne =>
      refine .cons (fun hmem => ?_) (ih h.tail) fun inner ht => ?_
      · rcases Entries.mem_keys_set.1 hmem with heq | hmem
        · exact hne heq
        · exact hk hmem
      · subst ht; exact h.of_mem List.mem_cons_self

theorem Tidy.contents_ne_nil {entries : List (String × UrlTree)} (h : Tidy entries)
    (hne : entries ≠ []) : contents entries ≠ [] := by
  induction h with
  | nil => exact absurd rfl hne
  | url => simp [contents, leavesOf]
  | folder _ hinner _ _ ih => simp [contents, leavesOf, ih hinner]

/-! ## Keys at every depth -/

mutual

/-- The keys inside of a tree. -/
def keysOf : UrlTree → List String
  | .url _ => []
  | .folder entries => allKeys entries

/-- The keys of a folder's entries, and those inside of them. -/
def allKeys : List (String × UrlTree) → List String
  | [] => []
  | (key, tree) :: rest => key :: (keysOf tree ++ allKeys rest)

end

/-- Each key leads to a leaf. -/
theorem Tidy.mem_allKeys_iff {entries : List (String × UrlTree)} (h : Tidy entries)
    {key : String} : key ∈ allKeys entries ↔ ∃ leaf ∈ contents entries, key ∈ leaf.1 := by
  induction h with
  | nil => simp [allKeys, contents]
  | @url k path rest _ _ ih =>
    rw [allKeys, contents_cons, keysOf, List.nil_append, List.mem_cons, ih]
    simp [leavesUnder, leavesOf, under]
  | @folder k inner rest _ hne hinner _ ihinner ih =>
    obtain ⟨first, hfirst⟩ := List.exists_mem_of_ne_nil _ (hinner.contents_ne_nil hne)
    have hunder : leavesUnder k (some (.folder inner)) = (contents inner).map (under k) := rfl
    rw [allKeys, contents_cons, keysOf, List.mem_cons, List.mem_append, ihinner, ih, hunder]
    constructor
    · rintro (rfl | ⟨leaf, hleaf, hkey⟩ | ⟨leaf, hleaf, hkey⟩)
      · exact ⟨_, List.mem_append_left _ (List.mem_map_of_mem hfirst), List.mem_cons_self⟩
      · exact ⟨_, List.mem_append_left _ (List.mem_map_of_mem hleaf), List.mem_cons_of_mem _ hkey⟩
      · exact ⟨leaf, List.mem_append_right _ hleaf, hkey⟩
    · rintro ⟨leaf, hleaf, hkey⟩
      rcases List.mem_append.1 hleaf with hleaf | hleaf
      · obtain ⟨l, hl, rfl⟩ := List.mem_map.1 hleaf
        exact (List.mem_cons.1 hkey).imp_right fun hkey => Or.inl ⟨l, hl, hkey⟩
      · exact Or.inr (Or.inr ⟨leaf, hleaf, hkey⟩)

/-! ## The order of keys -/

/-- Trees that differ in nothing but the order of their keys, at any depth. -/
inductive SameUpToOrder : List (String × UrlTree) → List (String × UrlTree) → Prop
  | nil : SameUpToOrder [] []
  | url {key path xs ys} : SameUpToOrder xs ys →
      SameUpToOrder ((key, .url path) :: xs) ((key, .url path) :: ys)
  | folder {key inner inner' xs ys} : SameUpToOrder inner inner' → SameUpToOrder xs ys →
      SameUpToOrder ((key, .folder inner) :: xs) ((key, .folder inner') :: ys)
  | swap (a b xs) : SameUpToOrder (a :: b :: xs) (b :: a :: xs)
  | trans {xs ys zs} : SameUpToOrder xs ys → SameUpToOrder ys zs → SameUpToOrder xs zs

mutual

theorem SameUpToOrder.consSame (key : String) : ∀ (tree : UrlTree)
    {xs ys : List (String × UrlTree)}, SameUpToOrder xs ys →
      SameUpToOrder ((key, tree) :: xs) ((key, tree) :: ys)
  | .url _, _, _, h => .url h
  | .folder inner, _, _, h => .folder (SameUpToOrder.refl inner) h

theorem SameUpToOrder.refl : ∀ entries : List (String × UrlTree), SameUpToOrder entries entries
  | [] => .nil
  | (key, tree) :: rest => SameUpToOrder.consSame key tree (SameUpToOrder.refl rest)

end

theorem SameUpToOrder.of_perm {xs ys : List (String × UrlTree)} (h : xs.Perm ys) :
    SameUpToOrder xs ys := by
  induction h with
  | nil => exact .nil
  | cons e _ ih => exact .consSame e.1 e.2 ih
  | swap a b rest => exact .swap b a rest
  | trans _ _ ih₁ ih₂ => exact .trans ih₁ ih₂

/-- The leaves whose first key is given are those of the tree at that key. -/
theorem cons_mem_contents_iff {entries : List (String × UrlTree)} {key path : String}
    {keys : List String} (hnodup : (Entries.keys entries).Nodup) :
    (key :: keys, path) ∈ contents entries ↔
      ∃ tree, Entries.get? entries key = some tree ∧ (keys, path) ∈ leavesOf tree := by
  obtain ⟨rest, hrest, hperm, -⟩ := exists_contents_rest key hnodup
  rw [hperm.mem_iff, List.mem_append]
  constructor
  · rintro (h | h)
    · obtain ⟨leaf, hleaf, heq⟩ := List.mem_map.1 h
      simp only [under, Prod.mk.injEq, List.cons.injEq, true_and] at heq
      obtain ⟨rfl, rfl⟩ := heq
      cases hget : Entries.get? entries key with
      | none => simp [hget] at hleaf
      | some tree => exact ⟨tree, rfl, by simpa [hget] using hleaf⟩
    · exact absurd rfl (hrest _ h)
  · rintro ⟨tree, hget, hleaf⟩
    rw [hget]
    exact Or.inl (List.mem_map.2 ⟨_, hleaf, rfl⟩)

/-- Of two lists put together by the first key, the parts with that key are the
    same up to order if the whole is. -/
theorem perm_of_map_under_append {key : String} {xs ys rest rest' : List (List String × String)}
    (hrest : ∀ leaf ∈ rest, leaf.1.head? ≠ some key)
    (hrest' : ∀ leaf ∈ rest', leaf.1.head? ≠ some key)
    (h : (xs.map (under key) ++ rest).Perm (ys.map (under key) ++ rest')) : xs.Perm ys := by
  have hpart : ∀ (zs zrest : List (List String × String)),
      (∀ leaf ∈ zrest, leaf.1.head? ≠ some key) →
      ((zs.map (under key) ++ zrest).filter fun leaf => leaf.1.head? = some key).map
        (fun leaf => (leaf.1.tail, leaf.2)) = zs := by
    intro zs zrest hz
    have hnone : zrest.filter (fun leaf => decide (leaf.1.head? = some key)) = [] :=
      List.filter_eq_nil_iff.2 fun leaf hleaf => by simpa using hz leaf hleaf
    rw [List.filter_append, hnone, List.append_nil, List.filter_map, List.map_map]
    simp [Function.comp_def, under]
  have := (h.filter fun leaf => leaf.1.head? = some key).map
    (fun leaf : List String × String => (leaf.1.tail, leaf.2))
  rwa [hpart xs rest hrest, hpart ys rest' hrest'] at this

theorem head?_ne_of_mem_contents {entries : List (String × UrlTree)} {key : String}
    (h : key ∉ Entries.keys entries) : ∀ leaf ∈ contents entries, leaf.1.head? ≠ some key := by
  intro leaf hleaf hhead
  obtain ⟨k, hk, hhead'⟩ := head?_of_mem_contents hleaf
  rw [hhead, Option.some.injEq] at hhead'
  exact h (hhead' ▸ hk)

theorem exists_perm_cons_of_get? {entries : List (String × UrlTree)} {key : String}
    {tree : UrlTree} (h : Entries.get? entries key = some tree) :
    ∃ others, entries.Perm ((key, tree) :: others) := by
  obtain ⟨before, after, rfl⟩ := List.append_of_mem (Entries.mem_of_get? h)
  exact ⟨before ++ after, List.perm_middle⟩

/-- **The contents determine a tidy tree** up to the order of its keys. -/
theorem sameUpToOrder_of_contents_perm {xs ys : List (String × UrlTree)} (hx : Tidy xs)
    (hy : Tidy ys) (h : (contents xs).Perm (contents ys)) : SameUpToOrder xs ys := by
  induction hx generalizing ys with
  | nil =>
    by_cases hnil : ys = []
    · subst hnil; exact .nil
    · exact absurd (List.nil_perm.1 h) (hy.contents_ne_nil hnil)
  | @url key path rest hkey _ ih =>
    have hmem : ([key], path) ∈ contents ys :=
      h.mem_iff.1 (by simp [contents, leavesOf, under])
    obtain ⟨tree, hget, hleaf⟩ := (cons_mem_contents_iff hy.keys_nodup).1 hmem
    obtain rfl := eq_url_of_nil_mem_leavesOf hleaf
    obtain ⟨others, hperm⟩ := exists_perm_cons_of_get? hget
    refine .trans (.url (ih (hy.perm hperm).tail ?_)) (.of_perm hperm.symm)
    have hall := h.trans (contents_perm hperm)
    rwa [contents_cons, contents_cons, List.perm_append_left_iff] at hall
  | @folder key inner rest hkey hne hinner _ ihinner ih =>
    -- some leaf of the folder is a leaf of the other tree, so the key is a folder there too
    obtain ⟨⟨keys, path⟩, hleaf⟩ := List.exists_mem_of_ne_nil _ (hinner.contents_ne_nil hne)
    have hmem : (key :: keys, path) ∈ contents ys := by
      refine h.mem_iff.1 ?_
      rw [contents, leavesOf]
      exact List.mem_append_left _ (List.mem_map.2 ⟨_, hleaf, rfl⟩)
    obtain ⟨tree, hget, hleaf'⟩ := (cons_mem_contents_iff hy.keys_nodup).1 hmem
    obtain ⟨inner', rfl⟩ := exists_folder_of_mem_leavesOf (ne_nil_of_mem_contents hleaf) hleaf'
    obtain ⟨others, hperm⟩ := exists_perm_cons_of_get? hget
    have hy' := hy.perm hperm
    have hall := h.trans (contents_perm hperm)
    have hothers : key ∉ Entries.keys others := (List.nodup_cons.1 hy'.keys_nodup).1
    have hperm' : (contents inner).Perm (contents inner') := by
      rw [contents, contents, leavesOf, leavesOf] at hall
      exact perm_of_map_under_append (head?_ne_of_mem_contents hkey)
        (head?_ne_of_mem_contents hothers) hall
    have htail : (contents rest).Perm (contents others) := by
      rw [contents_cons, contents_cons] at hall
      refine (List.perm_append_left_iff _).1 ((List.Perm.append_right _ ?_).trans hall)
      exact (hperm'.symm.map _)
    exact .trans (.folder (ihinner (hy'.of_mem List.mem_cons_self).2 hperm')
      (ih hy'.tail htail)) (.of_perm hperm.symm)

end UrlTree

end ApiTypes
