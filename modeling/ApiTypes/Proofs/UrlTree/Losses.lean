/-
  URLs that are lost.

  A URL whose keys lead to a folder goes into the folder under `_self`.  Nothing
  keeps the segment `_self` out of paths, so there may already be a folder with
  URLs of other endpoints at this key; these are overwritten.

  * `exists_pushed_insert` is the step: inserting an endpoint adds its leaf,
    removes the leaves in its way (`InTheWay`) and pushes others down, under
    `_self` as often as needed (`Pushed`);
  * `lasting`: the endpoints whose folder does not start with the keys of one behind
    them and `_self`;
  * `stacked_build` is the run: these endpoints keep their leaves, and there are no
    others;
  * `forall_mem_allKeys_build_iff`: the keys of the tree, at any depth, are theirs.
-/
import ApiTypes.Proofs.Generation
import ApiTypes.Proofs.NameText
import ApiTypes.Proofs.UrlTree.Build
import Mathlib.Data.Multiset.ZeroCons
import Mathlib.Data.Multiset.Filter

namespace ApiTypes.UrlTree

variable {entries : List (String × UrlTree)} {segment name path : String}
  {keys rest : List String} {leaf leaf' : List String × String}

/-! ## What an insertion does to a leaf -/

/-- A leaf stands where a URL with the given keys is put. -/
def InTheWay (keys : List String) (leaf : List String × String) : Prop :=
  leaf.1 = keys ∨ keys ++ [selfKey] <+: leaf.1

instance (keys : List String) : DecidablePred (InTheWay keys) := fun leaf =>
  inferInstanceAs (Decidable (leaf.1 = keys ∨ keys ++ [selfKey] <+: leaf.1))

/-- A leaf has been moved under `_self`, perhaps several times or not at all. -/
def Pushed (leaf leaf' : List String × String) : Prop :=
  leaf'.2 = leaf.2 ∧ ∃ n, leaf'.1 = leaf.1 ++ List.replicate n selfKey

theorem Pushed.refl (leaf : List String × String) : Pushed leaf leaf := ⟨rfl, 0, by simp⟩

theorem Pushed.under (h : Pushed leaf leaf') (segment : String) :
    Pushed (under segment leaf) (under segment leaf') := by
  obtain ⟨hpath, n, hkeys⟩ := h
  exact ⟨hpath, n, by simp [UrlTree.under, hkeys]⟩

theorem Pushed.trans {leaf'' : List String × String} (h : Pushed leaf leaf')
    (h' : Pushed leaf' leaf'') : Pushed leaf leaf'' := by
  obtain ⟨hpath, m, hkeys⟩ := h
  obtain ⟨hpath', n, hkeys'⟩ := h'
  refine ⟨hpath'.trans hpath, m + n, ?_⟩
  rw [hkeys', hkeys, List.append_assoc, List.replicate_append_replicate]

theorem inTheWay_under : InTheWay (segment :: keys) (under segment leaf) ↔ InTheWay keys leaf := by
  simp [InTheWay, under, List.cons_prefix_cons]

/-- A leaf under another first key is not in the way. -/
theorem not_inTheWay_of_head? (h : leaf.1.head? ≠ some segment) :
    ¬ InTheWay (segment :: keys) leaf := by
  rintro (he | ⟨more, he⟩)
  · exact h (by rw [he]; rfl)
  · exact h (by rw [← he]; rfl)

/-- Of two relations between lists in no order, one after the other. -/
theorem rel_comp {α β γ : Type} {r : α → β → Prop} {q : β → γ → Prop} {p : α → γ → Prop}
    (hcomp : ∀ a b c, r a b → q b c → p a c) {s : Multiset α} {t : Multiset β} {u : Multiset γ}
    (h : Multiset.Rel r s t) (h' : Multiset.Rel q t u) : Multiset.Rel p s u := by
  induction h generalizing u with
  | zero =>
    rw [Multiset.rel_zero_left.1 h']
    exact .zero
  | cons hab _ ih =>
    obtain ⟨c, rest, hbc, hrest, rfl⟩ := Multiset.rel_cons_left.1 h'
    exact .cons (hcomp _ _ _ hab hbc) (ih hrest)

/-- Of two related lists in no order, the parts that are picked alike are related. -/
theorem rel_filter {α β : Type} {r : α → β → Prop} {p : α → Prop} {q : β → Prop}
    [DecidablePred p] [DecidablePred q] {s : Multiset α} {t : Multiset β}
    (h : Multiset.Rel r s t) (hpq : ∀ a ∈ s, ∀ b, r a b → (p a ↔ q b)) :
    Multiset.Rel r (s.filter p) (t.filter q) := by
  induction h with
  | zero => exact .zero
  | @cons a b s t hab _ ih =>
    have hrest := ih fun x hx => hpq x (Multiset.mem_cons_of_mem hx)
    have hiff := hpq a (Multiset.mem_cons_self a s) b hab
    by_cases ha : p a
    · rw [Multiset.filter_cons_of_pos _ ha, Multiset.filter_cons_of_pos _ (hiff.1 ha)]
      exact .cons hab hrest
    · rwa [Multiset.filter_cons_of_neg _ ha, Multiset.filter_cons_of_neg _ (mt hiff.2 ha)]

/-! ## The leaves that stay -/

/-- The leaves that are not in the way of a URL. -/
def kept (keys : List String) (leaves : List (List String × String)) :
    Multiset (List String × String) :=
  (Multiset.ofList leaves).filter (¬ InTheWay keys ·)

theorem kept_append (keys : List String) (leaves more : List (List String × String)) :
    kept keys (leaves ++ more) = kept keys leaves + kept keys more := by
  rw [kept, ← Multiset.coe_add, Multiset.filter_add]; rfl

theorem kept_perm {leaves leaves' : List (List String × String)} (h : leaves.Perm leaves') :
    kept keys leaves = kept keys leaves' := by
  rw [kept, Multiset.coe_eq_coe.2 h]; rfl

theorem kept_eq_zero {leaves : List (List String × String)}
    (h : ∀ leaf ∈ leaves, InTheWay keys leaf) : kept keys leaves = 0 :=
  Multiset.filter_eq_nil.2 fun leaf hleaf => not_not.2 (h leaf hleaf)

theorem kept_eq_self {leaves : List (List String × String)}
    (h : ∀ leaf ∈ leaves, ¬ InTheWay keys leaf) : kept keys leaves = Multiset.ofList leaves :=
  Multiset.filter_eq_self.2 h

theorem kept_map_under (keys : List String) (leaves : List (List String × String)) :
    kept (segment :: keys) (leaves.map (under segment)) =
      (kept keys leaves).map (under segment) := by
  have hsame : (¬ InTheWay (segment :: keys) ·) ∘ under segment = (¬ InTheWay keys ·) :=
    funext fun leaf => congrArg Not (propext inTheWay_under)
  rw [kept, kept, ← Multiset.map_coe, Multiset.filter_map]
  simp only [hsame]

/-- When an entry becomes a folder, its leaves stay where they are, or the URL that it
    was is pushed down. -/
theorem pushed_asFolder (segment : String) (hself : keys ≠ [selfKey]) (hne : keys ≠ [])
    (tree : Option UrlTree) :
    Multiset.Rel (fun leaf leaf' => Pushed leaf (under segment leaf'))
      (kept (segment :: keys) (leavesUnder segment tree)) (kept keys (contents (asFolder tree))) := by
  cases tree with
  | none => exact .zero
  | some tree =>
    cases tree with
    | folder inner =>
      have hunder : leavesUnder segment (some (.folder inner)) =
          (contents inner).map (under segment) := rfl
      rw [hunder, kept_map_under, Multiset.rel_map_left, asFolder]
      exact Multiset.rel_refl_of_refl_on fun leaf _ => Pushed.refl _
    | url p =>
      have hstay : ∀ leaf ∈ [([segment], p)], ¬ InTheWay (segment :: keys) leaf := by
        simp [InTheWay, List.cons_prefix_cons, hne.symm]
      have hfree : ∀ leaf ∈ [([selfKey], p)], ¬ InTheWay keys leaf := by
        refine List.forall_mem_singleton.2 ?_
        rintro (he | hp)
        · exact hself he.symm
        · have := hp.length_le
          simp [hne] at this
      have hleaf : leavesUnder segment (some (.url p)) = [([segment], p)] := rfl
      have hdown : contents (asFolder (some (.url p))) = [([selfKey], p)] := rfl
      rw [hleaf, hdown, kept_eq_self hstay, kept_eq_self hfree]
      exact .cons ⟨rfl, 1, rfl⟩ .zero

/-! ## One endpoint -/

/-- Apart from the leaves under its first key, a URL has none in its way. -/
theorem exists_others (h : Tidy entries) (key : String) (keys : List String) :
    ∃ others, kept (key :: keys) (contents entries) =
        kept (key :: keys) (leavesUnder key (Entries.get? entries key)) + others ∧
      ∀ tree, Multiset.ofList (contents (Entries.set entries key tree)) =
        Multiset.ofList (leavesUnder key (some tree)) + others := by
  obtain ⟨others, hothers, hperm, hset⟩ := exists_contents_rest key h.keys_nodup
  refine ⟨others, ?_, fun tree => Multiset.coe_eq_coe.2 (hset tree)⟩
  rw [kept_perm hperm, kept_append,
    kept_eq_self fun leaf hleaf => not_inTheWay_of_head? (hothers leaf hleaf)]

/-- In a folder, the folder's own URL replaces what is under `_self`. -/
theorem leavesUnder_set_self {inner : List (String × UrlTree)} (h : Tidy inner)
    (name path : String) :
    Multiset.ofList (leavesUnder name (some (.folder (Entries.set inner selfKey (.url path))))) =
      ([name, selfKey], path) ::ₘ kept [name] (leavesUnder name (some (.folder inner))) := by
  obtain ⟨others, hothers, hperm, hset⟩ := exists_contents_rest selfKey h.keys_nodup
  have hunder (entries : List (String × UrlTree)) :
      leavesUnder name (some (.folder entries)) = (contents entries).map (under name) := rfl
  have hgone : ∀ leaf ∈ leavesUnder selfKey (Entries.get? inner selfKey), InTheWay [] leaf := by
    intro leaf hleaf
    obtain ⟨l, -, rfl⟩ := List.mem_map.1 hleaf
    exact Or.inr (by simp [under])
  have hstay : ∀ leaf ∈ others, ¬ InTheWay [] leaf := by
    rintro leaf hleaf (he | ⟨more, he⟩)
    · exact ne_nil_of_mem_contents (hperm.mem_iff.2 (List.mem_append_right _ hleaf)) he
    · exact hothers leaf hleaf (by rw [← he]; rfl)
  rw [hunder, hunder, kept_map_under, kept_perm hperm, kept_append, kept_eq_zero hgone,
    Multiset.zero_add,
    kept_eq_self hstay, ← Multiset.map_coe, Multiset.coe_eq_coe.2 (hset _), ← Multiset.coe_add,
    Multiset.map_add]
  rfl

theorem exists_place_insert_nil (h : Tidy entries) (name path : String) :
    ∃ n, Multiset.ofList (contents (insert entries [] name path)) =
        (name :: List.replicate n selfKey, path) ::ₘ kept [name] (contents entries) := by
  obtain ⟨others, hkept, hset⟩ := exists_others h name []
  have hleaf (p : String) : leavesUnder name (some (.url p)) = [([name], p)] := rfl
  cases hget : Entries.get? entries name with
  | none =>
    refine ⟨0, ?_⟩
    rw [hkept, hget, insert, hget, hset, hleaf, leavesUnder, kept_eq_zero (by simp),
      Multiset.zero_add]
    rfl
  | some tree =>
    cases tree with
    | url p =>
      have hgone : ∀ leaf ∈ [([name], p)], InTheWay [name] leaf :=
        List.forall_mem_singleton.2 (Or.inl rfl)
      refine ⟨0, ?_⟩
      rw [hkept, hget, insert, hget, hset, hleaf, hleaf, kept_eq_zero hgone, Multiset.zero_add]
      rfl
    | folder inner =>
      refine ⟨1, ?_⟩
      have hinner := (h.of_mem (Entries.mem_of_get? hget)).2
      rw [hkept, hget, insert, hget, hset, leavesUnder_set_self hinner, Multiset.cons_add]
      rfl

/-- **The step.**  Inserting an endpoint adds its leaf, pushes others down and removes
    those in its way. -/
theorem exists_pushed_insert {name path : String} : ∀ {segments : List String}
    {entries : List (String × UrlTree)}, (name = selfKey → segments = []) → Tidy entries →
      ∃ n pushed, Multiset.Rel Pushed (kept (segments ++ [name]) (contents entries)) pushed ∧
        Multiset.ofList (contents (insert entries segments name path)) =
          (segments ++ [name] ++ List.replicate n selfKey, path) ::ₘ pushed
  | [], entries, _, h => by
    obtain ⟨n, hcontents⟩ := exists_place_insert_nil h name path
    exact ⟨n, _, Multiset.rel_refl_of_refl_on fun leaf _ => Pushed.refl leaf, hcontents⟩
  | segment :: rest, entries, houtside, h => by
    have hname : name ≠ selfKey := fun he => List.cons_ne_nil _ _ (houtside he)
    obtain ⟨others, hkept, hset⟩ := exists_others h segment (rest ++ [name])
    obtain ⟨n, pushed, hpushed, hcontents⟩ :=
      @exists_pushed_insert name path rest _ (fun he => absurd he hname) (tidy_asFolder h segment)
    have hself : rest ++ [name] ≠ [selfKey] := fun he =>
      hname (by simpa using congrArg List.getLast? he)
    refine ⟨n, pushed.map (under segment) + others, ?_, ?_⟩
    · have hdown := pushed_asFolder segment hself (by simp) (Entries.get? entries segment)
      rw [List.cons_append, hkept]
      refine Multiset.Rel.add ?_ (Multiset.rel_refl_of_refl_on fun leaf _ => Pushed.refl leaf)
      rw [Multiset.rel_map_right]
      exact rel_comp (fun leaf leaf' leaf'' h h' => h.trans (h'.under segment)) hdown hpushed
    · have hunder (entries : List (String × UrlTree)) :
          leavesUnder segment (some (.folder entries)) = (contents entries).map (under segment) := rfl
      rw [insert, hset, hunder, ← Multiset.map_coe, hcontents, Multiset.map_cons,
        Multiset.cons_add]
      rfl

/-! ## All endpoints -/

/-- Only outside of all folders an endpoint has the name that is reserved. -/
def Leaf.SelfOutside (leaf : Leaf) : Prop := leaf.name = selfKey → segments leaf.folder = []

/-- A leaf is that of an endpoint, at its keys or under `_self` behind them. -/
def Stacked (leaf : Leaf) (l : List String × String) : Prop :=
  l.2 = leaf.path ∧ ∃ n, l.1 = leaf.keys ++ List.replicate n selfKey

/-- The URL of an endpoint takes the place of another's, whose folder starts with its
    keys and `_self`. -/
def Overwrites (leaf other : Leaf) : Prop := leaf.keys ++ [selfKey] <+: segments other.folder

section

variable {leaf other : Leaf} {l : List String × String}

theorem keys_eq_of_eq_append (hleaf : leaf.SelfOutside) {n : Nat}
    (h : leaf.keys = other.keys ++ List.replicate n selfKey) : leaf.keys = other.keys := by
  cases n with
  | zero => simpa using h
  | succ n =>
    rw [List.replicate_succ', ← List.append_assoc] at h
    obtain ⟨hfolder, hname⟩ := List.append_inj' h rfl
    have houtside := hleaf (List.cons.inj hname).1
    rw [houtside] at hfolder
    simp [Leaf.keys] at hfolder

/-- What is in the way of an endpoint's URL is in its folder under `_self`. -/
theorem inTheWay_iff_overwrites (hleaf : leaf.SelfOutside) (hother : other.SelfOutside)
    (hne : leaf.keys ≠ other.keys) (h : Stacked other l) :
    InTheWay leaf.keys l ↔ Overwrites leaf other := by
  obtain ⟨-, n, hl⟩ := h
  have hfolder : segments other.folder <+: l.1 := by
    rw [hl, Leaf.keys, List.append_assoc]
    exact List.prefix_append _ _
  constructor
  · rintro (he | hp)
    · exact absurd (keys_eq_of_eq_append hleaf (he.symm.trans hl)) hne
    · refine List.prefix_of_prefix_length_le hp hfolder ?_
      by_contra hlong
      -- otherwise the keys of the one are those of the other with `_self` behind them
      have hkeys : other.keys <+: leaf.keys ++ [selfKey] := by
        refine List.prefix_of_prefix_length_le (hl ▸ List.prefix_append _ _) hp ?_
        simp [Leaf.keys] at hlong ⊢
        omega
      rcases List.prefix_concat_iff.1 hkeys with he | ⟨more, he⟩
      · have hname : other.name = selfKey := by
          simpa [Leaf.keys] using congrArg List.getLast? he
        have := congrArg List.length he
        simp [Leaf.keys, hother hname] at this
      · rw [← he, hl, List.append_assoc, List.prefix_append_right_inj] at hp
        have hmore : more = List.replicate more.length selfKey := List.eq_replicate_of_mem
          fun key hkey => List.eq_of_mem_replicate (hp.subset (List.mem_append_left _ hkey))
        exact hne (keys_eq_of_eq_append hleaf (he.symm.trans (by rw [← hmore])))
  · exact fun hp => Or.inr (hp.trans hfolder)

theorem Stacked.pushed {l' : List String × String} (h : Stacked leaf l) (h' : Pushed l l') :
    Stacked leaf l' := by
  obtain ⟨hpath, m, hkeys⟩ := h
  obtain ⟨hpath', n, hkeys'⟩ := h'
  refine ⟨hpath'.trans hpath, m + n, ?_⟩
  rw [hkeys', hkeys, List.append_assoc, List.replicate_append_replicate]

end

variable {all : List Leaf}

instance (leaf : Leaf) : DecidablePred (Overwrites leaf) := fun other =>
  inferInstanceAs (Decidable (leaf.keys ++ [selfKey] <+: segments other.folder))

/-- The endpoints whose URL is not replaced by that of a later one. -/
def lasting : List Leaf → List Leaf
  | [] => []
  | leaf :: rest =>
    if ∃ later ∈ rest, Overwrites later leaf then lasting rest else leaf :: lasting rest

theorem lasting_sublist : ∀ all : List Leaf, (lasting all).Sublist all
  | [] => .slnil
  | leaf :: rest => by
    rw [lasting]
    split
    · exact (lasting_sublist rest).cons leaf
    · exact (lasting_sublist rest).cons_cons leaf

theorem lasting_eq_self_iff :
    lasting all = all ↔ all.Pairwise fun earlier later => ¬ Overwrites later earlier := by
  induction all with
  | nil => exact iff_of_true rfl .nil
  | cons leaf rest ih =>
    rw [lasting, List.pairwise_cons, ← ih]
    split
    · next hgone =>
      refine iff_of_false (fun he => ?_) fun h => ?_
      · have hle := (lasting_sublist rest).length_le
        rw [he, List.length_cons] at hle
        omega
      · obtain ⟨later, hlater, hover⟩ := hgone
        exact h.1 later hlater hover
    · next hstays =>
      simp only [not_exists, not_and] at hstays
      rw [List.cons.injEq, eq_self, true_and]
      exact ⟨fun h => ⟨hstays, h⟩, And.right⟩

/-- A further endpoint lasts, and replaces the URLs of others. -/
theorem lasting_concat (all : List Leaf) (leaf : Leaf) :
    lasting (all ++ [leaf]) = (lasting all).filter (¬ Overwrites leaf ·) ++ [leaf] := by
  induction all with
  | nil => simp [lasting]
  | cons first rest ih =>
    have hiff : (∃ later ∈ rest ++ [leaf], Overwrites later first) ↔
        (∃ later ∈ rest, Overwrites later first) ∨ Overwrites leaf first := by
      simp only [List.mem_append, List.mem_singleton, or_and_right, exists_or, exists_eq_left]
    rw [List.cons_append, lasting, lasting, ih]
    by_cases hrest : ∃ later ∈ rest, Overwrites later first
    · rw [if_pos (hiff.2 (Or.inl hrest)), if_pos hrest]
    · by_cases hleaf : Overwrites leaf first
      · rw [if_pos (hiff.2 (Or.inr hleaf)), if_neg hrest, List.filter_cons_of_neg (by simpa)]
      · rw [if_neg (mt hiff.1 (not_or.2 ⟨hrest, hleaf⟩)), if_neg hrest,
          List.filter_cons_of_pos (by simpa), List.cons_append]

/-- **The run.**  The leaves of the tree are those of the endpoints that last, one for
    each. -/
theorem stacked_build (hkeys : (all.map Leaf.keys).Nodup)
    (houtside : ∀ leaf ∈ all, leaf.SelfOutside) :
    Multiset.Rel Stacked (Multiset.ofList (lasting all))
      (Multiset.ofList (contents (build all))) := by
  induction all using List.reverseRecOn with
  | nil => exact .zero
  | append_singleton all leaf ih =>
    rw [List.map_append, List.nodup_append] at hkeys
    have hleaf := houtside leaf (by simp)
    have hall : ∀ other ∈ all, other.SelfOutside :=
      fun other hother => houtside other (List.mem_append_left _ hother)
    have hstays : Multiset.Rel Stacked
        (Multiset.ofList ((lasting all).filter (¬ Overwrites leaf ·)))
        (kept leaf.keys (contents (build all))) := by
      rw [← Multiset.filter_coe]
      refine rel_filter (ih hkeys.1 hall) fun other hother l hl => not_congr ?_
      have hmem := (lasting_sublist all).subset hother
      have hne : leaf.keys ≠ other.keys := fun he =>
        hkeys.2.2 _ (List.mem_map_of_mem hmem) _ (by simp) he.symm
      exact (inTheWay_iff_overwrites hleaf (hall other hmem) hne hl).symm
    obtain ⟨n, pushed, hpushed, hcontents⟩ := exists_pushed_insert hleaf (tidy_build all)
    rw [build_concat, hcontents, lasting_concat,
      Multiset.coe_eq_coe.2 (List.perm_append_singleton leaf _), ← Multiset.cons_coe]
    refine .cons ⟨rfl, n, rfl⟩ ?_
    exact rel_comp (fun leaf l l' hl hl' => hl.pushed hl') hstays hpushed

/-- **The URLs of the tree** are those of the endpoints, each as often as there, exactly
    if no endpoint comes behind one whose URL it overwrites. -/
theorem urls_build_perm_iff (hkeys : (all.map Leaf.keys).Nodup)
    (houtside : ∀ leaf ∈ all, leaf.SelfOutside) :
    ((contents (build all)).map Prod.snd).Perm (all.map Leaf.path) ↔
      all.Pairwise fun earlier later => ¬ Overwrites later earlier := by
  have hstacked := stacked_build hkeys houtside
  rw [← lasting_eq_self_iff]
  refine ⟨fun h => ?_, fun h => ?_⟩
  · refine (lasting_sublist all).eq_of_length ?_
    have hcard := Multiset.card_eq_card_of_rel hstacked
    rw [Multiset.coe_card, Multiset.coe_card] at hcard
    simpa [hcard] using h.length_eq
  · rw [h] at hstacked
    rw [← Multiset.coe_eq_coe, ← Multiset.map_coe, ← Multiset.map_coe, ← Multiset.rel_eq,
      Multiset.rel_map]
    exact (Multiset.rel_flip.2 hstacked).mono fun l _ leaf _ hl => hl.1

/-- **The keys of the tree**, at any depth, are the reserved one and those of the
    endpoints that last. -/
theorem forall_mem_allKeys_build_iff {P : String → Prop} (hself : P selfKey)
    (hkeys : (all.map Leaf.keys).Nodup) (houtside : ∀ leaf ∈ all, leaf.SelfOutside) :
    (∀ key ∈ allKeys (build all), P key) ↔ ∀ leaf ∈ lasting all, ∀ key ∈ leaf.keys, P key := by
  have hstacked := stacked_build hkeys houtside
  constructor
  · intro h leaf hleaf key hkey
    obtain ⟨l, hl, -, n, hn⟩ := Multiset.exists_mem_of_rel_of_mem hstacked hleaf
    refine h key (((tidy_build all).mem_allKeys_iff).2 ⟨l, hl, ?_⟩)
    rw [hn]
    exact List.mem_append_left _ hkey
  · intro h key hkey
    obtain ⟨l, hl, hkey⟩ := ((tidy_build all).mem_allKeys_iff).1 hkey
    obtain ⟨leaf, hleaf, -, n, hn⟩ :=
      Multiset.exists_mem_of_rel_of_mem (Multiset.rel_flip.2 hstacked) hl
    rw [hn] at hkey
    rcases List.mem_append.1 hkey with hkey | hkey
    · exact h leaf hleaf key hkey
    · rw [List.eq_of_mem_replicate hkey]
      exact hself

end ApiTypes.UrlTree

/-! ## The tree of a generation -/

namespace ApiTypes.Generation

open UrlTree

variable {document skip : Json.Value} {g : Generation}

/-- What the tree of URLs needs to know of an endpoint. -/
def leafOf (e : Endpoint) : Leaf := ⟨e.name, e.folder, e.path⟩

theorem urlTree_eq (h : ofDocument document skip = .ok g) :
    g.urlTree = build (g.endpoints.map leafOf) := by
  obtain ⟨scope, -, h⟩ := Steps.bind_eq_ok.1 h
  obtain ⟨schemas, -, h⟩ := Steps.bind_eq_ok.1 h
  obtain ⟨declared, -, h⟩ := Steps.bind_eq_ok.1 h
  obtain ⟨endpoints, -, h⟩ := Steps.bind_eq_ok.1 h
  obtain ⟨made, -, h⟩ := Steps.bind_eq_ok.1 h
  obtain rfl := Except.ok.inj h
  rfl

theorem nodup_keys (h : ofDocument document skip = .ok g) :
    ((g.endpoints.map leafOf).map Leaf.keys).Nodup := by
  rw [List.map_map]
  refine List.pairwise_map.2 ((List.pairwise_map.1 (nodup_names h)).imp fun hne he => hne ?_)
  exact (Prod.mk.inj (Leaf.keys_inj.1 he)).2

theorem selfOutside (h : ofDocument document skip = .ok g) :
    ∀ leaf ∈ g.endpoints.map leafOf, leaf.SelfOutside := by
  refine List.forall_mem_map.2 fun e he hname => ?_
  obtain ⟨scope, found, operation, pairs, -, -, -, -, hextends, hfolder⟩ :=
    exists_operation_of_mem h he
  have hself : e.name = "_self" := hname
  rw [hself] at hextends
  rw [leafOf, hfolder, hextends.folder_eq_empty]
  rfl

/-- **URLs that are kept.**  The tree of a generation has the URLs of its endpoints, each
    as often as there, exactly if no endpoint comes behind one whose folder starts
    with the other's folder, its name and `_self`. -/
theorem urls_perm_iff (h : ofDocument document skip = .ok g) :
    ((contents g.urlTree).map Prod.snd).Perm (g.endpoints.map Endpoint.path) ↔
      g.endpoints.Pairwise fun earlier later =>
        ¬ segments later.folder ++ [later.name, selfKey] <+: segments earlier.folder := by
  have hiff := urls_build_perm_iff (nodup_keys h) (selfOutside h)
  rw [← urlTree_eq h, List.map_map, List.pairwise_map] at hiff
  simpa [Overwrites, Leaf.keys, leafOf, Function.comp_def] using hiff

/-- A URL that is put into a folder after those of another `_self` below it takes their
    place. -/
theorem urls_lost_self :
    ∃ g, ofDocument (bareDocument ["/a/_self/x", "/a"]) (.int 0) = .ok g ∧
      ¬ ((contents g.urlTree).map Prod.snd).Perm (g.endpoints.map Endpoint.path) := by
  obtain ⟨g, hg, hendpoints, -⟩ := exists_generation_bare ["/a/_self/x", "/a"]
  have hnames : Endpoint.resolve (["/a/_self/x", "/a"].map fun path =>
      (bareOperation path).proposal 0) = ["a__self_x", "a"] := by
    decide +kernel
  rw [hnames] at hendpoints
  refine ⟨g, hg, fun hperm => ?_⟩
  have hlength := hperm.length_eq
  rw [urlTree_eq hg, hendpoints] at hlength
  exact absurd hlength (by decide +kernel)

/-- In the other order both are kept. -/
theorem urls_perm_self :
    ∃ g, ofDocument (bareDocument ["/a", "/a/_self/x"]) (.int 0) = .ok g ∧
      ((contents g.urlTree).map Prod.snd).Perm (g.endpoints.map Endpoint.path) := by
  obtain ⟨g, hg, hendpoints, -⟩ := exists_generation_bare ["/a", "/a/_self/x"]
  have hnames : Endpoint.resolve (["/a", "/a/_self/x"].map fun path =>
      (bareOperation path).proposal 0) = ["a", "a__self_x"] := by
    decide +kernel
  rw [hnames] at hendpoints
  refine ⟨g, hg, (urls_perm_iff hg).2 ?_⟩
  rw [hendpoints]
  decide +kernel

end ApiTypes.Generation
