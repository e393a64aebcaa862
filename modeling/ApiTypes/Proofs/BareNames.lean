/-
  Names that are written as they are.

  The names of endpoints stand in the names of their types, and the keys of the tree of URLs
  before its entries, without quotes.  Both are made of segments of paths, in which hyphens
  become underscores and letters lower case, and of what tells names apart.

  * `Lowered.isIdentifier_eq`: a text in lower case is an identifier exactly if the text is,
    with a k for each Kelvin sign;
  * `isBare_iff_of_extendsBy`: what is added to a name makes no identifier of it, and keeps
    one;
  * `forall_mem_segments_folder_iff`: the segments of a folder are bare if those of the path are;
  * `bare_iff`: all names and keys are bare exactly if the segments of all paths allow it.
-/
import ApiTypes.Proofs.PathNames
import ApiTypes.Proofs.UrlTree.Losses
import ApiTypes.TypeExpr

namespace ApiTypes

/-! ## Identifiers -/

theorem isIdentifier_append {cs : List Char} (hne : cs ≠ []) (ds : List Char) :
    isIdentifier (cs ++ ds) = (isIdentifier cs && ds.all isIdentifierPart) := by
  cases cs with
  | nil => exact absurd rfl hne
  | cons c cs => rw [List.cons_append, isIdentifier, isIdentifier, List.all_append, Bool.and_assoc]

theorem isBare_eq_of_toList {s : String} {cs : List Char} {c : Char} (h : s.toList = cs ++ [c]) :
    isBare s = (isIdentifier (cs ++ [c]) || (c == '\n' && isIdentifier cs)) := by
  rw [isBare, h, List.getLast?_concat, List.dropLast_concat]
  rfl

theorem isBare_of_isIdentifier {s : String} (h : isIdentifier s.toList = true) :
    isBare s = true := by
  rw [isBare, h, Bool.true_or]

/-- Two characters count alike where an identifier is looked for. -/
def Alike (c d : Char) : Prop :=
  isIdentifierStart c = isIdentifierStart d ∧ isIdentifierPart c = isIdentifierPart d ∧
    (c == '\n') = (d == '\n')

/-- A character that ends no line and is in no identifier. -/
def Foreign (c : Char) : Prop := isIdentifierPart c = false ∧ (c == '\n') = false

theorem Foreign.isIdentifierStart_eq {c : Char} (h : Foreign c) : isIdentifierStart c = false :=
  Bool.eq_false_iff.2 fun hstart =>
    Bool.eq_false_iff.1 h.1 (isIdentifierPart_of_isIdentifierStart hstart)

theorem Foreign.alike {c d : Char} (hc : Foreign c) (hd : Foreign d) : Alike c d :=
  ⟨hc.isIdentifierStart_eq.trans hd.isIdentifierStart_eq.symm, hc.1.trans hd.1.symm,
    hc.2.trans hd.2.symm⟩

theorem lt_of_isIdentifierPart {c : Char} (h : isIdentifierPart c = true) : c.toNat < 128 := by
  have hbelow (high : Char) (hle : c.val ≤ high.val) (hhigh : high.toNat < 128) : c.toNat < 128 :=
    lt_of_le_of_lt (UInt32.le_iff_toNat_le.1 hle) hhigh
  simp only [isIdentifierPart, Char.isAlphanum, Bool.or_eq_true, beq_iff_eq] at h
  obtain ((halpha | hdigit) | rfl) | rfl := h
  · rcases Bool.or_eq_true_iff.1 halpha with hupper | hlower
    · exact hbelow 'Z' (of_decide_eq_true hupper).2 (by decide)
    · exact hbelow 'z' (of_decide_eq_true (Bool.and_eq_true_iff.1 hlower).2) (by decide)
  · exact hbelow '9' (of_decide_eq_true (Bool.and_eq_true_iff.1 hdigit).2) (by decide)
  · decide
  · decide

theorem foreign_of_le {c : Char} (h : 128 ≤ c.toNat) : Foreign c := by
  constructor
  · refine Bool.eq_false_iff.2 fun hpart => ?_
    have := lt_of_isIdentifierPart hpart
    omega
  · refine beq_eq_false_iff_ne.2 ?_
    rintro rfl
    exact absurd h (by decide)

/-! ## Lower case -/

namespace Text

/-- The letter k for the Kelvin sign, the one character beyond ASCII that is in ASCII when
    in lower case. -/
def plainLetter (c : Char) : Char := if c = '\u212a' then 'k' else c

theorem alike_toLower : ∀ n < 128, Alike (Char.ofNat n).toLower (Char.ofNat n) := by
  unfold Alike
  decide

/-- Only the Kelvin sign becomes a letter of ASCII. -/
theorem foreign_of_form? {c : Char} {m : Nat} (hc : c ≠ '\u212a')
    (h : CaseTable.form? CaseTable.lowerRuns c.toNat = some m) : Foreign (Char.ofNat m) := by
  rcases le_or_eq_of_form? h with habove | ⟨hkelvin, -⟩
  · by_cases hv : m.isValidChar
    · exact foreign_of_le (by rwa [toNat_ofNat_of_isValidChar hv])
    · rw [Char.ofNat, dif_neg hv]
      exact ⟨by decide, by decide⟩
  · exact absurd (by rw [← Char.ofNat_toNat c, hkelvin]) hc

theorem plainLetter_of_ne {c : Char} (h : c ≠ '\u212a') : plainLetter c = c := if_neg h

/-- Beyond ASCII, what the table gives counts like the character, but for the Kelvin sign. -/
theorem alike_of_le {c : Char} (hc : 128 ≤ c.toNat) :
    Alike (((CaseTable.form? CaseTable.lowerRuns c.toNat).map Char.ofNat).getD c)
      (plainLetter c) := by
  by_cases hkelvin : c = '\u212a'
  · subst hkelvin
    exact ⟨by decide, by decide, by decide⟩
  · rw [plainLetter_of_ne hkelvin]
    cases hform : CaseTable.form? CaseTable.lowerRuns c.toNat with
    | none => exact ⟨rfl, rfl, rfl⟩
    | some m => exact (foreign_of_form? hkelvin hform).alike (foreign_of_le hc)

theorem lowerChar_spec (c : Char) :
    (∃ d, lowerChar c = [d] ∧ Alike d (plainLetter c)) ∨
      Foreign (plainLetter c) ∧ ∃ d e, lowerChar c = [d, e] ∧ Foreign e := by
  unfold lowerChar
  by_cases hlow : c.toNat < 128
  · have halike := alike_toLower c.toNat hlow
    rw [Char.ofNat_toNat] at halike
    rw [if_pos hlow, plainLetter_of_ne fun he => absurd (he ▸ hlow) (by decide)]
    exact Or.inl ⟨_, rfl, halike⟩
  · rw [if_neg hlow]
    by_cases hdotted : c.toNat = 0x130
    · rw [if_pos hdotted, plainLetter_of_ne fun he => absurd (he ▸ hdotted) (by decide)]
      exact Or.inr ⟨foreign_of_le (Nat.le_of_not_lt hlow), _, _, rfl, foreign_of_le (by decide)⟩
    · rw [if_neg hdotted]
      exact Or.inl ⟨_, rfl, alike_of_le (Nat.le_of_not_lt hlow)⟩

/-- A character becomes one that counts alike, or two of which one is foreign. -/
theorem Form.spec {c : Char} {form : List Char} (h : Form c form) :
    (∃ d, form = [d] ∧ Alike d (plainLetter c)) ∨
      Foreign (plainLetter c) ∧ ∃ d e, form = [d, e] ∧ Foreign e := by
  rcases h with rfl | ⟨rfl, rfl | rfl⟩
  · exact lowerChar_spec c
  · exact Or.inl ⟨_, rfl, by decide, by decide, by decide⟩
  · exact Or.inl ⟨_, rfl, by decide, by decide, by decide⟩

theorem Lowered.all_eq {cs ds : List Char} (h : Lowered cs ds) :
    ds.all isIdentifierPart = (cs.map plainLetter).all isIdentifierPart := by
  induction h with
  | nil => rfl
  | cons hform _ ih =>
    rw [List.all_append, ih, List.map_cons, List.all_cons]
    rcases hform.spec with ⟨d, rfl, -, hpart, -⟩ | ⟨hc, d, e, rfl, he⟩
    · rw [List.all_cons, List.all_nil, Bool.and_true, hpart]
    · simp [he.1, hc.1]

/-- **Lower case and identifiers.**  A text is an identifier in lower case exactly if it is
    one, up to Kelvin signs. -/
theorem Lowered.isIdentifier_eq {cs ds : List Char} (h : Lowered cs ds) :
    isIdentifier ds = isIdentifier (cs.map plainLetter) := by
  cases h with
  | nil => rfl
  | cons hform h =>
    rw [List.map_cons]
    rcases hform.spec with ⟨d, rfl, hstart, -, -⟩ | ⟨hc, d, e, rfl, he⟩
    · rw [List.singleton_append, isIdentifier, isIdentifier, hstart, h.all_eq]
    · simp [isIdentifier, he.1, hc.isIdentifierStart_eq]

/-- So is one with the end of a line behind it. -/
theorem Lowered.isBare_eq {s t : String} (h : Lowered s.toList t.toList) :
    isBare t = isBare (s.map plainLetter) := by
  rcases List.eq_nil_or_concat s.toList with hs | ⟨cs, c, hs⟩
  · rw [hs] at h
    have ht : t.toList = [] := by generalize t.toList = ds at h; cases h; rfl
    rw [isBare, isBare, String.toList_map, ht, hs]
    rfl
  · have hwhole := h.isIdentifier_eq
    rw [List.concat_eq_append] at hs
    rw [hs] at h
    obtain ⟨es, es', ht, hcs, hc⟩ := h.exists_of_append
    obtain _ | ⟨hform, hnil⟩ := hc
    cases hnil
    rw [List.append_nil] at ht
    have hmap : (s.map plainLetter).toList = cs.map plainLetter ++ [plainLetter c] := by
      rw [String.toList_map, hs, List.map_append, List.map_singleton]
    rw [isBare_eq_of_toList hmap, ← hmap, String.toList_map, ← hwhole, ← hcs.isIdentifier_eq]
    rcases hform.spec with ⟨d, rfl, -, -, hend⟩ | ⟨hc, d, e, rfl, he⟩
    · rw [isBare_eq_of_toList ht, ← ht, hend]
    · rw [show es ++ [d, e] = (es ++ [d]) ++ [e] by simp] at ht
      rw [isBare_eq_of_toList ht, ← ht, he.2, hc.2, Bool.false_and, Bool.false_and]

theorem map_intercalate (f : Char → Char) (sep : List Char) : ∀ pieces : List (List Char),
    (sep.intercalate pieces).map f = (sep.map f).intercalate (pieces.map (List.map f))
  | [] => rfl
  | [piece] => by simp
  | piece :: second :: rest => by
    rw [List.intercalate_cons_cons, List.map_append, List.map_append,
      map_intercalate f sep (second :: rest)]
    simp only [List.map_cons, List.intercalate_cons_cons]

end Text

/-! ## Names of paths -/

namespace Naming

/-- A character of a path as it counts in a name: an underscore for a hyphen, and a k for
    the Kelvin sign. -/
def letterFor (c : Char) : Char := if c = '-' then '_' else Text.plainLetter c

/-- A segment as it counts in a name. -/
def spelling (segment : String) : String := segment.map letterFor

/-- The name of a path as it is spelled before it is in lower case. -/
def spelledName (path : String) (skip : Nat) : String :=
  match segments path skip with
  | [] => rootName
  | kept => Text.join "_" (kept.map spelling)

theorem map_plainLetter_clean (segment : String) :
    (clean segment).map Text.plainLetter = spelling segment := by
  refine String.toList_injective ?_
  rw [clean, spelling, String.toList_map, String.toList_map, String.toList_map, List.map_map]
  refine List.map_congr_left fun c _ => ?_
  rw [Function.comp_apply, letterFor]
  split
  · decide
  · rfl

theorem map_plainLetter_join (segments : List String) :
    (Text.join "_" (segments.map clean)).map Text.plainLetter =
      Text.join "_" (segments.map spelling) := by
  refine String.toList_injective ?_
  rw [String.toList_map, Text.toList_join, Text.toList_join, Text.map_intercalate, List.map_map,
    List.map_map, List.map_map]
  refine congrArg₂ List.intercalate (by decide) (List.map_congr_left fun segment _ => ?_)
  rw [Function.comp_apply, Function.comp_apply, Function.comp_apply, ← map_plainLetter_clean,
    String.toList_map]

/-- A name is the lower case of its spelling, up to Kelvin signs. -/
theorem exists_lowered_name (path : String) (skip : Nat) :
    ∃ s : String, Text.Lowered s.toList (name path skip).toList ∧
      s.map Text.plainLetter = spelledName path skip := by
  unfold name spelledName
  cases segments path skip with
  | nil =>
    have hroot : Text.lower rootName = rootName := by decide
    refine ⟨rootName, hroot ▸ Text.lowered_lower rootName, String.toList_injective ?_⟩
    rw [String.toList_map]
    decide
  | cons segment rest => exact ⟨_, Text.lowered_lower _, map_plainLetter_join _⟩

theorem isIdentifier_name (path : String) (skip : Nat) :
    isIdentifier (name path skip).toList = isIdentifier (spelledName path skip).toList := by
  obtain ⟨s, hlowered, hspelled⟩ := exists_lowered_name path skip
  rw [← hspelled, String.toList_map, hlowered.isIdentifier_eq]

theorem isBare_name (path : String) (skip : Nat) :
    isBare (name path skip) = isBare (spelledName path skip) := by
  obtain ⟨s, hlowered, hspelled⟩ := exists_lowered_name path skip
  rw [← hspelled, hlowered.isBare_eq]

/-- **Folders.**  The segments of a folder are bare if those of the path are. -/
theorem forall_mem_segments_folder_iff (path : String) (skip : Nat) :
    (∀ key ∈ UrlTree.segments (folder path skip), isBare key = true) ↔
      ∀ segment ∈ (segments path skip).dropLast, isBare (spelling segment) = true := by
  have hbare : ∀ segment, isBare (word segment) = isBare (spelling segment) := fun segment => by
    rw [word, (Text.lowered_lower _).isBare_eq, map_plainLetter_clean]
  rw [segments_folder, List.forall_mem_map]
  simp only [hbare]

end Naming

/-! ## Names of endpoints -/

namespace Endpoint

/-- An identifier can go on with a text. -/
def Continues (text : String) : Prop := ∀ c ∈ text.toList, isIdentifierPart c = true

theorem isIdentifierPart_of_isDigit {c : Char} (h : c.isDigit = true) :
    isIdentifierPart c = true := by
  simp [isIdentifierPart, Char.isAlphanum, h]

theorem isIdentifierPart_of_isPlain {c : Char} (h : Naming.isPlain c = true) :
    isIdentifierPart c = true := by
  simp only [Naming.isPlain, Bool.or_eq_true, Bool.and_eq_true, decide_eq_true_eq] at h
  rcases h with h | h
  · have hlower : c.isLower = true :=
      Bool.and_eq_true_iff.2 ⟨decide_eq_true h.1, decide_eq_true h.2⟩
    have halpha : c.isAlpha = true := Bool.or_eq_true_iff.2 (Or.inr hlower)
    simp [isIdentifierPart, Char.isAlphanum, halpha]
  · refine isIdentifierPart_of_isDigit ?_
    rw [Char.isDigit, Bool.and_eq_true, decide_eq_true_eq, decide_eq_true_eq]
    exact h

theorem joinable_continues : Joinable Continues where
  join ha hb c hc := by
    rw [String.toList_append, String.toList_append, List.mem_append, List.mem_append] at hc
    rcases hc with (hc | hc) | hc
    · exact ha c hc
    · rw [List.mem_singleton.1 hc]
      decide
    · exact hb c hc
  number n c hc := isIdentifierPart_of_isDigit <|
    Nat.isDigit_of_mem_toDigits (by decide) (by decide) (Nat.toList_repr ▸ hc)

theorem continues_of_mem_methods : ∀ method ∈ methods, Continues method := by
  have hall : (methods.all fun method => method.toList.all isIdentifierPart) = true := by decide
  intro method hmethod
  exact List.all_eq_true.1 (List.all_eq_true.1 hall method hmethod)

theorem continues_parameterSuffix (parameters : List String) :
    Continues (Naming.parameterSuffix parameters) := by
  intro c hc
  rcases Naming.isPlain_or_of_mem_parameterSuffix hc with h | rfl
  · exact isIdentifierPart_of_isPlain h
  · decide

/-- **Added texts.**  What is added to a name makes no identifier of it, and keeps one. -/
theorem isBare_iff_of_extendsBy {base name : String} (hbase : base ≠ "")
    (h : ExtendsBy Continues base name) :
    isBare name = true ↔
      isIdentifier base.toList = true ∨ name = base ∧ isBare base = true := by
  have hne : base.toList ≠ [] := fun hnil => hbase (String.toList_injective hnil)
  rcases h with rfl | ⟨text, htext, rfl⟩
  · rw [eq_self, true_and]
    exact ⟨Or.inr, fun h => h.elim isBare_of_isIdentifier id⟩
  · have hlist : (base ++ "_" ++ text).toList = base.toList ++ '_' :: text.toList := by
      simp [String.toList_append]
    have htail : ∀ c ∈ '_' :: text.toList, isIdentifierPart c = true :=
      List.forall_mem_cons.2 ⟨by decide, htext⟩
    have hlong : base ++ "_" ++ text ≠ base := by
      intro he
      have := congrArg (fun s => s.toList.length) he
      simp only [hlist, List.length_append, List.length_cons] at this
      omega
    -- the last character belongs to the added text, so it ends no line
    obtain ⟨cs, c, hlast⟩ := List.eq_nil_or_concat ('_' :: text.toList) |>.resolve_left
      (List.cons_ne_nil _ _)
    rw [List.concat_eq_append] at hlast
    have hc : (c == '\n') = false := by
      refine beq_eq_false_iff_ne.2 ?_
      rintro rfl
      exact absurd (htail '\n' (by simp [hlast])) (by decide)
    have hsplit : (base ++ "_" ++ text).toList = (base.toList ++ cs) ++ [c] := by
      rw [hlist, hlast, List.append_assoc]
    rw [isBare_eq_of_toList hsplit, ← hsplit, hc, Bool.false_and, Bool.or_false, hlist,
      isIdentifier_append hne, List.all_eq_true.2 htail, Bool.and_true]
    simp [hlong]

end Endpoint

/-! ## Generations -/

namespace Generation

open UrlTree

variable {document skip : Json.Value} {g : Generation} {e : Endpoint} {pairs : Nat}

/-- An endpoint has a name and a folder made of its path. -/
theorem exists_extendsBy_of_mem (h : ofDocument document skip = .ok g) (he : e ∈ g.endpoints) :
    ∃ pairs, pairsToSkip skip = .ok pairs ∧ e.baseName = Naming.name e.path pairs ∧
      e.folder = Naming.folder e.path pairs ∧
      Endpoint.ExtendsBy Endpoint.Continues e.baseName e.name := by
  obtain ⟨scope, -, -, rfl, -, -, hendpoints, -⟩ := exists_of_ofDocument h
  obtain ⟨found, pairs, hfound, hpairs, hall⟩ := endpointsOf_spec hendpoints
  obtain ⟨⟨operation, name⟩, hmem, hof⟩ := Steps.exists_mem_of_forall₂_right hall he
  obtain ⟨_, _, _, _, _, -, -, -, -, rfl⟩ := Endpoint.exists_of_ofOperation hof
  have hadds := Endpoint.adds_of_operations Endpoint.continues_of_mem_methods
    Endpoint.continues_parameterSuffix hfound pairs
  have hextends := Endpoint.resolve_extendsBy Endpoint.joinable_continues hadds
  rw [List.forall₂_map_left_iff] at hextends
  have hpairs := hpairs (List.ne_nil_of_mem (List.of_mem_zip hmem).1)
  exact ⟨pairs, hpairs, rfl, rfl, List.forall₂_zip hextends hmem⟩

/-- The name of an endpoint is bare if the spelling of its path is an identifier, or if it
    is nothing but the spelling, and bare. -/
theorem isBare_name_iff (h : ofDocument document skip = .ok g) (he : e ∈ g.endpoints)
    (hpairs : pairsToSkip skip = .ok pairs) :
    isBare e.name = true ↔
      isIdentifier (Naming.spelledName e.path pairs).toList = true ∨
        e.name = e.baseName ∧ isBare (Naming.spelledName e.path pairs) = true := by
  obtain ⟨pairs', hpairs', hbase, -, hextends⟩ := exists_extendsBy_of_mem h he
  obtain rfl := Except.ok.inj (hpairs.symm.trans hpairs')
  have hne : e.baseName ≠ "" := by
    obtain ⟨c, cs, hname, -⟩ := Naming.exists_name_eq e.path pairs
    intro hempty
    rw [← hbase, hempty] at hname
    exact absurd hname nofun
  rw [Endpoint.isBare_iff_of_extendsBy hne hextends, hbase, Naming.isIdentifier_name,
    Naming.isBare_name]

/-- **Bare names.**  All names of endpoints and all keys of the tree of URLs, at any depth,
    are identifiers, or such with the end of a line behind them, exactly if the paths are
    spelled so: their kept segments, joined by underscores, for the names; and each segment
    but the last for the keys, if the URL is not replaced by that of a later endpoint. -/
theorem bare_iff (h : ofDocument document skip = .ok g) :
    ((∀ e ∈ g.endpoints, isBare e.name = true) ∧
        ∀ key ∈ allKeys g.urlTree, isBare key = true) ↔
      ∀ pairs, pairsToSkip skip = .ok pairs →
        (∀ e ∈ g.endpoints, isIdentifier (Naming.spelledName e.path pairs).toList = true ∨
          e.name = e.baseName ∧ isBare (Naming.spelledName e.path pairs) = true) ∧
        ∀ leaf ∈ lasting (g.endpoints.map leafOf),
          ∀ segment ∈ (Naming.segments leaf.path pairs).dropLast,
            isBare (Naming.spelling segment) = true := by
  have hkeys := @forall_mem_allKeys_build_iff _ (fun key => isBare key = true)
    (show isBare selfKey = true by decide) (nodup_keys h) (selfOutside h)
  rw [← urlTree_eq h] at hkeys
  rw [hkeys]
  have hlasting : ∀ leaf ∈ lasting (g.endpoints.map leafOf), ∃ e ∈ g.endpoints, leafOf e = leaf :=
    fun leaf hleaf => List.mem_map.1 ((lasting_sublist _).subset hleaf)
  constructor
  · rintro ⟨hnames, hkeys⟩ pairs hpairs
    refine ⟨fun e he => (isBare_name_iff h he hpairs).1 (hnames e he), fun leaf hleaf => ?_⟩
    obtain ⟨e, he, rfl⟩ := hlasting leaf hleaf
    obtain ⟨pairs', hpairs', -, hfolder, -⟩ := exists_extendsBy_of_mem h he
    obtain rfl := Except.ok.inj (hpairs.symm.trans hpairs')
    refine (Naming.forall_mem_segments_folder_iff e.path pairs).1 fun key hkey => ?_
    rw [← hfolder] at hkey
    exact hkeys _ hleaf key (List.mem_append_left _ hkey)
  · intro hall
    have hnames : ∀ e ∈ g.endpoints, isBare e.name = true := by
      intro e he
      obtain ⟨pairs, hpairs, -⟩ := exists_extendsBy_of_mem h he
      exact (isBare_name_iff h he hpairs).2 ((hall pairs hpairs).1 e he)
    refine ⟨hnames, fun leaf hleaf key hkey => ?_⟩
    obtain ⟨e, he, rfl⟩ := hlasting leaf hleaf
    obtain ⟨pairs, hpairs, -, hfolder, -⟩ := exists_extendsBy_of_mem h he
    have hsegments := (hall pairs hpairs).2 _ hleaf
    simp only [leafOf] at hsegments hkey
    rcases List.mem_append.1 hkey with hkey | hkey
    · rw [hfolder] at hkey
      exact (Naming.forall_mem_segments_folder_iff e.path pairs).2 hsegments key hkey
    · rw [List.mem_singleton.1 hkey]
      exact hnames e he

/-- Hyphens and capitals do no harm. -/
theorem bare_iff_hyphen : ∃ g, ofDocument (bareDocument ["/Blue-Team/Users"]) (.int 0) = .ok g ∧
    (∀ e ∈ g.endpoints, isBare e.name = true) ∧
    ∀ key ∈ allKeys g.urlTree, isBare key = true := by
  obtain ⟨g, hg, hendpoints, -⟩ := exists_generation_bare ["/Blue-Team/Users"]
  refine ⟨g, hg, (bare_iff hg).2 fun pairs hpairs => ?_⟩
  obtain rfl : 0 = pairs := Except.ok.inj hpairs
  rw [hendpoints]
  decide +kernel

/-- A point does: it stays in the name of the endpoint and in the key of the tree. -/
theorem not_bare_point : ∃ g, ofDocument (bareDocument ["/a.b"]) (.int 0) = .ok g ∧
    (¬ ∀ e ∈ g.endpoints, isBare e.name = true) ∧
    ¬ ∀ key ∈ allKeys g.urlTree, isBare key = true := by
  obtain ⟨g, hg, hendpoints, -⟩ := exists_generation_bare ["/a.b"]
  have hnames : Endpoint.resolve (["/a.b"].map fun path => (bareOperation path).proposal 0) =
      ["a.b"] := by
    decide +kernel
  rw [hnames] at hendpoints
  refine ⟨g, hg, ?_, ?_⟩
  · rw [hendpoints]
    decide +kernel
  · rw [urlTree_eq hg, hendpoints]
    decide +kernel

end Generation

end ApiTypes
