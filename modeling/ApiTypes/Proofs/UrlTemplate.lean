/-
  Filling a URL template puts in all parameters at once.

  A template is written from pieces (`written`): texts without braces, and placeholders.
  `substituted known pieces` is the template with the values of the known parameters in
  place.  The parameters are put in one after another, and a value may join with the text
  around it, so the invariant is on the pieces:

  * `replaceAll_substituted`: putting in one more parameter makes it known;
  * `fillTemplate_substituted`: hence so does putting in all of them;
  * `placeholders_substituted`: the placeholders that can still be read are those whose
    parameter is not known.

  Together they say what `buildUrl` returns (`buildUrl_written`).
-/
import ApiTypes.UrlTemplate
import Mathlib.Data.List.Basic

namespace ApiTypes.UrlTemplate

open Json (Value)

/-! ## Templates -/

/-- A text without braces. -/
def BraceFree (s : String) : Prop := '\x7b' ∉ s.toList ∧ '\x7d' ∉ s.toList

instance (s : String) : Decidable (BraceFree s) := inferInstanceAs (Decidable (_ ∧ _))

/-- A piece of a template: text that stands for itself, or a placeholder. -/
inductive Piece where
  | literal (s : String) (braceFree : BraceFree s)
  | placeholder (name : String) (given : name ≠ "") (braceFree : BraceFree name)

/-- The name of a placeholder. -/
def Piece.name? : Piece → Option String
  | literal _ _ => none
  | placeholder name _ _ => some name

/-- The text of a piece: a placeholder is its name between braces. -/
def Piece.text : Piece → String
  | literal s _ => s
  | placeholder name _ _ => "\x7b" ++ name ++ "\x7d"

/-- The text of a piece when the values of some parameters are known. -/
def Piece.textWith (known : List (String × Value)) (p : Piece) : String :=
  match p.name?.bind (Entries.get? known) with
  | some v => urlText v
  | none => p.text

/-- The text of a template. -/
def written (pieces : List Piece) : String := String.join (pieces.map Piece.text)

/-- The template with every placeholder whose parameter is known replaced by its value. -/
def substituted (known : List (String × Value)) (pieces : List Piece) : String :=
  String.join (pieces.map (Piece.textWith known))

/-- The names of the placeholders, in order. -/
def names (pieces : List Piece) : List String := pieces.filterMap Piece.name?

variable {known parameters : List (String × Value)} {pieces : List Piece} {p : Piece}
  {key : String} {rest : List Char}

theorem substituted_nil (pieces : List Piece) : substituted [] pieces = written pieces := by
  refine congrArg String.join (List.map_congr_left fun p _ => ?_)
  cases p <;> rfl

/-! ## Putting in one parameter -/

theorem toList_braced_append (name : String) (rest : List Char) :
    ("\x7b" ++ name ++ "\x7d").toList ++ rest = '\x7b' :: (name.toList ++ '\x7d' :: rest) := by
  simp

/-- What stands before the first closing brace. -/
theorem takeWhile_braceFree (hkey : BraceFree key) (rest : List Char) :
    (key.toList ++ '\x7d' :: rest).takeWhile (· ≠ '\x7d') = key.toList := by
  rw [List.takeWhile_append_of_pos, List.takeWhile_cons_of_neg (by simp), List.append_nil]
  rintro c hc
  simpa using ne_of_mem_of_not_mem hc hkey.2

/-- A placeholder is an occurrence of its own parameter only. -/
theorem not_isPrefixOf_braced {name : String} (hname : BraceFree name) (hkey : BraceFree key)
    (hne : key ≠ name) :
    ¬ ('\x7b' :: (key.toList ++ ['\x7d'])).isPrefixOf
      ('\x7b' :: (name.toList ++ '\x7d' :: rest)) := by
  rw [List.isPrefixOf_iff_prefix, List.cons_prefix_cons]
  rintro ⟨-, more, hmore⟩
  rw [List.append_assoc, List.singleton_append] at hmore
  have hsame := congrArg (List.takeWhile (· ≠ '\x7d')) hmore
  rw [takeWhile_braceFree hkey, takeWhile_braceFree hname] at hsame
  exact hne (String.toList_injective hsame)

/-- The piece of a placeholder whose value is known or not. -/
theorem textWith_placeholder {name : String} (hgiven : name ≠ "") (hname : BraceFree name) :
    (Piece.placeholder name hgiven hname).textWith known =
      ((Entries.get? known name).map urlText).getD ("\x7b" ++ name ++ "\x7d") := by
  rw [Piece.textWith, Piece.name?, Option.bind_some]
  cases Entries.get? known name <;> rfl

/-- Putting in a parameter changes a piece where its value becomes known, and goes on
    behind the piece: no occurrence reaches from one piece into the next, since none starts
    inside a value or a literal. -/
theorem replaceChars_textWith (hknown : ∀ e ∈ known, BraceFree (urlText e.2))
    (hkey : BraceFree key) (v : Value) (p : Piece) (rest : List Char) :
    Text.replaceChars ('\x7b' :: (key.toList ++ ['\x7d'])) (urlText v).toList 0
        ((p.textWith known).toList ++ rest) =
      (p.textWith (known ++ [(key, v)])).toList ++
        Text.replaceChars ('\x7b' :: (key.toList ++ ['\x7d'])) (urlText v).toList 0 rest := by
  cases p with
  | literal s hs => exact Text.replaceChars_append hs.1
  | placeholder name hgiven hname =>
    rw [textWith_placeholder, textWith_placeholder, Entries.get?_append]
    cases hget : Entries.get? known name with
    | some w => exact Text.replaceChars_append (hknown _ (Entries.mem_of_get? hget)).1
    | none =>
      rw [Option.none_or, Option.map_none, Option.getD_none, toList_braced_append, Entries.get?]
      by_cases hk : key = name
      · subst hk
        have hbehind : '\x7b' :: (key.toList ++ '\x7d' :: rest) =
            '\x7b' :: (key.toList ++ ['\x7d']) ++ rest := by simp
        rw [if_pos rfl, hbehind, Text.replaceChars_occurrence]
        rfl
      · have hother : '\x7b' ∉ name.toList ++ ['\x7d'] := by simp [hname.1]
        have hbehind : name.toList ++ '\x7d' :: rest = (name.toList ++ ['\x7d']) ++ rest := by simp
        rw [if_neg hk, Entries.get?, Option.map_none, Option.getD_none, toList_braced_append,
          Text.replaceChars, if_neg (not_isPrefixOf_braced hname hkey hk), hbehind,
          Text.replaceChars_append hother, List.append_assoc, List.singleton_append]

/-- **One parameter.**  Putting it in makes its value known everywhere in the template. -/
theorem replaceAll_substituted (hknown : ∀ e ∈ known, BraceFree (urlText e.2))
    (hkey : BraceFree key) (v : Value) (pieces : List Piece) :
    Text.replaceAll ("\x7b" ++ key ++ "\x7d") (urlText v) (substituted known pieces) =
      substituted (known ++ [(key, v)]) pieces := by
  apply String.toList_injective
  have hbraced := toList_braced_append key []
  rw [List.append_nil] at hbraced
  rw [Text.replaceAll, String.toList_ofList, hbraced]
  induction pieces with
  | nil => rfl
  | cons p pieces ih =>
    simp only [substituted, List.map_cons, String.join_cons, String.toList_append] at ih ⊢
    rw [replaceChars_textWith hknown hkey, ih]

/-- **All parameters.**  Putting them in one after another makes all values known. -/
theorem fillTemplate_substituted (pieces : List Piece) :
    ∀ {parameters known : List (String × Value)},
      (∀ e ∈ parameters, BraceFree e.1 ∧ BraceFree (urlText e.2)) →
      (∀ e ∈ known, BraceFree (urlText e.2)) →
      fillTemplate (substituted known pieces) parameters = substituted (known ++ parameters) pieces
  | [], known, _, _ => by rw [List.append_nil]; rfl
  | (key, v) :: rest, known, hparameters, hknown => by
    obtain ⟨⟨hkey, hv⟩, hrest⟩ := List.forall_mem_cons.1 hparameters
    have hmore : ∀ e ∈ known ++ [(key, v)], BraceFree (urlText e.2) :=
      List.forall_mem_append.2 ⟨hknown, List.forall_mem_singleton.2 hv⟩
    have hstep : fillTemplate (substituted known pieces) ((key, v) :: rest) =
        fillTemplate (substituted (known ++ [(key, v)]) pieces) rest :=
      congrArg (fillTemplate · rest) (replaceAll_substituted hknown hkey v pieces)
    rw [hstep, fillTemplate_substituted pieces hrest hmore, List.append_assoc,
      List.singleton_append]

/-! ## Placeholders that are left -/

theorem placeholdersFrom_append {before : List Char} (h : '\x7b' ∉ before) :
    placeholdersFrom none (before ++ rest) = placeholdersFrom none rest := by
  induction before with
  | nil => rfl
  | cons c before ih =>
    rw [List.mem_cons, not_or] at h
    rw [List.cons_append, placeholdersFrom, if_neg (Ne.symm h.1), ih h.2]

theorem placeholdersFrom_name {name : List Char} (h : '\x7d' ∉ name) :
    ∀ read, placeholdersFrom (some read) (name ++ '\x7d' :: rest) =
      String.ofList (read.reverse ++ name) :: placeholdersFrom none rest := by
  induction name with
  | nil => simp [placeholdersFrom]
  | cons c name ih =>
    intro read
    rw [List.mem_cons, not_or] at h
    rw [List.cons_append, placeholdersFrom]
    simp [Ne.symm h.1, ih h.2]

/-- The placeholders of a text are those whose values are not known. -/
theorem placeholders_substituted (hknown : ∀ e ∈ known, BraceFree (urlText e.2))
    (pieces : List Piece) :
    placeholders (substituted known pieces) = (names pieces).filter (· ∉ Entries.keys known) := by
  rw [placeholders]
  induction pieces with
  | nil => rfl
  | cons p pieces ih =>
    simp only [substituted, List.map_cons, String.join_cons, String.toList_append] at ih ⊢
    cases p with
    | literal s hs =>
      have hliteral : (Piece.literal s hs).textWith known = s := rfl
      rw [hliteral, placeholdersFrom_append hs.1, ih]
      rfl
    | placeholder name hgiven hname =>
      have hnames : names (.placeholder name hgiven hname :: pieces) = name :: names pieces := rfl
      rw [textWith_placeholder, hnames]
      cases hget : Entries.get? known name with
      | some v =>
        have hmem : name ∈ Entries.keys known := by
          by_contra hmem
          exact absurd (hget.symm.trans (Entries.get?_eq_none_iff.2 hmem)) nofun
        rw [List.filter_cons_of_neg (by simpa using hmem), ← ih]
        exact placeholdersFrom_append (hknown _ (Entries.mem_of_get? hget)).1
      | none =>
        have hmem : name ∉ Entries.keys known := Entries.get?_eq_none_iff.1 hget
        rw [List.filter_cons_of_pos (by simpa using hmem), Option.map_none, Option.getD_none,
          toList_braced_append, placeholdersFrom, if_pos rfl, placeholdersFrom_name hname.2, ih,
          List.reverse_nil, List.nil_append, String.ofList_toList]

theorem ne_empty_of_mem_names {name : String} (h : name ∈ names pieces) : name ≠ "" := by
  obtain ⟨p, -, hp⟩ := List.mem_filterMap.1 h
  cases p with
  | literal => exact absurd hp nofun
  | placeholder n hgiven _ => exact Option.some.inj hp ▸ hgiven

/-- **Simultaneous substitution.**  If every placeholder has a parameter, each stands for the
    value of its parameter in the URL; if not, those without one are reported in the order in
    which they occur, with repeats, beside the keys that are there. -/
theorem buildUrl_written (pieces : List Piece) (parameters : List (String × Value))
    (h : ∀ e ∈ parameters, BraceFree e.1 ∧ BraceFree (urlText e.2)) :
    ((∀ name ∈ names pieces, name ∈ Entries.keys parameters) →
      buildUrl (written pieces) parameters = .ok (substituted parameters pieces)) ∧
    ((∃ name ∈ names pieces, name ∉ Entries.keys parameters) →
      buildUrl (written pieces) parameters =
        .error (.missingParameters ((names pieces).filter (· ∉ Entries.keys parameters))
          (Entries.keys parameters))) := by
  have hfilled : fillTemplate (written pieces) parameters = substituted parameters pieces := by
    rw [← substituted_nil]
    exact fillTemplate_substituted pieces h nofun
  have hleft : (placeholders (substituted parameters pieces)).filter (· ≠ "") =
      (names pieces).filter (· ∉ Entries.keys parameters) := by
    rw [placeholders_substituted fun e he => (h e he).2, List.filter_eq_self]
    intro name hname
    simpa using ne_empty_of_mem_names (List.mem_of_mem_filter hname)
  rw [buildUrl, hfilled, hleft]
  refine ⟨fun hall => ?_, fun ⟨name, hname, hmissing⟩ => ?_⟩
  · have hnone : (names pieces).filter (· ∉ Entries.keys parameters) = [] := by
      refine List.filter_eq_nil_iff.2 fun name hname => ?_
      simpa using hall name hname
    rw [hnone]
  · have hmem : name ∈ (names pieces).filter (· ∉ Entries.keys parameters) :=
      List.mem_filter.2 ⟨hname, by simpa using hmissing⟩
    split
    · next hnone => exact absurd (hnone ▸ hmem) List.not_mem_nil
    · rfl

/-- A template with two parameters, one of them twice. -/
def postsOfUser : List Piece :=
  [.literal "/users/" (by decide), .placeholder "id" (by decide) (by decide),
    .literal "/posts/" (by decide), .placeholder "post" (by decide) (by decide),
    .literal "?as=" (by decide), .placeholder "id" (by decide) (by decide)]

/-- Its URL with both parameters and one that is not used, and without one of them. -/
theorem buildUrl_postsOfUser :
    buildUrl "/users/\x7bid\x7d/posts/\x7bpost\x7d?as=\x7bid\x7d"
        [("i", .null), ("post", .bool true), ("id", .int 7)] =
      .ok "/users/7/posts/true?as=7" ∧
    buildUrl "/users/\x7bid\x7d/posts/\x7bpost\x7d?as=\x7bid\x7d"
        [("i", .null), ("post", .bool true)] =
      .error (.missingParameters ["id", "id"] ["i", "post"]) := by
  have hwritten : written postsOfUser =
      "/users/\x7bid\x7d/posts/\x7bpost\x7d?as=\x7bid\x7d" := by decide
  rw [← hwritten]
  constructor
  · refine ((buildUrl_written postsOfUser _ ?_).1 ?_).trans ?_
    · decide
    · decide
    · decide
  · refine ((buildUrl_written postsOfUser _ ?_).2 ?_).trans ?_
    · decide
    · decide
    · decide

end ApiTypes.UrlTemplate
