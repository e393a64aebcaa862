/-
  The tokens of the text of a type expression.

  * `TypeExpr.spells_text`: the text is cut into the tokens that the tree says, if
    its names are plain and its constants are values of a document.
-/
import ApiTypes.Proofs.TypeText.Constants

namespace ApiTypes

open TypeText

theorem keyText_of_plainName {name : String} (h : TypeExpr.PlainName name) :
    keyText name = name := by
  have hname : isIdentifier name.toList = true := h
  simp [keyText, isBare, hname]

/-! ## Properties -/

namespace PropertyHead

variable {head : PropertyHead}

theorem spells_key (hname : TypeExpr.PlainName head.name) :
    Spells true ("  " ++ keyText head.name ++ (if head.optional then "?" else ""))
      head.spelling := by
  have hindent : Spells false "  " [] := .cut (by decide)
  have hmark : Spells true "?" [.sign '?'] := .cut (by decide)
  have hkey := hindent.before (spells_word (isWord_of_isIdentifier hname))
  rw [keyText_of_plainName hname, spelling]
  cases head.optional with
  | false => simpa using hkey
  | true => exact hkey.apart hmark (by decide)

theorem spells_lines {type : String} {tokens : List Token}
    (hname : TypeExpr.PlainName head.name)
    (hcomment : ∀ text ∈ head.comment, ¬ ['*', '/'] <:+: text.toList)
    (htype : Spells true type tokens) :
    SpellsLines (head.lines type) (head.spelling ++ .sign ':' :: tokens ++ [.sign ';']) := by
  have hcolon : Spells false ": " [.sign ':'] := .cut (by decide)
  have hend : Spells false ";" [.sign ';'] := .cut (by decide)
  have hkey := ((spells_key hname).apart hcolon (by decide)).before htype
  have hline := hkey.apart hend (by decide)
  have hproperty := SpellsLines.cons hline .nil
  cases hc : head.comment with
  | none => simpa [lines, hc] using hproperty
  | some text =>
    have hnone := spells_comment (hcomment text (by simp [hc]))
    simpa [lines, hc] using SpellsLines.cons hnone hproperty

end PropertyHead

namespace TypeExpr

/-! ## Types -/

theorem spells_propertyLines {properties : List (PropertyHead × TypeExpr)}
    (hplain : ∀ p ∈ properties, PlainName p.1.name ∧
      ∀ text ∈ p.1.comment, ¬ ['*', '/'] <:+: text.toList)
    (ih : ∀ p ∈ properties, Spells true p.2.text p.2.tokens) :
    SpellsLines (propertyLines properties)
      (properties.flatMap fun (head, t) =>
        head.spelling ++ .sign ':' :: t.tokens ++ [.sign ';']) := by
  induction properties with
  | nil => exact .nil
  | cons p rest ihrest =>
    obtain ⟨⟨hname, hcomment⟩, hrest⟩ := List.forall_mem_cons.1 hplain
    obtain ⟨hp, ihtail⟩ := List.forall_mem_cons.1 ih
    rw [propertyLines, List.flatMap_cons]
    exact (PropertyHead.spells_lines hname hcomment hp).append (ihrest hrest ihtail)

/-- An object type is its members between braces. -/
theorem spells_objectText {lines : List String} {tokens : List Token}
    (h : SpellsLines lines tokens) :
    Spells true (objectText lines) (.sign '\x7b' :: tokens ++ [.sign '\x7d']) := by
  have hopen : Spells false "\x7b\n" [.sign '\x7b'] := .cut (by decide)
  have hclose : Spells true "\n\x7d" [.sign '\x7d'] := .cut (by decide)
  exact (hopen.before h.join).before hclose

theorem spells_indexLine {type : String} {tokens : List Token} (h : Spells true type tokens) :
    Spells false ("  [key: string]: " ++ type ++ ";")
      (indexSpelling ++ .sign ':' :: tokens ++ [.sign ';']) := by
  have hhead : Spells false "  [key: string]: " (indexSpelling ++ [.sign ':']) := .cut (by decide)
  have hend : Spells false ";" [.sign ';'] := .cut (by decide)
  simpa using (hhead.before h).apart hend (by decide)

theorem spells_object {properties : List (PropertyHead × TypeExpr)} {index : Option TypeExpr}
    (hplain : (object properties index).Plain)
    (ih : ∀ c ∈ (object properties index).children, Spells true c.text c.tokens) :
    Spells true (object properties index).text (object properties index).tokens := by
  have hprops := spells_propertyLines hplain fun p hp =>
    ih p.2 (List.mem_append_left _ (List.mem_map.2 ⟨p, hp, rfl⟩))
  rw [tokens_object]
  cases index with
  | none =>
    rw [text_object]
    simpa [members, List.flatMap_map] using spells_objectText hprops
  | some type =>
    have hindex := spells_indexLine (ih type (List.mem_append_right _ (by simp)))
    rw [text_object_index]
    simpa [members, List.flatMap_map] using
      spells_objectText (hprops.append (.cons hindex .nil))

theorem spells_branches {sep : String} {between : List Token} (hsep : Spells false sep between)
    (hapart : Apart sep) {branches : List TypeExpr}
    (ih : ∀ b ∈ branches, Spells true b.text b.tokens) :
    Spells true ("(" ++ Text.join sep (texts branches) ++ ")")
      (.sign '(' :: between.intercalate (branches.map tokens) ++ [.sign ')']) := by
  have hopen : Spells false "(" [.sign '('] := .cut (by decide)
  have hclose : Spells true ")" [.sign ')'] := .cut (by decide)
  have hall : List.Forall₂ (Spells true) (branches.map text) (branches.map tokens) :=
    List.forall₂_map_left_iff.2 (List.forall₂_map_right_iff.2 (List.forall₂_same.2 ih))
  rw [texts_eq_map]
  exact (hopen.before (spells_intercalate hsep hapart hall)).apart hclose (by decide)

theorem isWord_keyword (k : Keyword) : IsWord k.text := by
  cases k <;> exact ⟨by decide, by decide⟩

theorem spells_or : Spells false " | " [.sign '|'] := .cut (by decide)

theorem spells_and : Spells false " & " [.sign '&'] := .cut (by decide)

/-- **The tokens of the text of a type.** -/
theorem spells_text {t : TypeExpr} (h : t.All fun t => t.Plain ∧ t.Formed) :
    Spells true t.text t.tokens := by
  induction h with
  | @node t ht _ ih =>
    obtain ⟨hplain, hformed⟩ := ht
    cases t with
    | keyword k =>
      rw [text_keyword, tokens]
      exact spells_word (isWord_keyword k)
    | named name =>
      rw [text_named, tokens]
      exact spells_word (isWord_of_isIdentifier hplain)
    | literals constants =>
      have hall : List.Forall₂ (Spells true) (constants.map Literal.form)
          (constants.map Literal.spelling) := by
        refine List.forall₂_map_left_iff.2 (List.forall₂_map_right_iff.2 ?_)
        refine List.forall₂_same.2 fun c hc => ?_
        exact (Literal.spells_form (hformed.2 c hc) fun s hs => hplain s (hs ▸ hc)).1
      rw [text_literals, tokens]
      exact spells_intercalate spells_or (by decide) hall
    | orNull base =>
      have hnull : Spells true " | null" [.sign '|', .word "null"] :=
        @Spells.word _ [.sign '|'] ['l', 'l', 'u', 'n'] (by decide)
      rw [text_orNull, tokens]
      exact (ih base List.mem_cons_self).apart hnull (by decide)
    | union branches =>
      rw [text_union, tokens]
      exact spells_branches spells_or (by decide) ih
    | intersection branches =>
      rw [text_intersection, tokens]
      exact spells_branches spells_and (by decide) ih
    | array items =>
      have hbrackets : Spells true "[]" [.brackets] := .cut (by decide)
      rw [text_array, tokens]
      exact (ih items List.mem_cons_self).apart hbrackets (by decide)
    | record values =>
      have hopen : Spells false "Record<string, "
          [.word "Record", .sign '<', .word "string", .sign ','] := .cut (by decide)
      have hclose : Spells true ">" [.sign '>'] := .cut (by decide)
      rw [text_record, tokens]
      exact (hopen.before (ih values List.mem_cons_self)).apart hclose (by decide)
    | object properties index => exact spells_object hplain ih

end TypeExpr

end ApiTypes
