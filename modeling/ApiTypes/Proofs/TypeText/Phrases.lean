/-
  What the tokens of a type expression are read as.

  `Reads tokens ts`: where an operand is wanted, the tokens put the alternatives
  `ts` into the phrase, whatever stands around it.

  * `reads_constant`: the tokens of any value of a document are one leaf;
  * `TypeExpr.reads_tokens`: the tokens of a type expression put its operands;
  * `TypeExpr.parse_text`: so its text is read as the alternative of its operands.
-/
import ApiTypes.Proofs.TypeText.Tokens

namespace ApiTypes.TypeText

variable {outer : List (Phrase × Opening)} {p : Phrase} {t : Ty} {ts us : List Ty}
  {tokens ta tb : List Token}

/-! ## Phrases -/

namespace Phrase

theorem ends_add (alternatives factors : List Ty) (t : Ty) (ts : List Ty) :
    (add alternatives factors (t :: ts)).ends = alternatives ++ both (factors ++ [t]) :: ts := by
  induction ts generalizing alternatives factors t with
  | nil => rfl
  | cons u us ih => simp [add, ih, both]

/-- The alternatives of a phrase that starts anew. -/
theorem ends_add_nil (h : ts ≠ []) : (add [] [] ts).ends = ts := by
  obtain ⟨t, ts, rfl⟩ := List.exists_cons_of_ne_nil h
  simp [ends_add, both]

theorem add_cons (alternatives factors : List Ty) (t : Ty) (h : ts ≠ []) :
    add alternatives factors (t :: ts) = add (alternatives ++ [both (factors ++ [t])]) [] ts := by
  obtain ⟨u, us, rfl⟩ := List.exists_cons_of_ne_nil h
  rfl

theorem add_append (alternatives factors : List Ty) (hts : ts ≠ []) (hus : us ≠ []) :
    add alternatives factors (ts ++ us) = add (add alternatives factors ts).ends [] us := by
  induction ts generalizing alternatives factors with
  | nil => exact absurd rfl hts
  | cons t ts ih =>
    cases ts with
    | nil => exact add_cons _ _ _ hus
    | cons t' ts =>
      have hne : t' :: ts ≠ [] := List.cons_ne_nil t' ts
      have happend : t' :: ts ++ us ≠ [] := List.cons_ne_nil t' (ts ++ us)
      rw [List.cons_append, add_cons _ _ _ happend, add_cons _ _ _ hne, ih _ _ hne]

theorem exists_operand_add (alternatives factors : List Ty) (h : ts ≠ []) :
    ∃ t, (add alternatives factors ts).operand = some t := by
  induction ts generalizing alternatives factors with
  | nil => exact absurd rfl h
  | cons t ts ih =>
    cases ts with
    | nil => exact ⟨t, rfl⟩
    | cons t' ts => exact ih _ _ nofun

theorem exists_operand_weave (alternatives factors : List Ty) {tss : List (List Ty)}
    (h : tss ≠ []) (hts : ∀ ts ∈ tss, ts ≠ []) :
    ∃ t, (weave alternatives factors tss).operand = some t := by
  induction tss generalizing alternatives factors with
  | nil => exact absurd rfl h
  | cons ts tss ih =>
    cases tss with
    | nil => exact exists_operand_add _ _ (hts ts List.mem_cons_self)
    | cons us tss => exact ih _ _ nofun fun vs hvs => hts vs (List.mem_cons_of_mem _ hvs)

theorem listOfLast_ne_nil (h : ts ≠ []) : listOfLast ts ≠ [] := by
  obtain ⟨t, ts, rfl⟩ := List.exists_cons_of_ne_nil h
  cases ts <;> exact nofun

theorem listOf_add (alternatives factors : List Ty) (h : ts ≠ []) :
    (add alternatives factors ts).listOf = some (add alternatives factors (listOfLast ts)) := by
  induction ts generalizing alternatives factors with
  | nil => exact absurd rfl h
  | cons t ts ih =>
    cases ts with
    | nil => rfl
    | cons u us =>
      have hne : u :: us ≠ [] := List.cons_ne_nil u us
      have hlist : listOfLast (t :: u :: us) = t :: listOfLast (u :: us) := rfl
      rw [hlist, add_cons _ _ _ hne, add_cons _ _ _ (listOfLast_ne_nil hne), ih _ _ hne]

theorem or_eq (h : p.operand = some t) : p.or = some ⟨p.ends, [], none⟩ := by
  simp [or, ends, h]

theorem and_eq (h : p.operand = some t) :
    p.and = some ⟨p.alternatives, p.factors ++ p.operand.toList, none⟩ := by
  simp [and, h]

theorem close_eq (h : p.operand = some t) : p.close = some (either p.ends) := by
  simp [close, ends, h]

end Phrase

/-! ## Behind an operand -/

theorem run_phrase_or (h : p.operand = some t) :
    run ⟨outer, .phrase p⟩ (.sign '|' :: tokens) =
      run ⟨outer, .phrase ⟨p.ends, [], none⟩⟩ tokens := by
  simp [run, step, h, stepBehind, Phrase.or_eq h]

theorem run_phrase_and (h : p.operand = some t) :
    run ⟨outer, .phrase p⟩ (.sign '&' :: tokens) =
      run ⟨outer, .phrase ⟨p.alternatives, p.factors ++ p.operand.toList, none⟩⟩ tokens := by
  simp [run, step, h, stepBehind, Phrase.and_eq h]

theorem run_phrase_close {host : Phrase} (h : p.operand = some t) :
    run ⟨(host, .parenthesis) :: outer, .phrase p⟩ [.sign ')'] =
      State.resume outer host (either p.ends) := by
  simp [run, step, h, stepBehind, Phrase.close_eq h]

/-! ## Reading alternatives -/

/-- Where an operand is wanted, the tokens put alternatives into the phrase. -/
def Reads (tokens : List Token) (ts : List Ty) : Prop :=
  ts ≠ [] ∧ ∀ outer alternatives factors,
    run ⟨outer, .phrase ⟨alternatives, factors, none⟩⟩ tokens =
      some ⟨outer, .phrase (Phrase.add alternatives factors ts)⟩

theorem Reads.or (ha : Reads ta ts) (hb : Reads tb us) :
    Reads (ta ++ .sign '|' :: tb) (ts ++ us) := by
  obtain ⟨hts, ha⟩ := ha
  obtain ⟨hus, hb⟩ := hb
  refine ⟨by simp [hts], fun outer alternatives factors => ?_⟩
  obtain ⟨t, ht⟩ := Phrase.exists_operand_add alternatives factors hts
  rw [run_append, ha, Option.bind_some, run_phrase_or ht, hb, Phrase.add_append _ _ hts hus]

/-- Alternatives of several kinds with a `|` between them. -/
theorem reads_intercalate {tokenss : List (List Token)} {tss : List (List Ty)}
    (hne : tokenss ≠ []) (h : List.Forall₂ Reads tokenss tss) :
    Reads ([.sign '|'].intercalate tokenss) tss.flatten := by
  induction h with
  | nil => exact absurd rfl hne
  | @cons tokens ts tokenss tss h hrest ih =>
    cases hrest with
    | nil => simpa using h
    | cons hnext hrest =>
      rw [List.intercalate_cons_cons, List.append_assoc]
      exact h.or (ih nofun)

theorem run_weave {tokenss : List (List Token)} {tss : List (List Ty)} (hne : tokenss ≠ [])
    (h : List.Forall₂ Reads tokenss tss) : ∀ outer alternatives factors,
      run ⟨outer, .phrase ⟨alternatives, factors, none⟩⟩ ([.sign '&'].intercalate tokenss) =
        some ⟨outer, .phrase (Phrase.weave alternatives factors tss)⟩ := by
  induction h with
  | nil => exact absurd rfl hne
  | @cons tokens ts tokenss tss h hrest ih =>
    intro outer alternatives factors
    obtain ⟨hts, hrun⟩ := h
    cases hrest with
    | nil => simpa [Phrase.weave] using hrun outer alternatives factors
    | cons hnext hrest =>
      obtain ⟨t, ht⟩ := Phrase.exists_operand_add alternatives factors hts
      rw [List.intercalate_cons_cons, List.append_assoc, List.singleton_append, run_append, hrun,
        Option.bind_some, run_phrase_and ht, ih nofun]
      rfl

/-- A phrase in brackets is one operand. -/
theorem reads_parenthesis (hp : p.operand = some t)
    (h : ∀ outer, run ⟨outer, .phrase .empty⟩ tokens = some ⟨outer, .phrase p⟩) :
    Reads (.sign '(' :: tokens ++ [.sign ')']) [either p.ends] := by
  refine ⟨nofun, fun outer alternatives factors => ?_⟩
  have hopen : step ⟨outer, .phrase ⟨alternatives, factors, none⟩⟩ (.sign '(') =
      some ⟨(⟨alternatives, factors, none⟩, .parenthesis) :: outer, .phrase .empty⟩ := rfl
  rw [List.cons_append, run, hopen, Option.bind_some, run_append, h, Option.bind_some,
    run_phrase_close hp]
  rfl

theorem Reads.array (h : Reads tokens ts) : Reads (tokens ++ [.brackets]) (listOfLast ts) := by
  obtain ⟨hts, hrun⟩ := h
  refine ⟨Phrase.listOfLast_ne_nil hts, fun outer alternatives factors => ?_⟩
  obtain ⟨t, ht⟩ := Phrase.exists_operand_add alternatives factors hts
  rw [run_append, hrun, Option.bind_some]
  simp [run, step, ht, stepBehind, Phrase.listOf_add _ _ hts]

theorem Reads.record (h : Reads tokens ts) :
    Reads ([.word "Record", .sign '<', .word "string", .sign ','] ++ tokens ++ [.sign '>'])
      [.record (.leaf [.word "string"]) (either ts)] := by
  obtain ⟨hts, hrun⟩ := h
  refine ⟨nofun, fun outer alternatives factors => ?_⟩
  have hopen : run ⟨outer, .phrase ⟨alternatives, factors, none⟩⟩
      [.word "Record", .sign '<', .word "string", .sign ','] =
        some ⟨(⟨alternatives, factors, none⟩, .recordValue (.leaf [.word "string"])) :: outer,
          .phrase .empty⟩ := rfl
  obtain ⟨t, ht⟩ := Phrase.exists_operand_add [] [] hts
  have hclose := Phrase.close_eq ht
  rw [Phrase.ends_add_nil hts] at hclose
  rw [List.append_assoc, run_append, hopen, Option.bind_some, run_append, Phrase.empty, hrun,
    Option.bind_some]
  simp [run, step, ht, stepBehind, hclose]
  rfl

/-! ## Constants in brackets -/

/-- Tokens that leave a group as deep as it is. -/
def Balanced (tokens : List Token) : Prop :=
  ∀ outer host depth read, run ⟨outer, .group host depth read⟩ tokens =
    some ⟨outer, .group host depth (read ++ tokens)⟩

theorem balanced_nil : Balanced [] := fun _ _ _ read => by rw [List.append_nil]; rfl

theorem Balanced.append (ha : Balanced ta) (hb : Balanced tb) : Balanced (ta ++ tb) := by
  intro outer host depth read
  rw [run_append, ha, Option.bind_some, hb, List.append_assoc]

theorem balanced_token {token : Token}
    (h : token ∉ [.sign '[', .sign '\x7b', .sign ']', .sign '\x7d']) : Balanced [token] := by
  simp only [List.mem_cons, List.not_mem_nil, or_false, not_or] at h
  obtain ⟨h₁, h₂, h₃, h₄⟩ := h
  intro outer host depth read
  simp [run, step, stepGroup, h₁, h₂, h₃, h₄]

theorem Balanced.group {first last : Token} (hfirst : first = .sign '[' ∨ first = .sign '\x7b')
    (hlast : last = .sign ']' ∨ last = .sign '\x7d') (h : Balanced tokens) :
    Balanced (first :: tokens ++ [last]) := by
  intro outer host depth read
  have hopen : step ⟨outer, .group host depth read⟩ first =
      some ⟨outer, .group host (depth + 1) (read ++ [first])⟩ := by
    simp [step, stepGroup, hfirst]
  have hclose (read : List Token) : run ⟨outer, .group host (depth + 1) read⟩ [last] =
      some ⟨outer, .group host depth (read ++ [last])⟩ := by
    rcases hlast with rfl | rfl <;> simp [run, step, stepGroup]
  rw [List.cons_append, run, hopen, Option.bind_some, run_append, h, Option.bind_some, hclose]
  simp

theorem balanced_intercalate {token : Token}
    (h : token ∉ [.sign '[', .sign '\x7b', .sign ']', .sign '\x7d']) {tokenss : List (List Token)}
    (hall : ∀ tokens ∈ tokenss, Balanced tokens) : Balanced ([token].intercalate tokenss) := by
  induction tokenss with
  | nil => exact balanced_nil
  | cons tokens tokenss ih =>
    obtain ⟨hhead, hrest⟩ := List.forall_mem_cons.1 hall
    cases tokenss with
    | nil => simpa using hhead
    | cons next tokenss =>
      rw [List.intercalate_cons_cons]
      exact (hhead.append (balanced_token h)).append (ih hrest)

mutual

theorem balanced_constant : ∀ v, Balanced (constantTokens v)
  | .str _ | .arr [] | .null | .bool _ | .int _ | .float _ =>
    balanced_token (by simp)
  | .arr (v :: rest) =>
    (balanced_intercalate (by simp) (balanced_items (v :: rest))).group (.inl rfl) (.inl rfl)
  | .obj fields =>
    (balanced_intercalate (by simp) (balanced_members fields)).group (.inr rfl) (.inr rfl)

theorem balanced_items : ∀ vs, ∀ tokens ∈ itemTokens vs, Balanced tokens
  | [] => nofun
  | v :: rest => List.forall_mem_cons.2 ⟨balanced_constant v, balanced_items rest⟩

theorem balanced_members : ∀ fields, ∀ tokens ∈ memberTokens fields, Balanced tokens
  | [] => nofun
  | (k, v) :: rest => by
    refine List.forall_mem_cons.2 ⟨?_, balanced_members rest⟩
    have hkey : Balanced [.quoted '"' (String.ofList (Json.escapeText k))] :=
      balanced_token (by simp)
    have hcolon : Balanced [.sign ':'] := balanced_token (by simp)
    exact hkey.append (hcolon.append (balanced_constant v))

end

/-- A token that is a leaf. -/
theorem reads_leaf {token : Token} (h : ∀ c, token ≠ .sign c) : Reads [token] [.leaf [token]] := by
  refine ⟨nofun, fun outer alternatives factors => ?_⟩
  cases token with
  | sign c => exact absurd rfl (h c)
  | word s => rfl
  | quoted mark s => rfl
  | brackets => rfl

/-- The end of the group that stands where an operand is wanted. -/
theorem run_group_end {alternatives factors : List Ty} {read : List Token} {last : Token}
    (hlast : last = .sign ']' ∨ last = .sign '\x7d') (h : Balanced tokens) :
    run ⟨outer, .group ⟨alternatives, factors, none⟩ 0 read⟩ (tokens ++ [last]) =
      some ⟨outer, .phrase
        (Phrase.add alternatives factors [.leaf (read ++ tokens ++ [last])])⟩ := by
  rw [run_append, h, Option.bind_some]
  rcases hlast with rfl | rfl <;>
    simp [run, step, stepGroup, State.resume, Phrase.put, Phrase.add]

theorem exists_head_memberTokens (k : String) (v : Json.Value)
    (rest : List (String × Json.Value)) :
    ∃ s tail, [.sign ','].intercalate (memberTokens ((k, v) :: rest)) = .quoted '"' s :: tail := by
  cases rest with
  | nil => exact ⟨_, _, by simp [memberTokens]; exact ⟨rfl, rfl⟩⟩
  | cons next rest => exact ⟨_, _, by simp [memberTokens]; exact ⟨rfl, rfl⟩⟩

/-- **A constant is one leaf.** -/
theorem reads_constant (v : Json.Value) : Reads (constantTokens v) [.leaf (constantTokens v)] := by
  have hcomma : .sign ',' ∉ [Token.sign '[', .sign '\x7b', .sign ']', .sign '\x7d'] := by decide
  cases v with
  | arr vs =>
    cases vs with
    | nil => exact reads_leaf nofun
    | cons v rest =>
      have hitems := balanced_intercalate hcomma (balanced_items (v :: rest))
      refine ⟨nofun, fun outer alternatives factors => ?_⟩
      exact @run_group_end outer _ alternatives factors [.sign '['] _ (.inl rfl) hitems
  | obj fields =>
    cases fields with
    | nil => exact ⟨nofun, fun _ _ _ => rfl⟩
    | cons member rest =>
      have hmembers := balanced_intercalate hcomma (balanced_members (member :: rest))
      obtain ⟨s, tail, htail⟩ := exists_head_memberTokens member.1 member.2 rest
      refine ⟨nofun, fun outer alternatives factors => ?_⟩
      have hend := @run_group_end outer _ alternatives factors [.sign '\x7b'] _ (.inr rfl) hmembers
      rw [constantTokens]
      -- the first key turns the member into a group that has the brace already
      rw [htail] at hend ⊢
      exact hend
  | str s => exact reads_leaf nofun
  | null => exact reads_leaf nofun
  | bool b => exact reads_leaf nofun
  | int n => exact reads_leaf nofun
  | float x => exact reads_leaf nofun

/-! ## Objects -/

/-- Tokens that are the head of a member up to its colon. -/
def IsHead (head : List Token) : Prop :=
  ∀ outer host before, run ⟨outer, .head host before 0 []⟩ (head ++ [.sign ':']) =
    some ⟨(host, .member before head) :: outer, .phrase .empty⟩

theorem isHead_of_mem_members {properties : List (PropertyHead × TypeExpr)}
    {index : Option TypeExpr} {m : List Token × TypeExpr}
    (h : m ∈ TypeExpr.members properties index) : IsHead m.1 := by
  intro outer host before
  rcases List.mem_append.1 h with h | h
  · obtain ⟨⟨head, t⟩, -, rfl⟩ := List.mem_map.1 h
    dsimp only [PropertyHead.spelling]
    cases head.optional <;> cases before <;> rfl
  · cases index with
    | none => simp at h
    | some t =>
      obtain rfl : m = (TypeExpr.indexSpelling, t) := by simpa using h
      cases before <;> rfl

/-- The members of an object are read one after another. -/
theorem run_members {members : List (List Token × TypeExpr)} (hhead : ∀ m ∈ members, IsHead m.1)
    (h : ∀ m ∈ members, Reads m.2.tokens m.2.operands) : ∀ outer host before,
      run ⟨outer, .head host before 0 []⟩
        (members.flatMap fun m => m.1 ++ .sign ':' :: m.2.tokens ++ [.sign ';']) =
          some ⟨outer, .head host
            (before ++ members.map fun m => (m.1, either m.2.operands)) 0 []⟩ := by
  induction members with
  | nil => intro outer host before; simp [run]
  | cons m rest ih =>
    intro outer host before
    obtain ⟨hm, hheads⟩ := List.forall_mem_cons.1 hhead
    obtain ⟨⟨hne, hrun⟩, hrest⟩ := List.forall_mem_cons.1 h
    obtain ⟨t, ht⟩ := Phrase.exists_operand_add [] [] hne
    have hclose := Phrase.close_eq ht
    rw [Phrase.ends_add_nil hne] at hclose
    have hend : run ⟨(host, .member before m.1) :: outer, .phrase (Phrase.add [] [] m.2.operands)⟩
        [.sign ';'] = some ⟨outer, .head host (before ++ [(m.1, either m.2.operands)]) 0 []⟩ := by
      simp [run, step, ht, stepBehind, hclose]
    have hsplit : m.1 ++ .sign ':' :: m.2.tokens ++ [.sign ';'] =
        (m.1 ++ [.sign ':']) ++ (m.2.tokens ++ [.sign ';']) := by simp
    rw [List.flatMap_cons, hsplit, run_append, run_append, hm, Option.bind_some, run_append,
      Phrase.empty, hrun, Option.bind_some, hend, Option.bind_some, ih hheads hrest]
    simp

theorem reads_object {members : List (List Token × TypeExpr)} (hne : members ≠ [])
    (hhead : ∀ m ∈ members, IsHead m.1) (h : ∀ m ∈ members, Reads m.2.tokens m.2.operands) :
    Reads (.sign '\x7b' :: members.flatMap
        (fun m => m.1 ++ .sign ':' :: m.2.tokens ++ [.sign ';']) ++ [.sign '\x7d'])
      [.object (members.map fun m => (m.1, either m.2.operands))] := by
  refine ⟨nofun, fun outer alternatives factors => ?_⟩
  have hopen : step ⟨outer, .phrase ⟨alternatives, factors, none⟩⟩ (.sign '\x7b') =
      some ⟨outer, .head ⟨alternatives, factors, none⟩ [] 0 []⟩ := rfl
  rw [List.cons_append, run, hopen, Option.bind_some, run_append, run_members hhead h,
    Option.bind_some]
  obtain ⟨m, rest, rfl⟩ := List.exists_cons_of_ne_nil hne
  rfl

end ApiTypes.TypeText

/-! ## Types -/

namespace ApiTypes.TypeExpr

open TypeText

/-- **What is read.**  The tokens of a type put its operands into the phrase. -/
theorem reads_tokens {t : TypeExpr} (h : t.All fun t => t.Plain ∧ t.Formed) :
    Reads t.tokens t.operands := by
  induction h with
  | @node t ht _ ih =>
    obtain ⟨hplain, hformed⟩ := ht
    have hbranches {branches : List TypeExpr} (hc : ∀ b ∈ branches, Reads b.tokens b.operands) :
        List.Forall₂ Reads (branches.map tokens) (branches.map operands) :=
      List.forall₂_map_left_iff.2 (List.forall₂_map_right_iff.2 (List.forall₂_same.2 hc))
    cases t with
    | keyword k =>
      rw [tokens, operands]
      exact reads_leaf (by simp)
    | named name =>
      rw [tokens, operands]
      exact reads_leaf (by simp)
    | literals constants =>
      have hall : List.Forall₂ Reads (constants.map Literal.spelling)
          (constants.map fun c => [Ty.leaf c.spelling]) := by
        refine List.forall₂_map_left_iff.2 (List.forall₂_map_right_iff.2 ?_)
        refine List.forall₂_same.2 fun c hc => ?_
        have hspells := Literal.spells_form (hformed.2 c hc) fun s hs => hplain s (hs ▸ hc)
        rcases hspells.2 with ⟨s, hs⟩ | ⟨v, hv⟩
        · rw [hs]
          exact reads_leaf (by simp)
        · rw [hv]
          exact reads_constant v
      have hne : constants.map Literal.spelling ≠ [] := by simpa using hformed.1
      have hleaves : (constants.map fun c => [Ty.leaf c.spelling]).flatten =
          constants.map fun c => .leaf c.spelling := by
        rw [← List.flatMap_def, List.map_eq_flatMap]
      rw [tokens, operands, ← hleaves]
      exact reads_intercalate hne hall
    | orNull base =>
      rw [tokens, operands]
      exact (ih base List.mem_cons_self).or (reads_leaf (by simp))
    | union branches =>
      have hsome : branches ≠ [] := hformed
      have hread := reads_intercalate (by simpa using hsome) (@hbranches branches ih)
      obtain ⟨t, ht⟩ := Phrase.exists_operand_add [] [] hread.1
      rw [tokens, operands]
      have := reads_parenthesis ht fun outer => hread.2 outer [] []
      rwa [Phrase.ends_add_nil hread.1] at this
    | intersection branches =>
      have hsome : branches ≠ [] := hformed
      have hrun := run_weave (by simpa using hsome) (@hbranches branches ih)
      have hne : ∀ ts ∈ branches.map operands, ts ≠ [] := by
        intro ts hts
        obtain ⟨b, hb, rfl⟩ := List.mem_map.1 hts
        exact (ih b hb).1
      obtain ⟨t, ht⟩ := Phrase.exists_operand_weave [] [] (by simpa using hsome) hne
      rw [tokens, operands]
      exact reads_parenthesis ht fun outer => hrun outer [] []
    | array items =>
      rw [tokens, operands]
      exact (ih items List.mem_cons_self).array
    | record values =>
      rw [tokens, operands]
      exact (ih values List.mem_cons_self).record
    | object properties index =>
      have hsome : properties ≠ [] := hformed
      have hne : members properties index ≠ [] := by simp [members, hsome]
      rw [tokens_object, operands_object]
      refine reads_object hne (fun m => isHead_of_mem_members) fun m hm => ih m.2 ?_
      rw [← map_members]
      exact List.mem_map_of_mem hm

/-- **What the text of a type is read as.** -/
theorem parse_text {t : TypeExpr} (h : t.All fun t => t.Plain ∧ t.Formed) :
    parse t.text = some (either t.operands) := by
  obtain ⟨hne, hrun⟩ := reads_tokens h
  obtain ⟨u, hu⟩ := Phrase.exists_operand_add [] [] hne
  have hclose := Phrase.close_eq hu
  rw [Phrase.ends_add_nil hne] at hclose
  rw [parse, (spells_text h).tokens?_eq, Option.bind_some, TypeText.read, Phrase.empty, hrun]
  exact hclose

end ApiTypes.TypeExpr
