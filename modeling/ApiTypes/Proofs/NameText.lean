/-
  What endpoint names look like.

  A name is made of the segments of a path, in lower case and joined by underscores,
  and of what tells it apart from others: a method, parameters or a number.

  * `Lowered`: what a text can be in lower case, whatever stands around it;
  * none of these brings in a mark, so a name has those of its segments only
    (`Naming.not_mem_name`), and no slash (`slash_not_mem_resolve`);
  * a name has a character in front of its first joining underscore, so it is
    `_self` for an endpoint outside of all folders only
    (`Endpoint.Extends.folder_eq_empty`).
-/
import ApiTypes.Endpoint
import ApiTypes.Proofs.ParameterSuffix
import ApiTypes.Proofs.Places

namespace ApiTypes

/-! ## Joined and lower-case texts -/

namespace Text

/-- What a character can be in lower case: the capital sigma is written differently at the
    end of a word. -/
def Form (c : Char) (form : List Char) : Prop :=
  form = lowerChar c ∨ c = 'Σ' ∧ (form = ['σ'] ∨ form = ['ς'])

/-- What a text can be in lower case, whatever stands around it. -/
inductive Lowered : List Char → List Char → Prop
  | nil : Lowered [] []
  | cons {c form cs ds} : Form c form → Lowered cs ds → Lowered (c :: cs) (form ++ ds)

theorem lowered_lowerChars : ∀ before cs : List Char, Lowered cs (lowerChars before cs)
  | _, [] => .nil
  | before, c :: rest => by
    rw [lowerChars]
    refine .cons ?_ (lowered_lowerChars (c :: before) rest)
    split
    · next hsigma =>
      have hc : c = 'Σ' := by rw [← Char.ofNat_toNat c, hsigma]
      refine Or.inr ⟨hc, ?_⟩
      split
      · exact Or.inr rfl
      · exact Or.inl rfl
    · exact Or.inl rfl

theorem lowered_lower (s : String) : Lowered s.toList (lower s).toList := by
  rw [lower, String.toList_ofList]
  exact lowered_lowerChars [] s.toList

theorem Lowered.exists_of_append {cs cs' ds : List Char} (h : Lowered (cs ++ cs') ds) :
    ∃ es es', ds = es ++ es' ∧ Lowered cs es ∧ Lowered cs' es' := by
  induction cs generalizing ds with
  | nil => exact ⟨[], ds, rfl, .nil, h⟩
  | cons c cs ih =>
    rw [List.cons_append] at h
    obtain _ | ⟨hform, h⟩ := h
    obtain ⟨es, es', rfl, hcs, hcs'⟩ := ih h
    exact ⟨_, es', (List.append_assoc ..).symm, .cons hform hcs, hcs'⟩

theorem Form.ne_nil {c : Char} {form : List Char} (h : Form c form) : form ≠ [] := by
  rcases h with rfl | ⟨-, rfl | rfl⟩
  · exact lowerChar_ne_nil c
  · exact List.cons_ne_nil _ _
  · exact List.cons_ne_nil _ _

theorem Form.eq_self {c : Char} {form : List Char} (h : Form c form) (hlower : lowerChar c = [c])
    (hc : c ≠ 'Σ') : form = [c] := by
  rcases h with rfl | ⟨hsigma, -⟩
  · exact hlower
  · exact absurd hsigma hc

theorem Lowered.ne_nil {cs ds : List Char} (h : Lowered cs ds) (hcs : cs ≠ []) : ds ≠ [] := by
  obtain _ | ⟨hform, -⟩ := h
  · exact absurd rfl hcs
  · exact List.append_ne_nil_of_left_ne_nil hform.ne_nil _

/-- Lower case brings in no mark. -/
theorem Lowered.not_mem {c : Char} (hc : IsMark c) {cs ds : List Char} (h : Lowered cs ds)
    (hcs : c ∉ cs) : c ∉ ds := by
  induction h with
  | nil => exact List.not_mem_nil
  | cons hform _ ih =>
    rw [List.mem_cons, not_or] at hcs
    rw [List.mem_append, not_or]
    refine ⟨?_, ih hcs.2⟩
    rcases hform with rfl | ⟨-, rfl | rfl⟩
    · exact fun hmem => hcs.1 (eq_of_mem_lowerChar hc hmem).symm
    · exact fun hmem => absurd (List.mem_singleton.1 hmem ▸ hc) (by decide)
    · exact fun hmem => absurd (List.mem_singleton.1 hmem ▸ hc) (by decide)

end Text

/-! ## Names of paths -/

namespace Naming

theorem mem_of_mem_clean {segment : String} {c : Char} (hc : c ≠ '_')
    (h : c ∈ (clean segment).toList) : c ∈ segment.toList ∧ c ≠ '-' := by
  rw [clean, String.toList_map, List.mem_map] at h
  obtain ⟨d, hd, he⟩ := h
  split at he
  · exact absurd he.symm hc
  · next hne => exact he ▸ ⟨hd, hne⟩

theorem slash_not_mem_of_mem_segments {path segment : String} {skip : Nat}
    (h : segment ∈ segments path skip) : '/' ∉ segment.toList :=
  Text.not_mem_of_mem_split (List.mem_filter.1 (List.mem_of_mem_drop h)).1

theorem slash_not_mem_clean {path segment : String} {skip : Nat}
    (h : segment ∈ segments path skip) : '/' ∉ (clean segment).toList := fun hmem =>
  slash_not_mem_of_mem_segments h (mem_of_mem_clean (by decide) hmem).1

/-- A name has the marks of its segments only. -/
theorem not_mem_name {c : Char} (hc : Text.IsMark c) (hjoin : c ≠ '_') {path : String} {skip : Nat}
    (h : ∀ segment ∈ segments path skip, c ∉ (clean segment).toList) :
    c ∉ (name path skip).toList := by
  unfold name
  split
  · intro hroot
    have hletters : rootName.toList.all Char.isAlpha = true := by decide
    have hletter := List.all_eq_true.1 hletters c hroot
    rw [hc.2.2] at hletter
    cases hletter
  · next kept hkept =>
    refine (Text.lowered_lower _).not_mem hc (Text.not_mem_join ?_ (List.forall_mem_map.2 h))
    exact fun hmem => hjoin (List.mem_singleton.1 hmem)

theorem slash_not_mem_name (path : String) (skip : Nat) : '/' ∉ (name path skip).toList :=
  not_mem_name (by decide) (by decide) fun _ => slash_not_mem_clean

theorem clean_ne_nil {path segment : String} {skip : Nat} (h : segment ∈ segments path skip) :
    (clean segment).toList ≠ [] := by
  have hkept := (List.mem_filter.1 (List.mem_of_mem_drop h)).2
  rw [clean, String.toList_map]
  intro hnil
  obtain rfl : segment = "" := String.toList_injective (List.map_eq_nil_iff.1 hnil)
  exact absurd hkept (by decide)

/-- A name has a first character, and behind it an underscore if there is a folder. -/
theorem exists_name_eq (path : String) (skip : Nat) :
    ∃ c cs, (name path skip).toList = c :: cs ∧ (folder path skip ≠ "" → '_' ∈ cs) := by
  unfold name folder
  cases hsegments : segments path skip with
  | nil => exact ⟨'r', _, rfl, fun h => absurd rfl h⟩
  | cons first rest =>
    have hmem : first ∈ segments path skip := hsegments ▸ List.mem_cons_self
    have hfirst := clean_ne_nil hmem
    have hlowered := Text.lowered_lower (Text.join "_" ((first :: rest).map clean))
    rw [Text.toList_join] at hlowered
    cases rest with
    | nil =>
      rw [List.map_singleton, List.map_singleton, List.intercalate_singleton] at hlowered
      obtain ⟨c, cs, hc⟩ := List.exists_cons_of_ne_nil (hlowered.ne_nil hfirst)
      exact ⟨c, cs, hc, fun h => absurd rfl h⟩
    | cons second rest =>
      rw [List.map_cons, List.map_cons, List.map_cons, List.map_cons,
        List.intercalate_cons_cons, List.append_assoc] at hlowered
      obtain ⟨es, es', hname, hes, hbehind⟩ := hlowered.exists_of_append
      obtain ⟨c, cs, rfl⟩ := List.exists_cons_of_ne_nil (hes.ne_nil hfirst)
      obtain _ | ⟨hjoin, -⟩ := hbehind
      obtain rfl := hjoin.eq_self (by decide) (by decide)
      exact ⟨c, _, hname, fun _ => List.mem_append_right _ List.mem_cons_self⟩

/-- The suffix made of parameters holds plain letters, digits and underscores. -/
theorem not_mem_parameterSuffix {c : Char} (hplain : isPlain c = false) (hc : c ≠ '_')
    (parameters : List String) : c ∉ (parameterSuffix parameters).toList := by
  intro hmem
  rcases isPlain_or_of_mem_parameterSuffix hmem with h | h
  · exact Bool.false_ne_true (hplain.symm.trans h)
  · exact hc h

end Naming

/-! ## Names of endpoints -/

namespace Endpoint

variable {P : String → Prop} {proposals : List Proposal}

/-- Names have the properties of what they are made of. -/
theorem forall_mem_resolve (hP : Joinable P) (hbase : ∀ p ∈ proposals, P p.baseName)
    (h : ∀ p ∈ proposals, p.Adds P) : ∀ name ∈ resolve proposals, P name := by
  intro name hname
  obtain ⟨p, hp, hextends⟩ := Steps.exists_mem_of_forall₂_right (resolve_extendsBy hP h) hname
  exact hextends.of_base hP (hbase p hp)

theorem joinable_slash_not_mem : Joinable fun name => '/' ∉ name.toList where
  join ha hb := by
    simp only [String.toList_append, List.mem_append, not_or]
    exact ⟨⟨ha, by decide⟩, hb⟩
  number n hslash := by
    have hdigit := Nat.isDigit_of_mem_toDigits (by decide) (by decide) (Nat.toList_repr ▸ hslash)
    exact absurd hdigit (by decide)

theorem method_mem_methods {path : String} {item : Json.Value} {operation : Operation}
    (h : operation ∈ operationsOf path item) : operation.method ∈ methods := by
  unfold operationsOf at h
  split at h
  · obtain ⟨method, hmethod, hsome⟩ := List.mem_filterMap.1 h
    split at hsome
    · obtain rfl := Option.some.inj hsome
      exact hmethod
    · cases hsome
  · exact absurd h List.not_mem_nil

theorem slash_not_mem_of_mem_methods : ∀ method ∈ methods, '/' ∉ method.toList := by decide

/-- What tells the operations of a document apart has the properties of methods and of
    parameters. -/
theorem adds_of_operations {document : Json.Value} {found : List Operation}
    (hmethods : ∀ method ∈ methods, P method)
    (hparameters : ∀ parameters, P (Naming.parameterSuffix parameters))
    (h : operations document = .ok found) (skip : Nat) :
    ∀ p ∈ found.map (·.proposal skip), p.Adds P := by
  obtain ⟨paths, -, h⟩ := Steps.bind_eq_ok.1 h
  obtain rfl := Except.ok.inj h
  refine List.forall_mem_map.2 fun operation hop => ?_
  obtain ⟨⟨path, item⟩, -, hop⟩ := List.mem_flatMap.1 hop
  exact ⟨hmethods _ (method_mem_methods hop), hparameters _⟩

/-- The names of the operations of a document have no slash. -/
theorem slash_not_mem_resolve {document : Json.Value} {found : List Operation}
    (h : operations document = .ok found) (skip : Nat) :
    ∀ name ∈ resolve (found.map (·.proposal skip)), '/' ∉ name.toList := by
  refine forall_mem_resolve joinable_slash_not_mem
    (List.forall_mem_map.2 fun operation _ => Naming.slash_not_mem_name _ _) ?_
  exact adds_of_operations slash_not_mem_of_mem_methods
    (Naming.not_mem_parameterSuffix (by decide) (by decide)) h skip

/-- Only outside of all folders a name is the reserved key. -/
theorem Extends.folder_eq_empty {path : String} {skip : Nat}
    (h : Extends (Naming.name path skip) "_self") : Naming.folder path skip = "" := by
  obtain ⟨c, cs, hname, hfolder⟩ := Naming.exists_name_eq path skip
  have hself : "_self".toList = ['_', 's', 'e', 'l', 'f'] := by decide
  rcases h with he | ⟨text, he⟩
  · by_contra hne
    rw [← he, hself] at hname
    have hmem := hfolder hne
    rw [← (List.cons.inj hname).2] at hmem
    exact absurd hmem (by decide)
  · -- the joining underscore stands behind the first character
    have hlist := congrArg String.toList he
    rw [String.toList_append, String.toList_append, hname, hself] at hlist
    have hmem : '_' ∈ ['s', 'e', 'l', 'f'] := by
      rw [(List.cons.inj hlist).2]
      exact List.mem_append_left _ (List.mem_append_right _ List.mem_cons_self)
    exact absurd hmem (by decide)

end Endpoint

end ApiTypes
